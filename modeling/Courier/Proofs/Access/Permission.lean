import Courier.Access.Permission
import Courier.Proofs.Access.Writable
import Courier.Proofs.Collection.Row
import Courier.Proofs.Text.Blank
import Mathlib.Data.List.Induction

/-!
# Headers that tell permissions

Which headers can be read, and what they mean.  Between commas, blanks apart, a header holds groups
(`Permissions.IsGroup`): a key, an equals sign and a quoted row of modes with blanks between them
(`Permissions.IsRow`).  Everything that is not empty must be a group, also if nobody looks at its
key.  Of several groups of a key the last counts (`Permissions.granted`).

Whatever modes are written for who asks and for everybody, in whatever order and with whatever
blanks, empty pieces and groups of other keys, are read again as they are
(`Permissions.parse_grammar`).
-/

namespace Courier

namespace Permission

lemma ofWord?_eq_some_iff {text : String} {mode : Permission} :
    ofWord? text = some mode ↔ text = mode.word := by
  constructor
  · intro h
    unfold ofWord? at h
    have hword := List.find?_some h
    exact (beq_iff_eq.1 hword).symm
  · rintro rfl
    cases mode <;> decide

/-- The word for a mode has no blanks. -/
lemma isBlank_of_mem_word {mode : Permission} {c : Char} (h : c ∈ mode.word.toList) :
    Text.isBlank c = false := by
  refine eq_false_of_any ?_ h
  cases mode <;> decide

lemma exists_word_eq_cons (mode : Permission) : ∃ c cs, mode.word.toList = c :: cs := by
  cases mode <;> exact ⟨_, _, rfl⟩

end Permission

namespace Permissions

/-! ### Groups -/

/-- Whether the text is a row of modes: their words in order, blanks between them, and maybe blanks
around them. -/
inductive IsRow : List Char → List Permission → Prop where
  /-- Nothing is a row without modes. -/
  | nil : IsRow [] []
  /-- There may be a blank in front. -/
  | blank {c : Char} {cs : List Char} {row : List Permission} (hc : Text.isBlank c = true)
      (h : IsRow cs row) : IsRow (c :: cs) row
  /-- The word for a mode is a row. -/
  | last (mode : Permission) : IsRow mode.word.toList [mode]
  /-- A blank separates a word from the row of the others. -/
  | cons (mode : Permission) {c : Char} {cs : List Char} {row : List Permission}
      (hc : Text.isBlank c = true) (h : IsRow cs row) :
      IsRow (mode.word.toList ++ c :: cs) (mode :: row)

/-- Whether the piece is a group with the key and the row of modes.  Its first equals sign separates
the key from a value in quotes; there may be blanks around both. -/
def IsGroup (piece key : String) (row : List Permission) : Prop :=
  ∃ left value inside, piece = left ++ "=" ++ value ∧ '=' ∉ left.toList ∧
    Text.trim left = key ∧ Text.trim value = "\"" ++ inside ++ "\"" ∧ IsRow inside.toList row

/-- What the last of the groups with the key grants, each mode where it came first. -/
def granted (gs : List (String × List Permission)) (key : String) : List Permission :=
  (((gs.filter (·.1 = key)).getLast?).elim [] (·.2)).eraseDups

section Groups

variable {piece key : String} {row granting : List Permission}

/-- The words between the blanks of a text are those for the modes exactly if it is a row of
them. -/
lemma filter_pieces_eq_iff {cs : List Char} {row : List Permission} :
    (Text.pieces Text.isBlank cs).filter (!·.isEmpty) = row.map (·.word.toList) ↔
      IsRow cs row := by
  constructor
  · -- Induction on the text, which loses its first piece with the blank after it.
    induction hlength : cs.length using Nat.strongRecOn generalizing cs row with
    | ind n ih =>
      intro h
      obtain ⟨first, rest, hpieces⟩ := Text.exists_pieces_eq_cons Text.isBlank cs
      cases rest with
      | nil =>
        obtain rfl := Text.eq_of_pieces_eq_singleton hpieces
        rw [hpieces] at h
        cases cs with
        | nil =>
          obtain rfl : row = [] := by simpa using h.symm
          exact .nil
        | cons c cs =>
          obtain ⟨mode, rfl, hword⟩ := List.map_eq_singleton_iff.1 h.symm
          exact hword ▸ .last mode
      | cons next rest =>
        obtain ⟨c, tail, hc, rfl, htail⟩ := Text.exists_of_pieces_eq_cons hpieces
        have hshorter : tail.length < n := by
          rw [List.length_append, List.length_cons] at hlength
          omega
        rw [hpieces] at h
        cases first with
        | nil => exact .blank hc (ih _ hshorter rfl (htail ▸ h))
        | cons d ds =>
          obtain ⟨mode, row, rfl, hword, hrow⟩ := List.map_eq_cons_iff.1 h.symm
          exact hword ▸ .cons mode hc (ih _ hshorter rfl (htail ▸ hrow.symm))
  · intro h
    induction h with
    | nil => rfl
    | blank hc _ ih =>
      rw [Text.pieces_cons_of_pos hc]
      exact ih
    | last mode =>
      obtain ⟨c, cs, hword⟩ := mode.exists_word_eq_cons
      rw [Text.pieces_eq_singleton fun _ => Permission.isBlank_of_mem_word, List.map_singleton,
        hword]
      rfl
    | cons mode hc _ ih =>
      obtain ⟨c, cs, hword⟩ := mode.exists_word_eq_cons
      rw [Text.pieces_append (fun _ => Permission.isBlank_of_mem_word) hc, List.map_cons, ← ih,
        hword]
      rfl

lemma words_eq_iff {inside : String} :
    Text.words inside = row.map Permission.word ↔ IsRow inside.toList row := by
  unfold Text.words
  rw [← filter_pieces_eq_iff]
  constructor
  · intro h
    have hlists := congrArg (List.map String.toList) h
    rw [List.map_map, List.map_map] at hlists
    have hid : String.toList ∘ String.ofList = id := by
      funext cs
      exact String.toList_ofList
    rw [hid, List.map_id] at hlists
    exact hlists
  · intro h
    rw [h, List.map_map]
    refine List.map_congr_left fun mode _ => ?_
    exact String.ofList_toList

/-- Words are read if they are words for modes, and what is read holds each mode once. -/
lemma modes_eq_ok_iff {words : List String} :
    modes words = .ok granting ↔
      ∃ row : List Permission, words = row.map Permission.word ∧ granting = row.eraseDups := by
  induction words generalizing granting with
  | nil =>
    constructor
    · intro h
      cases h
      exact ⟨[], rfl, rfl⟩
    · rintro ⟨row, hrow, rfl⟩
      obtain rfl := List.map_eq_nil_iff.1 hrow.symm
      rfl
  | cons word words ih =>
    -- What is left of the later modes is what comes first among the others.
    have hlater : ∀ (mode : Permission) (row : List Permission),
        mode :: row.eraseDups.filter (· != mode) = (mode :: row).eraseDups := by
      intro mode row
      rw [List.eraseDups_cons, ← eraseDups_filter]
      rfl
    constructor
    · intro h
      rw [modes] at h
      split at h
      next => cases h
      next mode hword =>
        cases hrest : modes words with
        | error e => rw [hrest] at h; cases h
        | ok later =>
          rw [hrest] at h
          cases h
          obtain ⟨row, rfl, rfl⟩ := ih.1 hrest
          exact ⟨mode :: row, by rw [List.map_cons, Permission.ofWord?_eq_some_iff.1 hword],
            hlater mode row⟩
    · rintro ⟨row, hrow, rfl⟩
      obtain ⟨mode, row, rfl, rfl, rfl⟩ := List.map_eq_cons_iff.1 hrow.symm
      rw [modes, Permission.ofWord?_eq_some_iff.2 rfl]
      dsimp only
      rw [ih.2 ⟨row, rfl, rfl⟩]
      exact congrArg Except.ok (hlater mode row)

/-- The text between two quotes that are different. -/
lemma unquote?_eq_some_iff {text inside : String} :
    unquote? text = some inside ↔ text = "\"" ++ inside ++ "\"" := by
  have hlist : ("\"" ++ inside ++ "\"").toList = '"' :: (inside.toList ++ ['"']) := by
    simp
  unfold unquote?
  rw [← String.toList_inj, hlist]
  constructor
  · intro h
    split at h
    next rest htext =>
      split at h
      next hlast =>
        cases h
        rw [htext, String.toList_ofList, List.dropLast_append_getLast? _ hlast]
      next => cases h
    next => cases h
  · intro h
    rw [h]
    simp

/-- The groups that are read, and what they grant. -/
lemma group_eq_ok_iff {g : String × List Permission} :
    group piece = .ok g ↔ ∃ row, IsGroup piece g.1 row ∧ g.2 = row.eraseDups := by
  constructor
  · intro h
    unfold group at h
    split at h
    next => cases h
    next left value hsplit =>
      split at h
      next => cases h
      next inside hvalue =>
        cases hmodes : modes (Text.words inside) with
        | error e => rw [hmodes] at h; cases h
        | ok granting =>
          rw [hmodes] at h
          cases h
          obtain ⟨hpiece, hleft⟩ := Text.splitOnce_eq_some_iff.1 hsplit
          obtain ⟨row, hwords, hgranting⟩ := modes_eq_ok_iff.1 hmodes
          exact ⟨row, ⟨left, value, inside, hpiece, hleft, rfl, unquote?_eq_some_iff.1 hvalue,
            words_eq_iff.1 hwords⟩, hgranting⟩
  · obtain ⟨key, granting⟩ := g
    rintro ⟨row, ⟨left, value, inside, hpiece, hleft, rfl, hvalue, hrow⟩, rfl⟩
    have hmodes := modes_eq_ok_iff.2 ⟨row, words_eq_iff.2 hrow, rfl⟩
    have hsplit : Text.splitOnce '=' piece = some (left, value) :=
      Text.splitOnce_eq_some_iff.2 ⟨hpiece, hleft⟩
    unfold group
    rw [hsplit]
    dsimp only
    rw [unquote?_eq_some_iff.2 hvalue]
    dsimp only
    rw [hmodes]
    rfl

end Groups

/-! ### Headers -/

section Headers

variable {header : String} {gs : List (String × List Permission)}

lemma add_eq (p : Permissions) (key : String) (granting : List Permission) :
    p.add (key, granting) =
      { user := if key = "user" then granting else p.user
        everybody := if key = "public" then granting else p.everybody } := by
  unfold add
  split
  next heq =>
    cases heq
    rfl
  next heq =>
    cases heq
    rfl
  next huser hpublic =>
    have huser' : key ≠ "user" := fun h => huser granting (by rw [h])
    have hpublic' : key ≠ "public" := fun h => hpublic granting (by rw [h])
    rw [if_neg huser', if_neg hpublic']

lemma granted_concat (gs : List (String × List Permission)) (g : String × List Permission)
    (key : String) :
    granted (gs ++ [g]) key = if g.1 = key then g.2.eraseDups else granted gs key := by
  unfold granted
  rw [List.filter_append]
  by_cases hkey : g.1 = key
  · simp [hkey]
  · simp [hkey]

/-- One group after the other, the last of a key decides. -/
lemma foldl_add_eq (gs : List (String × List Permission)) :
    (gs.map fun g => (g.1, g.2.eraseDups)).foldl add {} =
      ⟨granted gs "user", granted gs "public"⟩ := by
  induction gs using List.reverseRecOn with
  | nil => rfl
  | append_singleton gs g ih =>
    rw [List.map_append, List.foldl_append, ih, granted_concat, granted_concat]
    exact add_eq _ _ _

/-- Groups that the pieces of a header may be. -/
lemma exists_forall₂_isGroup_iff {pieces : List String} :
    (∃ gs : List (String × List Permission),
        List.Forall₂ (fun piece g => IsGroup piece g.1 g.2) pieces gs) ↔
      ∀ piece ∈ pieces, ∃ key row, IsGroup piece key row := by
  rw [exists_forall₂_iff]
  simp only [Prod.exists]

/-- What is read in a header whose pieces are groups. -/
lemma parse_of_groups (h : List.Forall₂ (fun piece g => IsGroup piece g.1 g.2) (groups header) gs) :
    parse header = .ok ⟨granted gs "user", granted gs "public"⟩ := by
  have hgroups : (groups header).mapM group = .ok (gs.map fun g => (g.1, g.2.eraseDups)) := by
    rw [mapM_eq_ok_iff, List.forall₂_map_right_iff]
    exact h.imp fun piece g hg => group_eq_ok_iff.2 ⟨g.2, hg, rfl⟩
  unfold parse
  rw [hgroups]
  dsimp only
  rw [foldl_add_eq]

/-- A header can be read exactly if its pieces are groups. -/
theorem exists_parse_eq_ok_iff (header : String) :
    (∃ p, parse header = .ok p) ↔ ∀ piece ∈ groups header, ∃ key row, IsGroup piece key row := by
  constructor
  · rintro ⟨p, hp⟩
    unfold parse at hp
    split at hp
    next gs hgs =>
      intro piece hpiece
      obtain ⟨g, hg⟩ := exists_forall₂_iff.1 ⟨gs, mapM_eq_ok_iff.1 hgs⟩ piece hpiece
      obtain ⟨row, hrow, -⟩ := group_eq_ok_iff.1 hg
      exact ⟨g.1, row, hrow⟩
    next => cases hp
  · intro h
    obtain ⟨gs, hgs⟩ := exists_forall₂_isGroup_iff.2 h
    exact ⟨_, parse_of_groups hgs⟩

/-- What is read in a header are its groups, the last ones of both keys. -/
theorem parse_eq_ok_iff_groups {p : Permissions} :
    parse header = .ok p ↔
      ∃ gs, List.Forall₂ (fun piece g => IsGroup piece g.1 g.2) (groups header) gs ∧
        p = ⟨granted gs "user", granted gs "public"⟩ := by
  constructor
  · intro hp
    obtain ⟨gs, hgs⟩ := exists_forall₂_isGroup_iff.2 ((exists_parse_eq_ok_iff header).1 ⟨p, hp⟩)
    have hread := parse_of_groups hgs
    rw [hp] at hread
    exact ⟨gs, hgs, Except.ok.inj hread⟩
  · rintro ⟨gs, hgs, rfl⟩
    exact parse_of_groups hgs

end Headers

/-! ### Written headers -/

/-- Whether the piece is the group with the key and the row of modes as somebody may write it, with
blanks between its parts and around them. -/
def WritesGroup (piece key : String) (row : List Permission) : Prop :=
  ∃ b₁ b₂ b₃ inside b₄, (∀ b ∈ [b₁, b₂, b₃, b₄], Text.isBlankText b = true) ∧
    IsRow inside.toList row ∧
    piece = b₁ ++ (key ++ b₂ ++ "=" ++ b₃ ++ "\"" ++ inside ++ "\"") ++ b₄

/-- Whether the piece says nothing about who asks and everybody: it is blank, or a group of another
key. -/
def IsPassedOver (piece : String) : Prop :=
  Text.isBlankText piece = true ∨
    ',' ∉ piece.toList ∧
      ∃ key row, IsGroup (Text.trim piece) key row ∧ key ≠ "user" ∧ key ≠ "public"

/-- Whether the header is written for these modes: groups of who asks and of everybody, the one
before the other or the other way around, and pieces without meaning before, between and after
them. -/
def Writes (header : String) (user everybody : List Permission) : Prop :=
  ∃ before first middle second after,
    header = String.intercalate "," (before ++ first :: (middle ++ second :: after)) ∧
    (∀ piece ∈ before ++ middle ++ after, IsPassedOver piece) ∧
    (WritesGroup first "user" user ∧ WritesGroup second "public" everybody ∨
      WritesGroup first "public" everybody ∧ WritesGroup second "user" user)

section Writing

variable {piece key header : String} {row user everybody : List Permission}

/-- Neither blanks nor rows of modes hold a comma, and blanks hold no equals sign. -/
lemma comma_notMem_of_isBlankText (h : Text.isBlankText piece = true) :
    ',' ∉ piece.toList ∧ '=' ∉ piece.toList := by
  have hblank : ∀ c ∈ piece.toList, Text.isBlank c = true := List.all_eq_true.1 h
  constructor
  · intro hc
    exact absurd (hblank _ hc) (by decide)
  · intro hc
    exact absurd (hblank _ hc) (by decide)

lemma IsRow.comma_notMem {cs : List Char} (h : IsRow cs row) : ',' ∉ cs := by
  have hword : ∀ mode : Permission, ',' ∉ mode.word.toList := by
    intro mode
    cases mode <;> decide
  have hblank : ∀ {c : Char}, Text.isBlank c = true → ',' ≠ c := by
    rintro _ hc rfl
    exact absurd hc (by decide)
  induction h with
  | nil => exact List.not_mem_nil
  | blank hc _ ih => exact List.not_mem_cons_of_ne_of_not_mem (hblank hc) ih
  | last mode => exact hword mode
  | cons mode hc _ ih =>
    rw [List.mem_append]
    rintro (hmem | hmem)
    · exact hword mode hmem
    · exact List.not_mem_cons_of_ne_of_not_mem (hblank hc) ih hmem

/-- A written group is a group, and no comma cuts it. -/
lemma WritesGroup.isGroup (h : WritesGroup piece key row) (hkey : key = "user" ∨ key = "public") :
    IsGroup (Text.trim piece) key row ∧ ',' ∉ piece.toList := by
  obtain ⟨b₁, b₂, b₃, inside, b₄, hblanks, hrow, rfl⟩ := h
  have hb₁ := hblanks b₁ (by simp)
  have hb₂ := hblanks b₂ (by simp)
  have hb₃ := hblanks b₃ (by simp)
  have hb₄ := hblanks b₄ (by simp)
  have hplain : ∀ c ∈ key.toList, Text.isBlank c = false ∧ c ≠ ',' ∧ c ≠ '=' := by
    have hall : key.toList.all (fun c => !Text.isBlank c && c != ',' && c != '=') = true := by
      rcases hkey with rfl | rfl <;> decide
    simpa [and_assoc] using hall
  obtain ⟨c, cs, hcons⟩ : ∃ c cs, key.toList = c :: cs := by
    rcases hkey with rfl | rfl <;> exact ⟨_, _, rfl⟩
  have hquoted : Text.trim ("\"" ++ inside ++ "\"") = "\"" ++ inside ++ "\"" :=
    Text.trim_of_ends (f := '"') (l := '"') (by simp) (by simp [List.getLast?_cons]) (by decide)
      (by decide)
  constructor
  · have hends : Text.trim (key ++ b₂ ++ "=" ++ b₃ ++ "\"" ++ inside ++ "\"") =
        key ++ b₂ ++ "=" ++ b₃ ++ "\"" ++ inside ++ "\"" := by
      exact Text.trim_of_ends (f := c) (l := '"') (by simp [hcons])
        (by simp [List.getLast?_cons]) (hplain c (by simp [hcons])).1 (by decide)
    rw [Text.trim_blanks_append hb₁ hb₄, hends]
    refine ⟨key ++ b₂, b₃ ++ ("\"" ++ inside ++ "\""), inside, ?_, ?_, ?_, ?_, hrow⟩
    · simp only [String.append_assoc]
    · rw [String.toList_append, List.mem_append]
      rintro (hmem | hmem)
      · exact (hplain _ hmem).2.2 rfl
      · exact (comma_notMem_of_isBlankText hb₂).2 hmem
    · have htrim := Text.trim_blanks_append (b := "") (by decide) hb₂ key
      rw [String.empty_append] at htrim
      exact htrim.trans (Text.trim_eq_self fun c hc => (hplain c hc).1)
    · have htrim := Text.trim_blanks_append (a := "") hb₃ (by decide)
        ("\"" ++ inside ++ "\"")
      rw [String.append_empty] at htrim
      exact htrim.trans hquoted
  · have hcomma : ',' ∉ key.toList := fun hmem => (hplain _ hmem).2.1 rfl
    simp [hcomma, hrow.comma_notMem, (comma_notMem_of_isBlankText hb₁).1,
      (comma_notMem_of_isBlankText hb₂).1, (comma_notMem_of_isBlankText hb₃).1,
      (comma_notMem_of_isBlankText hb₄).1]

lemma IsPassedOver.comma_notMem (h : IsPassedOver piece) : ',' ∉ piece.toList := by
  rcases h with hblank | ⟨hcomma, -⟩
  · exact (comma_notMem_of_isBlankText hblank).1
  · exact hcomma

/-- Pieces that are passed over are groups of other keys, where they are not empty. -/
lemma exists_groups_of_isPassedOver (row : List String) (h : ∀ piece ∈ row, IsPassedOver piece) :
    ∃ gs : List (String × List Permission),
      List.Forall₂ (fun piece g => IsGroup piece g.1 g.2)
        ((row.map Text.trim).filter (!·.isEmpty)) gs ∧
      gs.filter (·.1 = "user") = [] ∧ gs.filter (·.1 = "public") = [] := by
  have hpieces : ∀ piece ∈ (row.map Text.trim).filter (!·.isEmpty),
      ∃ g : String × List Permission,
        (g.1 ≠ "user" ∧ g.1 ≠ "public") ∧ IsGroup piece g.1 g.2 := by
    intro trimmed hmem
    obtain ⟨hmem, hne⟩ := List.mem_filter.1 hmem
    obtain ⟨piece, hpiece, rfl⟩ := List.mem_map.1 hmem
    rcases h piece hpiece with hblank | ⟨-, key, row, hgroup, hkey⟩
    · rw [Text.trim_eq_empty_iff.2 hblank] at hne
      exact absurd hne (by decide)
    · exact ⟨(key, row), hkey, hgroup⟩
  obtain ⟨gs, hgs⟩ := exists_forall₂_iff.2 hpieces
  obtain ⟨hkeys, hgroups⟩ := (List.forall₂_and_left _ _).1 hgs.flip
  refine ⟨gs, hgroups.flip, ?_, ?_⟩
  · rw [List.filter_eq_nil_iff]
    intro g hg
    simpa using (hkeys g hg).1
  · rw [List.filter_eq_nil_iff]
    intro g hg
    simpa using (hkeys g hg).2

lemma IsGroup.isEmpty_eq (h : IsGroup piece key row) : piece.isEmpty = false := by
  obtain ⟨left, value, -, rfl, -⟩ := h
  rw [Bool.eq_false_iff]
  intro hempty
  have hlength := congrArg (fun text => text.toList.length) (String.isEmpty_iff.1 hempty)
  simp at hlength

/-- In a header that is written with two groups that are not passed over, these two count. -/
lemma parse_intercalate {before middle after : List String} {first second : String}
    {g k : String × List Permission}
    (hothers : ∀ piece ∈ before ++ middle ++ after, IsPassedOver piece)
    (hfirst : IsGroup (Text.trim first) g.1 g.2 ∧ ',' ∉ first.toList)
    (hsecond : IsGroup (Text.trim second) k.1 k.2 ∧ ',' ∉ second.toList) :
    parse (String.intercalate "," (before ++ first :: (middle ++ second :: after))) =
      .ok ⟨granted [g, k] "user", granted [g, k] "public"⟩ := by
  obtain ⟨gs₁, hgs₁, huser₁, hpublic₁⟩ := exists_groups_of_isPassedOver before
    fun piece hpiece => hothers piece (by simp [hpiece])
  obtain ⟨gs₂, hgs₂, huser₂, hpublic₂⟩ := exists_groups_of_isPassedOver middle
    fun piece hpiece => hothers piece (by simp [hpiece])
  obtain ⟨gs₃, hgs₃, huser₃, hpublic₃⟩ := exists_groups_of_isPassedOver after
    fun piece hpiece => hothers piece (by simp [hpiece])
  have hcommas : ∀ piece ∈ before ++ first :: (middle ++ second :: after), ',' ∉ piece.toList := by
    intro piece hpiece
    by_cases hmem : piece ∈ before ++ middle ++ after
    · exact (hothers piece hmem).comma_notMem
    · obtain rfl | rfl : piece = first ∨ piece = second := by
        simp only [List.mem_append, List.mem_cons] at hpiece hmem
        tauto
      · exact hfirst.2
      · exact hsecond.2
  have hgroups : List.Forall₂ (fun piece g => IsGroup piece g.1 g.2)
      (groups (String.intercalate "," (before ++ first :: (middle ++ second :: after))))
      (gs₁ ++ g :: (gs₂ ++ k :: gs₃)) := by
    have hsplit : Text.split ',' (String.intercalate ","
        (before ++ first :: (middle ++ second :: after))) =
          before ++ first :: (middle ++ second :: after) :=
      Text.split_intercalate (by simp) hcommas
    unfold groups
    rw [hsplit]
    simp only [List.map_append, List.map_cons, List.filter_append, List.filter_cons,
      hfirst.1.isEmpty_eq, hsecond.1.isEmpty_eq]
    exact List.rel_append hgs₁ (.cons hfirst.1 (List.rel_append hgs₂ (.cons hsecond.1 hgs₃)))
  rw [parse_of_groups hgroups]
  unfold granted
  simp only [List.filter_append, List.filter_cons, huser₁, huser₂, huser₃, hpublic₁, hpublic₂,
    hpublic₃, List.nil_append, List.filter_nil]

/-- The modes for which a header is written are read in it. -/
theorem Writes.parse_eq (h : Writes header user everybody) (huser : user.Nodup)
    (heverybody : everybody.Nodup) : parse header = .ok ⟨user, everybody⟩ := by
  have hgranted : granted [("user", user), ("public", everybody)] "user" = user ∧
      granted [("user", user), ("public", everybody)] "public" = everybody ∧
      granted [("public", everybody), ("user", user)] "user" = user ∧
      granted [("public", everybody), ("user", user)] "public" = everybody := by
    simp [granted, eraseDups_of_nodup huser, eraseDups_of_nodup heverybody]
  obtain ⟨hfirst, hsecond, hfirst', hsecond'⟩ := hgranted
  obtain ⟨before, first, middle, second, after, rfl, hothers, hwritten⟩ := h
  rcases hwritten with ⟨huser, heverybody⟩ | ⟨heverybody, huser⟩
  · have hparse := parse_intercalate (g := ("user", user)) (k := ("public", everybody)) hothers
      (huser.isGroup (.inl rfl)) (heverybody.isGroup (.inr rfl))
    rwa [hfirst, hsecond] at hparse
  · have hparse := parse_intercalate (g := ("public", everybody)) (k := ("user", user)) hothers
      (heverybody.isGroup (.inr rfl)) (huser.isGroup (.inl rfl))
    rwa [hfirst', hsecond'] at hparse

end Writing

/-- What headers tell.  A header can be read exactly if its pieces are groups, blanks around them
and empty pieces apart.  Then the last group of who asks and the last group of everybody count, each
with every mode where it came first, and who asks may add to the resource exactly by writing or by
appending.  Rows of different modes that are written for both are read as they are. -/
theorem parse_grammar (header : String) :
    ((∃ p, parse header = .ok p) ↔
        ∀ piece ∈ groups header, ∃ key row, IsGroup piece key row) ∧
      (∀ p, parse header = .ok p ↔
        ∃ gs, List.Forall₂ (fun piece g => IsGroup piece g.1 g.2) (groups header) gs ∧
          p = ⟨granted gs "user", granted gs "public"⟩) ∧
      (∀ p, parse header = .ok p → (p.userCanWrite = true ↔ .write ∈ p.user ∨ .append ∈ p.user)) ∧
      ∀ user everybody : List Permission, user.Nodup → everybody.Nodup →
        Writes header user everybody → parse header = .ok ⟨user, everybody⟩ :=
  ⟨exists_parse_eq_ok_iff header, fun _ => parse_eq_ok_iff_groups,
    fun _ _ => userCanWrite_iff, fun _ _ huser heverybody h => h.parse_eq huser heverybody⟩

/-- A header with blanks and empty pieces where they may stand. -/
def looseHeader : String :=
  " public = \"read\" ,, user=\"\tappend  write\","

/-- It tells what it is written for. -/
theorem parse_looseHeader :
    Writes looseHeader [.append, .write] [.read] ∧
      parse looseHeader = .ok ⟨[.append, .write], [.read]⟩ := by
  have hpublic : WritesGroup " public = \"read\" " "public" [.read] :=
    ⟨" ", " ", " ", "read", " ", List.all_eq_true.1 (by decide), words_eq_iff.1 (by decide),
      by decide⟩
  have huser : WritesGroup " user=\"\tappend  write\"" "user" [.append, .write] :=
    ⟨" ", "", "", "\tappend  write", "", List.all_eq_true.1 (by decide), words_eq_iff.1 (by decide),
      by decide⟩
  have hempty : ∀ piece ∈ [""], IsPassedOver piece :=
    List.forall_mem_singleton.2 (Or.inl (by decide))
  have hwritten : Writes looseHeader [.append, .write] [.read] := by
    refine ⟨[], _, [""], _, [""], by decide, fun piece hpiece => ?_, Or.inr ⟨hpublic, huser⟩⟩
    rcases List.mem_append.1 hpiece with hpiece | hpiece
    · exact hempty piece hpiece
    · exact hempty piece hpiece
  obtain ⟨-, -, -, hparse⟩ := parse_grammar looseHeader
  exact ⟨hwritten, hparse _ _ (by decide) (by decide) hwritten⟩

example : parse "agent = \"" = .error { header := "agent = \"", fault := .notQuoted "agent" } := by
  decide +kernel

end Permissions

end Courier
