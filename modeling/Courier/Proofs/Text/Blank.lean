import Courier.Proofs.Collection.Row
import Courier.Text.Blank
import Mathlib.Data.List.Basic

/-!
# Trimming and splitting

A text without blanks is trimmed already, and nothing is left of one with blanks only.  The pieces
of a text hold no separator, and every row of texts without separators is the row of the pieces of
the text that they make up with separators between them.  Dropping a character at the end of a text
leaves what comes before the last row of it.
-/

namespace Courier.Text

/-- A text without blanks is trimmed already. -/
theorem trim_eq_self {text : String} (h : ∀ c ∈ text.toList, isBlank c = false) :
    trim text = text := by
  have hdrop : ∀ cs : List Char, (∀ c ∈ cs, isBlank c = false) → cs.dropWhile isBlank = cs := by
    intro cs hcs
    cases cs with
    | nil => rfl
    | cons c cs =>
      rw [List.dropWhile_cons_of_neg]
      rw [hcs c (List.mem_cons_self ..)]
      exact Bool.false_ne_true
  have hreverse : ∀ c ∈ text.toList.reverse, isBlank c = false :=
    fun c hc => h c (List.mem_reverse.1 hc)
  unfold trim trimStart trimEnd
  rw [hdrop _ h, hdrop _ hreverse, List.reverse_reverse, String.ofList_toList]

/-- A text without a blank at either end is trimmed already. -/
lemma trim_of_ends {text : String} {f l : Char} (hfirst : text.toList.head? = some f)
    (hlast : text.toList.getLast? = some l) (hfirst' : isBlank f = false)
    (hlast' : isBlank l = false) : trim text = text := by
  obtain ⟨back, hback⟩ := List.head?_eq_some_iff.1 hfirst
  obtain ⟨front, hfront⟩ := List.getLast?_eq_some_iff.1 hlast
  have hstart : trimStart text.toList = text.toList := by
    unfold trimStart
    rw [hback, List.dropWhile_cons_of_neg (by simp [hfirst'])]
  have hend : trimEnd text.toList = text.toList := by
    unfold trimEnd
    rw [hfront, List.reverse_append, List.reverse_singleton, List.singleton_append,
      List.dropWhile_cons_of_neg (by simp [hlast']), List.reverse_cons, List.reverse_reverse]
  unfold trim
  rw [hstart, hend, String.ofList_toList]

/-- Blanks around a text make no difference to what is left when it is trimmed. -/
lemma trim_blanks_append {b a : String} (hbefore : isBlankText b = true)
    (hafter : isBlankText a = true) (text : String) : trim (b ++ text ++ a) = trim text := by
  have hbefore' : ∀ c ∈ b.toList, isBlank c = true := List.all_eq_true.1 hbefore
  have hafter' : ∀ c ∈ a.toList, isBlank c = true := List.all_eq_true.1 hafter
  have hend : ∀ cs, trimEnd (cs ++ a.toList) = trimEnd cs := by
    intro cs
    unfold trimEnd
    rw [List.reverse_append, List.dropWhile_append_of_pos]
    intro c hc
    exact hafter' c (List.mem_reverse.1 hc)
  have hstart : trimEnd (trimStart (text.toList ++ a.toList)) =
      trimEnd (trimStart text.toList) := by
    unfold trimStart
    rw [List.dropWhile_append]
    split
    next hnil =>
      rw [List.isEmpty_iff.1 hnil, List.dropWhile_eq_nil_iff.2 hafter']
    next => exact hend _
  unfold trim
  rw [String.toList_append, String.toList_append, List.append_assoc]
  unfold trimStart at hstart ⊢
  rw [List.dropWhile_append_of_pos hbefore', hstart]

/-- Trimming leaves nothing of a text with blanks only, and something of any other. -/
theorem trim_eq_empty_iff {text : String} : trim text = "" ↔ isBlankText text = true := by
  have htrim : trim text = "" ↔ ∀ c ∈ trimStart text.toList, isBlank c = true := by
    unfold trim trimEnd
    rw [← String.toList_inj, String.toList_ofList, String.toList_empty, List.reverse_eq_nil_iff,
      List.dropWhile_eq_nil_iff]
    simp only [List.mem_reverse]
  -- What is left after the blanks at the start does not start with a blank.
  have hstart : (∀ c ∈ trimStart text.toList, isBlank c = true) ↔ trimStart text.toList = [] := by
    constructor
    · intro hblank
      by_contra hne
      have hhead := hblank _ (List.head_mem hne)
      have hnot := List.head_dropWhile_not isBlank hne
      exact Bool.false_ne_true (hnot.symm.trans hhead)
    · intro hnil
      simp [hnil]
  rw [htrim, hstart, trimStart, List.dropWhile_eq_nil_iff, isBlankText, List.all_eq_true]

/-- What is left of a text that is trimmed, if anything is. -/
lemma filter_trim (text : String) :
    (some (trim text)).filter (!·.isEmpty) =
      if isBlankText text then none else some (trim text) := by
  by_cases hblank : isBlankText text = true
  · rw [if_pos hblank, trim_eq_empty_iff.2 hblank]
    rfl
  · have hne : (trim text).isEmpty = false := by
      rw [Bool.eq_false_iff]
      intro hempty
      exact hblank (trim_eq_empty_iff.1 (String.isEmpty_iff.1 hempty))
    rw [if_neg hblank, Option.filter_some, hne]
    rfl

/-- What is dropped at the end of a text is all that can be. -/
theorem exists_eq_dropTrailing_append (c : Char) (text : String) :
    ∃ tail, text = dropTrailing c text ++ tail ∧ (∀ d ∈ tail.toList, d = c) ∧
      (dropTrailing c text).toList.getLast? ≠ some c := by
  have hsplit := List.takeWhile_append_dropWhile (p := (· == c)) (l := text.toList.reverse)
  refine ⟨.ofList (text.toList.reverse.takeWhile (· == c)).reverse, ?_, ?_, ?_⟩
  · unfold dropTrailing
    rw [← String.toList_inj, String.toList_append, String.toList_ofList, String.toList_ofList,
      ← List.reverse_append, hsplit, List.reverse_reverse]
  · intro d hd
    rw [String.toList_ofList, List.mem_reverse] at hd
    have hc : (d == c) = true := List.mem_takeWhile_imp (p := (· == c)) hd
    exact eq_of_beq hc
  · unfold dropTrailing
    rw [String.toList_ofList, List.getLast?_reverse]
    intro hhead
    have hnot := List.head?_dropWhile_not (· == c) text.toList.reverse
    rw [hhead] at hnot
    exact Bool.false_ne_true (hnot.symm.trans BEq.rfl)

/-! ### Pieces -/

section Pieces

variable {isSeparator : Char → Bool}

lemma pieces_ne_nil (cs : List Char) : pieces isSeparator cs ≠ [] := by
  induction cs with
  | nil => simp [pieces]
  | cons c cs ih =>
    unfold pieces
    split
    · simp
    · split <;> simp

lemma exists_pieces_eq_cons (isSeparator : Char → Bool) (cs : List Char) :
    ∃ piece rest, pieces isSeparator cs = piece :: rest :=
  List.exists_cons_of_ne_nil (pieces_ne_nil cs)

lemma pieces_cons_of_pos {c : Char} (h : isSeparator c = true) (cs : List Char) :
    pieces isSeparator (c :: cs) = [] :: pieces isSeparator cs := by
  rw [pieces]
  split
  next hnil => exact absurd hnil (pieces_ne_nil cs)
  next hcons => rw [if_pos h, hcons]

lemma pieces_cons_of_neg {c : Char} (h : isSeparator c = false) {cs piece : List Char}
    {rest : List (List Char)} (hcs : pieces isSeparator cs = piece :: rest) :
    pieces isSeparator (c :: cs) = (c :: piece) :: rest := by
  rw [pieces, hcs]
  simp [h]

/-- No piece has a separator. -/
theorem not_isSeparator_of_mem_pieces {cs piece : List Char} (h : piece ∈ pieces isSeparator cs)
    {c : Char} (hc : c ∈ piece) : isSeparator c = false := by
  induction cs generalizing piece with
  | nil =>
    obtain rfl : piece = [] := by simpa [pieces] using h
    cases hc
  | cons first cs ih =>
    cases hfirst : isSeparator first with
    | true =>
      rw [pieces_cons_of_pos hfirst, List.mem_cons] at h
      rcases h with rfl | h
      · cases hc
      · exact ih h hc
    | false =>
      obtain ⟨head, rest, hcs⟩ := exists_pieces_eq_cons isSeparator cs
      rw [pieces_cons_of_neg hfirst hcs, List.mem_cons] at h
      rw [hcs] at ih
      rcases h with rfl | h
      · rcases List.mem_cons.1 hc with rfl | hc
        · exact hfirst
        · exact ih (List.mem_cons_self ..) hc
      · exact ih (List.mem_cons_of_mem _ h) hc

/-- The pieces together have all characters but the separators. -/
lemma forall_mem_pieces_iff {p : Char → Prop} {cs : List Char} :
    (∀ piece ∈ pieces isSeparator cs, ∀ c ∈ piece, p c) ↔
      ∀ c ∈ cs, isSeparator c = true ∨ p c := by
  induction cs with
  | nil => simp [pieces]
  | cons first cs ih =>
    rw [List.forall_mem_cons, ← ih]
    cases hfirst : isSeparator first with
    | true => simp [pieces_cons_of_pos hfirst]
    | false =>
      obtain ⟨head, rest, hcs⟩ := exists_pieces_eq_cons isSeparator cs
      simp [pieces_cons_of_neg hfirst hcs, hcs, and_assoc]

lemma pieces_eq_singleton {cs : List Char} (h : ∀ c ∈ cs, isSeparator c = false) :
    pieces isSeparator cs = [cs] := by
  induction cs with
  | nil => rfl
  | cons c cs ih =>
    refine pieces_cons_of_neg (h c (List.mem_cons_self ..)) (ih fun d hd => ?_)
    exact h d (List.mem_cons_of_mem _ hd)

/-- The first separator ends the first piece. -/
theorem pieces_append {cs : List Char} (h : ∀ c ∈ cs, isSeparator c = false) {separator : Char}
    (hseparator : isSeparator separator = true) (rest : List Char) :
    pieces isSeparator (cs ++ separator :: rest) = cs :: pieces isSeparator rest := by
  induction cs with
  | nil => exact pieces_cons_of_pos hseparator rest
  | cons c cs ih =>
    refine pieces_cons_of_neg (h c (List.mem_cons_self ..)) (ih fun d hd => ?_)
    exact h d (List.mem_cons_of_mem _ hd)

/-- The only piece of a row without separators is the row. -/
lemma eq_of_pieces_eq_singleton {cs piece : List Char} (h : pieces isSeparator cs = [piece]) :
    cs = piece := by
  induction cs generalizing piece with
  | nil =>
    obtain rfl : [] = piece := List.singleton_inj.1 h
    rfl
  | cons c cs ih =>
    obtain ⟨head, others, hcs⟩ := exists_pieces_eq_cons isSeparator cs
    cases hc : isSeparator c with
    | true =>
      rw [pieces_cons_of_pos hc, hcs] at h
      cases h
    | false =>
      rw [pieces_cons_of_neg hc hcs] at h
      obtain ⟨rfl, rfl⟩ := List.cons.inj h
      rw [ih hcs]

/-- There is a separator after the first of several pieces. -/
lemma exists_of_pieces_eq_cons {cs piece next : List Char} {rest : List (List Char)}
    (h : pieces isSeparator cs = piece :: next :: rest) :
    ∃ separator tail, isSeparator separator = true ∧ cs = piece ++ separator :: tail ∧
      pieces isSeparator tail = next :: rest := by
  induction cs generalizing piece with
  | nil => cases h
  | cons c cs ih =>
    obtain ⟨head, others, hcs⟩ := exists_pieces_eq_cons isSeparator cs
    cases hc : isSeparator c with
    | true =>
      rw [pieces_cons_of_pos hc] at h
      obtain ⟨rfl, hrest⟩ := List.cons.inj h
      exact ⟨c, cs, hc, rfl, hrest⟩
    | false =>
      rw [pieces_cons_of_neg hc hcs] at h
      obtain ⟨rfl, rfl⟩ := List.cons.inj h
      obtain ⟨separator, tail, hseparator, rfl, htail⟩ := ih hcs
      exact ⟨separator, tail, hseparator, rfl, htail⟩

end Pieces

/-- No piece of a text has the separator. -/
theorem notMem_of_mem_split {separator : Char} {text piece : String}
    (h : piece ∈ split separator text) : separator ∉ piece.toList := by
  obtain ⟨cs, hcs, rfl⟩ := List.mem_map.1 h
  rw [String.toList_ofList]
  intro hmem
  simpa using not_isSeparator_of_mem_pieces hcs hmem

/-- All pieces of a text are blank exactly if it has separators and blanks only. -/
theorem forall_mem_split_isBlankText_iff {separator : Char} {text : String} :
    (∀ piece ∈ split separator text, isBlankText piece = true) ↔
      ∀ c ∈ text.toList, c = separator ∨ isBlank c = true := by
  have hpieces := @forall_mem_pieces_iff (· == separator) (isBlank · = true) text.toList
  unfold split isBlankText
  simpa using hpieces

/-- A text without the separator is its own only piece. -/
theorem split_of_notMem {separator : Char} {text : String} (h : separator ∉ text.toList) :
    split separator text = [text] := by
  unfold split
  rw [pieces_eq_singleton, List.map_singleton, String.ofList_toList]
  intro c hc
  rw [beq_eq_false_iff_ne]
  rintro rfl
  exact h hc

/-- The pieces of a text that has the separator after its first piece. -/
theorem split_append {separator : Char} {piece : String} (h : separator ∉ piece.toList)
    (rest : String) :
    split separator (piece ++ .singleton separator ++ rest) = piece :: split separator rest := by
  have hlist : (piece ++ .singleton separator ++ rest).toList =
      piece.toList ++ separator :: rest.toList := by
    simp
  unfold split
  rw [hlist, pieces_append, List.map_cons, String.ofList_toList]
  · intro c hc
    rw [beq_eq_false_iff_ne]
    rintro rfl
    exact h hc
  · exact beq_self_eq_true separator

/-- The only piece of a text is the text. -/
theorem eq_of_split_eq_singleton {separator : Char} {text piece : String}
    (h : split separator text = [piece]) : text = piece := by
  obtain ⟨cs, hcs, rfl⟩ := List.map_eq_singleton_iff.1 h
  rw [← eq_of_pieces_eq_singleton hcs, String.ofList_toList]

/-- After the first of several pieces of a text the separator stands. -/
theorem exists_of_split_eq_cons {separator : Char} {text piece next : String} {rest : List String}
    (h : split separator text = piece :: next :: rest) :
    ∃ tail, text = piece ++ .singleton separator ++ tail ∧
      split separator tail = next :: rest := by
  obtain ⟨cs, row, hcs, rfl, hrow⟩ := List.map_eq_cons_iff.1 h
  obtain ⟨next, rest, rfl, rfl, rfl⟩ := List.map_eq_cons_iff.1 hrow
  obtain ⟨c, tail, hc, hlist, htail⟩ := exists_of_pieces_eq_cons hcs
  obtain rfl : c = separator := beq_iff_eq.1 hc
  refine ⟨.ofList tail, ?_, ?_⟩
  · rw [← String.toList_inj, hlist]
    simp
  · unfold split
    rw [String.toList_ofList, htail, List.map_cons]

/-- Texts without the separator are the pieces of what they make up with separators between. -/
theorem split_intercalate {separator : Char} {row : List String} (hrow : row ≠ [])
    (h : ∀ piece ∈ row, separator ∉ piece.toList) :
    split separator (String.intercalate (.singleton separator) row) = row := by
  induction row with
  | nil => exact absurd rfl hrow
  | cons piece rest ih =>
    obtain ⟨hpiece, hrest⟩ := List.forall_mem_cons.1 h
    cases rest with
    | nil => rw [String.intercalate_singleton, split_of_notMem hpiece]
    | cons next rest =>
      rw [String.intercalate_cons_cons, split_append hpiece, ih (List.cons_ne_nil _ _) hrest]

/-- The sides of the first separator. -/
theorem splitOnce_eq_some_iff {separator : Char} {text before after : String} :
    splitOnce separator text = some (before, after) ↔
      text = before ++ .singleton separator ++ after ∧ separator ∉ before.toList := by
  unfold splitOnce
  constructor
  · intro h
    split at h
    next => cases h
    next front c back hspan =>
      cases h
      obtain ⟨htext, hfront, hc⟩ := eq_append_of_span hspan
      obtain rfl : c = separator := by simpa using hc c rfl
      refine ⟨?_, ?_⟩
      · rw [← String.toList_inj, htext]
        simp
      · rw [String.toList_ofList]
        intro hmem
        simpa using hfront _ hmem
  · rintro ⟨rfl, hbefore⟩
    have hne : ∀ c ∈ before.toList, (c != separator) = true := by
      intro c hc
      rw [bne_iff_ne]
      rintro rfl
      exact hbefore hc
    have hlist : (before ++ .singleton separator ++ after).toList =
        before.toList ++ separator :: after.toList := by
      simp
    rw [hlist, span_append_cons hne (by simp)]
    simp

end Courier.Text
