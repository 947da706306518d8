import Courier.Iri.Basic
import Courier.Proofs.Collection.Row

/-!
# Identifiers in brackets

A reference is cut into components that make it up again (`Iri.Reference.toList_ofList`), and so an
absolute identifier means itself in every document (`Iri.resolve?_of_isAbsolute`).  None of its
components may hold a bracket or a brace that would end it, or a backslash that would start an
escape (`Iri.notMem_of_isAbsolute`).
-/

namespace Courier.Iri

open Grammar Text

namespace Reference

/-! ### Cutting and writing -/

/-- The two ways to cut a scheme off. -/
lemma splitScheme_cases (cs : List Char) :
    splitScheme cs = (none, cs) ∨
      ∃ c scheme rest, splitScheme cs = (some (c :: scheme), rest) ∧
        cs = c :: scheme ++ ':' :: rest ∧ c.isAlpha = true ∧
        ∀ d ∈ c :: scheme, isSchemeChar d = true := by
  unfold splitScheme
  split
  next c scheme rest hspan =>
    obtain ⟨hcs, hscheme, -⟩ := eq_append_of_span hspan
    split
    next halpha => exact Or.inr ⟨c, scheme, rest, rfl, hcs, halpha, hscheme⟩
    next => exact Or.inl rfl
  next => exact Or.inl rfl

/-- The two ways to cut an authority off. -/
lemma splitAuthority_cases (cs : List Char) :
    splitAuthority cs = (none, cs) ∧ cs.take 2 ≠ ['/', '/'] ∨
      ∃ authority rest, splitAuthority cs = (some authority, rest) ∧
        cs = '/' :: '/' :: (authority ++ rest) := by
  unfold splitAuthority
  split
  next rest =>
    cases hspan : rest.span fun c => c != '/' && c != '?' && c != '#' with
    | mk authority tail =>
      obtain ⟨hrest, -, -⟩ := eq_append_of_span hspan
      exact Or.inr ⟨authority, tail, rfl, congrArg ('/' :: '/' :: ·) hrest⟩
  next hslashes =>
    refine Or.inl ⟨rfl, fun htake => ?_⟩
    have hcs := List.take_append_drop 2 cs
    rw [htake] at hcs
    exact hslashes _ hcs.symm

/-- The two ways to cut a component off that has a delimiter before it. -/
lemma splitAfter_cases (delimiter : Char) (stop : Char → Bool) (cs : List Char) :
    splitAfter delimiter stop cs = (none, cs) ∧ cs.head? ≠ some delimiter ∨
      ∃ part rest, splitAfter delimiter stop cs = (some part, rest) ∧
        cs = delimiter :: (part ++ rest) ∧ ∀ c ∈ rest.head?, stop c = true := by
  cases cs with
  | nil => exact Or.inl ⟨rfl, by simp⟩
  | cons c rest =>
    unfold splitAfter
    dsimp only
    by_cases hc : c = delimiter
    · subst hc
      rw [if_pos rfl]
      cases hspan : rest.span (!stop ·) with
      | mk part tail =>
        obtain ⟨hrest, -, hstop⟩ := eq_append_of_span hspan
        exact Or.inr ⟨part, tail, rfl, congrArg (c :: ·) hrest,
          fun d hd => by simpa using hstop d hd⟩
    · rw [if_neg hc]
      exact Or.inl ⟨rfl, by simpa using hc⟩

lemma toList_eq (r : Reference) :
    r.toList = r.scheme.elim [] (· ++ [':']) ++ (r.authority.elim [] (fun a => '/' :: '/' :: a) ++
      (r.path ++ (r.query.elim [] ('?' :: ·) ++ r.fragment.elim [] ('#' :: ·)))) := by
  obtain ⟨scheme, authority, path, query, fragment⟩ := r
  unfold toList
  simp only [List.append_assoc]
  cases scheme <;> cases authority <;> cases query <;> cases fragment <;> rfl

lemma splitScheme_append (cs : List Char) :
    (splitScheme cs).1.elim [] (· ++ [':']) ++ (splitScheme cs).2 = cs := by
  rcases splitScheme_cases cs with hnone | ⟨c, scheme, rest, hsome, hcs, -⟩
  · rw [hnone]
    rfl
  · rw [hsome, hcs]
    simp

lemma splitAuthority_append (cs : List Char) :
    (splitAuthority cs).1.elim [] (fun a => '/' :: '/' :: a) ++ (splitAuthority cs).2 = cs := by
  rcases splitAuthority_cases cs with ⟨hnone, -⟩ | ⟨authority, rest, hsome, hcs⟩
  · rw [hnone]
    rfl
  · rw [hsome, hcs]
    rfl

lemma splitAfter_append (delimiter : Char) (stop : Char → Bool) (cs : List Char) :
    (splitAfter delimiter stop cs).1.elim [] (delimiter :: ·) ++
      (splitAfter delimiter stop cs).2 = cs := by
  rcases splitAfter_cases delimiter stop cs with ⟨hnone, -⟩ | ⟨part, rest, hsome, hcs, -⟩
  · rw [hnone]
    rfl
  · rw [hsome, hcs]
    rfl

/-- What follows a path starts with the delimiter of a query or of a fragment, and what follows a
query starts with that of a fragment. -/
lemma splitAfter_splitAfter (cs : List Char) :
    (splitAfter '#' (fun _ => false)
      (splitAfter '?' (· == '#') (cs.dropWhile fun c => c != '?' && c != '#')).2).2 = [] := by
  have hpath : ∀ c ∈ (cs.dropWhile fun c => c != '?' && c != '#').head?, c = '?' ∨ c = '#' := by
    intro c hc
    have hhead := List.head?_dropWhile_not (fun c => c != '?' && c != '#') cs
    rw [Option.mem_def.1 hc] at hhead
    by_contra hother
    simp_all
  generalize (cs.dropWhile fun c => c != '?' && c != '#') = rest at hpath ⊢
  have hquery : ∀ c ∈ (splitAfter '?' (· == '#') rest).2.head?, c = '#' := by
    intro c hc
    rcases splitAfter_cases '?' (· == '#') rest with ⟨hnone, hhead⟩ | ⟨query, tail, hsome, -, hstop⟩
    · rw [hnone] at hc
      rcases hpath c hc with rfl | rfl
      · exact absurd hc hhead
      · rfl
    · rw [hsome] at hc
      exact beq_iff_eq.1 (hstop c hc)
  generalize (splitAfter '?' (· == '#') rest).2 = tail at hquery ⊢
  rcases splitAfter_cases '#' (fun _ => false) tail with
    ⟨hnone, hhead⟩ | ⟨fragment, last, hsome, -, hstop⟩
  · rw [hnone]
    cases tail with
    | nil => rfl
    | cons c tail => exact absurd (congrArg some (hquery c rfl)) hhead
  · rw [hsome]
    cases last with
    | nil => rfl
    | cons c last => exact absurd (hstop c rfl) Bool.false_ne_true

/-- Writing the components of a text gives the text. -/
theorem toList_ofList (cs : List Char) : (ofList cs).toList = cs := by
  have hpath := List.takeWhile_append_dropWhile (p := fun c => c != '?' && c != '#')
    (l := (splitAuthority (splitScheme cs).2).2)
  have hend := splitAfter_splitAfter (splitAuthority (splitScheme cs).2).2
  have hfragment := splitAfter_append '#' (fun _ => false)
    (splitAfter '?' (· == '#') ((splitAuthority (splitScheme cs).2).2.dropWhile
      fun c => c != '?' && c != '#')).2
  rw [hend, List.append_nil] at hfragment
  rw [toList_eq]
  unfold ofList
  simp only [List.span_eq_takeWhile_dropWhile]
  rw [hfragment, splitAfter_append, hpath, splitAuthority_append, splitScheme_append]

/-- The path of a text cannot be taken for an authority. -/
lemma isUnambiguous_ofList (cs : List Char) : (ofList cs).isUnambiguous = true := by
  rcases splitAuthority_cases (splitScheme cs).2 with
    ⟨hnone, hslashes⟩ | ⟨authority, rest, hsome, -⟩
  · have hpath : (ofList cs).path <+: (splitScheme cs).2 := by
      unfold ofList
      simp only [List.span_eq_takeWhile_dropWhile, hnone]
      exact List.takeWhile_prefix _
    have htake : (ofList cs).path.take 2 ≠ ['/', '/'] := by
      intro htake
      obtain ⟨tail, htail⟩ := hpath
      have hstart := List.take_append_drop 2 (ofList cs).path
      rw [htake] at hstart
      rw [← htail, ← hstart] at hslashes
      exact hslashes rfl
    unfold isUnambiguous
    simp [htake]
  · have hauthority : (ofList cs).authority = some authority := congrArg (·.1) hsome
    unfold isUnambiguous
    rw [hauthority]
    rfl

end Reference

/-! ### Characters that no identifier holds -/

namespace Grammar

/-- The characters that would end or escape an identifier between brackets, and braces. -/
def foreign : List Char := ['>', '\\', '\x7b', '\x7d']

variable {bad : Char} {cs : List Char}

/-- What allows no foreign character keeps them all out. -/
lemma notMem_of_all {allowed : Char → Bool} (h : cs.all allowed = true)
    (hnone : foreign.any allowed = false) (hforeign : bad ∈ foreign) : bad ∉ cs := by
  intro hmem
  have hbad := eq_false_of_any hnone hforeign
  rw [List.all_eq_true.1 h bad hmem] at hbad
  cases hbad

lemma ne_of_mem_foreign {c : Char} (hforeign : bad ∈ foreign) (hc : c ∉ foreign) : bad ≠ c :=
  ne_of_mem_of_not_mem hforeign hc

lemma notMem_of_allAllowed {allowed : Char → Bool} (h : allAllowed allowed cs = true)
    (hnone : foreign.any allowed = false) (hforeign : bad ∈ foreign) : bad ∉ cs := by
  have hbad : allowed bad = false := eq_false_of_any hnone hforeign
  have hhex : ∀ {c : Char}, isHexDigit c = true → bad ≠ c := by
    rintro _ hc rfl
    have hbad : isHexDigit bad = false := eq_false_of_any (by decide) hforeign
    exact Bool.false_ne_true (hbad.symm.trans hc)
  fun_induction allAllowed allowed cs with
  | case1 => exact List.not_mem_nil
  | case2 a b rest ih =>
    rw [Bool.and_eq_true, Bool.and_eq_true] at h
    obtain ⟨⟨ha, hb⟩, hrest⟩ := h
    simp only [List.mem_cons, not_or]
    exact ⟨ne_of_mem_foreign hforeign (by decide), hhex ha, hhex hb, ih hrest⟩
  | case3 c rest hother ih =>
    rw [Bool.and_eq_true, Bool.and_eq_true] at h
    obtain ⟨⟨-, hc⟩, hrest⟩ := h
    refine List.not_mem_cons_of_ne_of_not_mem ?_ (ih hrest)
    rintro rfl
    exact Bool.false_ne_true (hbad.symm.trans hc)

/-- Pieces between separators hold every other character of a text. -/
lemma exists_mem_splitOn {separator : Char} (h : bad ∈ cs) (hne : bad ≠ separator) :
    ∃ piece ∈ cs.splitOn separator, bad ∈ piece := by
  induction cs with
  | nil => cases h
  | cons c rest ih =>
    obtain ⟨first, others, hrest⟩ := List.exists_cons_of_ne_nil (List.splitOn_ne_nil separator rest)
    have hsplit : (c :: rest).splitOn separator =
        if (c == separator) = true then [] :: rest.splitOn separator
        else (rest.splitOn separator).modifyHead (c :: ·) :=
      List.splitOnP_cons_eq_if_modifyHead ..
    rw [hsplit, hrest]
    rw [hrest] at ih
    by_cases hc : (c == separator) = true
    · rw [if_pos hc]
      obtain rfl : c = separator := beq_iff_eq.1 hc
      obtain ⟨piece, hpiece, hmem⟩ := ih (List.mem_of_ne_of_mem hne h)
      exact ⟨piece, List.mem_cons_of_mem _ hpiece, hmem⟩
    · rw [if_neg hc]
      rcases List.mem_cons.1 h with rfl | hmem
      · exact ⟨_ :: first, List.mem_cons_self, List.mem_cons_self⟩
      · obtain ⟨piece, hpiece, hmem⟩ := ih hmem
        rcases List.mem_cons.1 hpiece with rfl | hpiece
        · exact ⟨c :: piece, List.mem_cons_self, List.mem_cons_of_mem _ hmem⟩
        · exact ⟨piece, List.mem_cons_of_mem _ hpiece, hmem⟩

lemma notMem_of_isOctet (h : isOctet cs = true) (hforeign : bad ∈ foreign) : bad ∉ cs := by
  have hdigits : cs.all Char.isDigit = true := by
    unfold isOctet at h
    split at h <;> simp_all
  exact notMem_of_all hdigits (by decide) hforeign

lemma notMem_of_isDottedQuad (h : isDottedQuad cs = true) (hforeign : bad ∈ foreign) :
    bad ∉ cs := by
  intro hmem
  obtain ⟨piece, hpiece, hmem⟩ := exists_mem_splitOn hmem
    (ne_of_mem_foreign (c := '.') hforeign (by decide))
  have hoctets := (Bool.and_eq_true _ _ ▸ h).2
  exact notMem_of_isOctet (List.all_eq_true.1 hoctets piece hpiece) hforeign hmem

/-- Whatever is counted has hexadecimal groups, or four octets. -/
lemma notMem_of_groupCount? {mayEndDotted : Bool} {pieces : List (List Char)} {n : Nat}
    (h : groupCount? mayEndDotted pieces = some n) (hforeign : bad ∈ foreign) :
    ∀ piece ∈ pieces, bad ∉ piece := by
  have hgroup : ∀ piece, isGroup piece = true → bad ∉ piece := by
    intro piece hpiece
    exact notMem_of_all (Bool.and_eq_true _ _ ▸ hpiece).2 (by decide) hforeign
  induction pieces generalizing n with
  | nil => simp
  | cons first rest ih =>
    cases rest with
    | nil =>
      unfold groupCount? at h
      rw [List.forall_mem_singleton]
      split at h
      next hfirst => exact hgroup first hfirst
      next =>
        split at h
        next hdotted =>
          exact notMem_of_isDottedQuad (Bool.and_eq_true _ _ ▸ hdotted).2 hforeign
        next => cases h
    | cons next rest =>
      unfold groupCount? at h
      split at h
      next hfirst =>
        obtain ⟨m, hm, -⟩ := Option.map_eq_some_iff.1 h
        exact List.forall_mem_cons.2 ⟨hgroup first hfirst, ih hm⟩
      next => cases h

lemma notMem_of_sideCount? {mayEndDotted : Bool} {n : Nat}
    (h : sideCount? mayEndDotted cs = some n) (hforeign : bad ∈ foreign) : bad ∉ cs := by
  unfold sideCount? at h
  split at h
  next hnil =>
    rw [List.isEmpty_iff.1 hnil]
    exact List.not_mem_nil
  next =>
    intro hmem
    obtain ⟨piece, hpiece, hmem⟩ := exists_mem_splitOn hmem
      (ne_of_mem_foreign (c := ':') hforeign (by decide))
    exact notMem_of_groupCount? h hforeign piece hpiece hmem

lemma eq_of_splitGap {before after : List Char} (h : splitGap cs = some (before, after)) :
    cs = before ++ ':' :: ':' :: after := by
  fun_induction splitGap cs generalizing before with
  | case1 rest =>
    cases h
    rfl
  | case2 c rest hother ih =>
    obtain ⟨⟨front, back⟩, hrest, heq⟩ := Option.map_eq_some_iff.1 h
    cases heq
    rw [ih hrest]
    rfl
  | case3 => cases h

lemma notMem_of_isNumericAddress (h : isNumericAddress cs = true) (hforeign : bad ∈ foreign) :
    bad ∉ cs := by
  have hcolon : bad ≠ ':' := ne_of_mem_foreign hforeign (by decide)
  unfold isNumericAddress at h
  split at h
  next hgap =>
    intro hmem
    obtain ⟨piece, hpiece, hmem⟩ := exists_mem_splitOn hmem hcolon
    exact notMem_of_groupCount? (beq_iff_eq.1 h) hforeign piece hpiece hmem
  next before after hgap =>
    split at h
    next m n hbefore hafter =>
      rw [eq_of_splitGap hgap]
      simp [notMem_of_sideCount? hbefore hforeign, notMem_of_sideCount? hafter hforeign, hcolon]
    next => cases h

lemma notMem_of_isFutureAddress (h : isFutureAddress cs = true) (hforeign : bad ∈ foreign) :
    bad ∉ cs := by
  cases cs with
  | nil => exact List.not_mem_nil
  | cons v rest =>
    unfold isFutureAddress at h
    dsimp only at h
    cases hspan : rest.span isHexDigit with
    | mk version address =>
      rw [hspan] at h
      dsimp only at h
      rw [Bool.and_eq_true, Bool.and_eq_true, Bool.or_eq_true, beq_iff_eq, beq_iff_eq] at h
      obtain ⟨⟨hv, -⟩, haddress⟩ := h
      obtain ⟨rfl, hversion, -⟩ := eq_append_of_span hspan
      have hv' : bad ≠ v := by
        rcases hv with rfl | rfl
        · exact ne_of_mem_foreign hforeign (by decide)
        · exact ne_of_mem_foreign hforeign (by decide)
      have hversion' := notMem_of_all (List.all_eq_true.2 hversion) (by decide) hforeign
      split at haddress
      next c address =>
        have haddress' := notMem_of_all haddress (by decide) hforeign
        have hpoint : bad ≠ '.' := ne_of_mem_foreign hforeign (by decide)
        rw [List.mem_cons, List.mem_append, List.mem_cons]
        tauto
      next => cases haddress

lemma notMem_of_isPortPart (h : isPortPart cs = true) (hforeign : bad ∈ foreign) : bad ∉ cs := by
  cases cs with
  | nil => exact List.not_mem_nil
  | cons c digits =>
    obtain ⟨hc, hdigits⟩ := (Bool.and_eq_true _ _).mp h
    obtain rfl := beq_iff_eq.1 hc
    exact List.not_mem_cons_of_ne_of_not_mem (ne_of_mem_foreign hforeign (by decide))
      (notMem_of_all hdigits (by decide) hforeign)

lemma notMem_of_isHostPart (h : isHostPart cs = true) (hforeign : bad ∈ foreign) : bad ∉ cs := by
  unfold isHostPart at h
  split at h
  next rest =>
    split at h
    next address stop port hspan =>
      obtain ⟨rfl, -, hstop⟩ := eq_append_of_span hspan
      obtain ⟨haddress, hport⟩ := (Bool.and_eq_true _ _).mp h
      have haddress' : bad ∉ address := by
        rcases Bool.or_eq_true_iff.1 haddress with hnumeric | hfuture
        · exact notMem_of_isNumericAddress hnumeric hforeign
        · exact notMem_of_isFutureAddress hfuture hforeign
      have hport' := notMem_of_isPortPart hport hforeign
      obtain rfl : stop = ']' := by simpa using hstop stop rfl
      have hopen : bad ≠ '[' := ne_of_mem_foreign hforeign (by decide)
      have hclose : bad ≠ ']' := ne_of_mem_foreign hforeign (by decide)
      rw [List.mem_cons, List.mem_append, List.mem_cons]
      tauto
    next => cases h
  next =>
    cases hspan : cs.span (· != ':') with
    | mk name port =>
      rw [hspan] at h
      obtain ⟨hname, hport⟩ := (Bool.and_eq_true _ _).mp h
      obtain ⟨rfl, -, -⟩ := eq_append_of_span hspan
      have hname' := notMem_of_allAllowed hname (by decide) hforeign
      have hport' := notMem_of_isPortPart hport hforeign
      rw [List.mem_append]
      tauto

lemma notMem_of_isAuthority (h : isAuthority cs = true) (hforeign : bad ∈ foreign) : bad ∉ cs := by
  unfold isAuthority at h
  split at h
  next user host hspan =>
    obtain ⟨hcs, -, -⟩ := eq_append_of_span hspan
    obtain ⟨huser, hhost⟩ := (Bool.and_eq_true _ _).mp h
    have huser' := notMem_of_allAllowed huser (by decide) hforeign
    have hhost' := notMem_of_isHostPart hhost hforeign
    have hat : bad ≠ '@' := ne_of_mem_foreign hforeign (by decide)
    rw [hcs, List.mem_append, List.mem_cons]
    tauto
  next => exact notMem_of_isHostPart h hforeign

end Grammar

section Absolute

variable {text : String}

/-- An absolute identifier starts with its scheme, and this with a letter. -/
lemma exists_scheme (h : isAbsolute text = true) :
    ∃ c scheme rest, (Reference.ofList text.toList).scheme = some (c :: scheme) ∧
      text.toList = c :: scheme ++ ':' :: rest ∧ c.isAlpha = true ∧
      ∀ d ∈ c :: scheme, isSchemeChar d = true := by
  unfold isAbsolute at h
  rcases Reference.splitScheme_cases text.toList with hnone | ⟨c, scheme, rest, hsome, hrest⟩
  · have hscheme : (Reference.ofList text.toList).scheme = none := congrArg (·.1) hnone
    simp [hscheme] at h
  · exact ⟨c, scheme, rest, congrArg (·.1) hsome, hrest⟩

/-- A character that cannot stand in a written component is not brought in by one that may be
absent. -/
lemma notMem_of_optional {bad : Char} {valid : List Char → Bool} {part : Option (List Char)}
    {write : List Char → List Char} (h : Reference.optional valid part = true)
    (hwrite : ∀ cs, valid cs = true → bad ∉ write cs) : bad ∉ part.elim [] write := by
  cases part with
  | none => exact List.not_mem_nil
  | some cs => exact hwrite cs h

/-- An absolute identifier holds nothing that would end it or start an escape. -/
theorem notMem_of_isAbsolute (h : isAbsolute text = true) {bad : Char} (hforeign : bad ∈ foreign) :
    bad ∉ text.toList := by
  obtain ⟨c, scheme, rest, hscheme, -, -, hletters⟩ := exists_scheme h
  unfold isAbsolute Reference.isWellFormed at h
  simp only [Bool.and_eq_true] at h
  obtain ⟨-, ⟨⟨hauthority, hpath⟩, hquery⟩, hfragment⟩ := h
  have hscheme' := notMem_of_all (List.all_eq_true.2 hletters) (by decide) hforeign
  have hpath' := notMem_of_allAllowed hpath (by decide) hforeign
  have hcolon : bad ≠ ':' := ne_of_mem_foreign hforeign (by decide)
  have hslash : bad ≠ '/' := ne_of_mem_foreign hforeign (by decide)
  have hquestion : bad ≠ '?' := ne_of_mem_foreign hforeign (by decide)
  have hhash : bad ≠ '#' := ne_of_mem_foreign hforeign (by decide)
  rw [← Reference.toList_ofList text.toList, Reference.toList_eq, hscheme]
  simp only [List.mem_append, not_or]
  refine ⟨by simpa [hcolon] using hscheme', ?_, hpath', ?_, ?_⟩
  · refine notMem_of_optional hauthority fun authority h => ?_
    simp [hslash, notMem_of_isAuthority h hforeign]
  · refine notMem_of_optional hquery fun query h => ?_
    simp [hquestion, notMem_of_allAllowed h (by decide) hforeign]
  · refine notMem_of_optional hfragment fun fragment h => ?_
    simp [hhash, notMem_of_allAllowed h (by decide) hforeign]

/-- An absolute identifier means itself wherever it stands. -/
theorem resolve?_of_isAbsolute {i : Iri} (h : isAbsolute i.text = true) (base : Iri) :
    base.resolve? i.text.toList = some i := by
  obtain ⟨c, scheme, rest, hscheme, htext, hc, -⟩ := exists_scheme h
  have hwell : (Reference.ofList i.text.toList).isWellFormed = true := (Bool.and_eq_true _ _ ▸ h).2
  have hhead : (i.text.toList.head? != some ':') = true := by
    rw [htext, List.cons_append, List.head?_cons, bne_iff_ne]
    intro heq
    obtain rfl := Option.some.inj heq
    revert hc
    decide
  have hresolve : Reference.resolve (.ofList base.text.toList) (.ofList i.text.toList) =
      .ofList i.text.toList := by
    unfold Reference.resolve
    rw [if_pos (by rw [hscheme]; rfl)]
  unfold resolve?
  dsimp only
  rw [hresolve, hhead, hwell, Reference.isUnambiguous_ofList, Reference.toList_ofList,
    String.ofList_toList]
  rfl

end Absolute

end Courier.Iri
