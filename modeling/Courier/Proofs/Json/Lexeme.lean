import Courier.Json.Reader
import Courier.Json.Writer
import Mathlib.Data.List.Basic

/-!
# Written strings and numbers

What the reader makes of blanks, strings and numbers as the writer writes them, whatever comes after
them.  A string ends with its quote.  A number ends where a character comes that could not belong to
it.
-/

namespace Courier.Json

open Courier.Text Reader

/-! ### Blanks -/

/-- Whether the characters are blanks that a writer uses. -/
def AreBlanks (cs : List Char) : Prop :=
  ∀ c ∈ cs, c = ' ' ∨ c = '\n'

/-- Blanks are passed over. -/
lemma skip_append {blanks : List Char} (h : AreBlanks blanks) (rest : List Symbol) :
    skip (blanks.map some ++ rest) = skip rest := by
  induction blanks with
  | nil => rfl
  | cons c cs ih =>
    have hrest : skip (cs.map some ++ rest) = skip rest := by
      refine ih fun d hd => ?_
      exact h d (List.mem_cons_of_mem _ hd)
    rw [← hrest]
    rcases h c (List.mem_cons_self ..) with rfl | rfl <;> rfl

/-! ### Strings -/

/-- A numeric escape of a control has the code point of the control. -/
lemma hexNumber?_control {n : Nat} (h : n < 0x20) :
    hexNumber? ['0', '0', hexDigit (n / 16), hexDigit (n % 16)] = some n := by
  have hall : ∀ n < 0x20,
      hexNumber? ['0', '0', hexDigit (n / 16), hexDigit (n % 16)] = some n := by decide
  exact hall n h

lemma ofCodeUnit_toNat (c : Char) : Part.ofCodeUnit c.toNat = .char c := by
  have hvalid : c.toNat.isValidChar := c.valid
  unfold Part.ofCodeUnit
  rw [dif_pos hvalid]
  rfl

/-- A character is read as it was written. -/
lemma parts_escape (c : Char) (rest : List Symbol) :
    parts ((escape c).map some ++ rest) =
      (parts rest).map fun (ps, tail) => (.char c :: ps, tail) := by
  unfold escape
  split
  case h_8 hquote hbackslash _ _ _ _ _ =>
    split
    next hcontrol =>
      change parts (some '\\' :: some 'u' :: some '0' :: some '0' ::
        some (hexDigit (c.toNat / 16)) :: some (hexDigit (c.toNat % 16)) :: rest) = _
      rw [parts, hexNumber?_control hcontrol]
      simp only [ofCodeUnit_toNat]
    next hcontrol =>
      change parts (some c :: rest) = _
      rw [parts.eq_def]
      split
      case h_6 heq =>
        cases heq
        rw [if_neg]
        rw [Bool.or_eq_true, decide_eq_true_eq, beq_iff_eq]
        exact fun h => h.elim hbackslash hcontrol
      all_goals simp_all
  all_goals rfl

/-- Characters make up the text that they are written for. -/
lemma join?_map_char (cs : List Char) : join? (cs.map .char) = some cs := by
  induction cs with
  | nil => rfl
  | cons c cs ih =>
    change (join? (cs.map .char)).map (c :: ·) = _
    rw [ih, Option.map_some]

/-- A text is read as it was written, up to its closing quote. -/
theorem string_writeString (text : String) :
    ∃ cs, writeString (some text) = '"' :: cs ∧
      ∀ rest, Reader.string (cs.map some ++ rest) = some (some text, rest) := by
  refine ⟨text.toList.flatMap escape ++ ['"'], rfl, fun rest => ?_⟩
  have hparts : ∀ cs : List Char,
      parts ((cs.flatMap escape ++ ['"']).map some ++ rest) = some (cs.map .char, rest) := by
    intro cs
    induction cs with
    | nil => rfl
    | cons c cs ih =>
      rw [List.flatMap_cons, List.append_assoc, List.map_append, List.append_assoc, parts_escape,
        ih]
      rfl
  unfold Reader.string
  rw [hparts, Option.map_some]
  simp only [join?_map_char, Option.map_some, String.ofList_toList]

/-! ### Numbers -/

/-- Whether what comes after a number cannot belong to it. -/
def EndsNumber (rest : List Symbol) : Prop :=
  ∀ c, rest.head? = some (some c) → c.isDigit = false ∧ c ≠ '.' ∧ c ≠ 'e' ∧ c ≠ 'E'

/-- Whether what comes after digits is none. -/
def EndsDigits (rest : List Symbol) : Prop :=
  ∀ c, rest.head? = some (some c) → c.isDigit = false

/-- Digits are read up to where they end. -/
lemma digits_append {ds : List Char} (h : ∀ d ∈ ds, d.isDigit = true) {rest : List Symbol}
    (hrest : EndsDigits rest) : digits (ds.map some ++ rest) = (ds, rest) := by
  induction ds with
  | nil =>
    match rest, hrest with
    | [], _ => rfl
    | none :: _, _ => rfl
    | some c :: _, hrest =>
      have hc : c.isDigit = false := hrest c rfl
      rw [List.map_nil, List.nil_append, digits, hc]
      rfl
  | cons d ds ih =>
    have hd : d.isDigit = true := h d (List.mem_cons_self ..)
    have hds : digits (ds.map some ++ rest) = (ds, rest) := by
      refine ih fun d hd => ?_
      exact h d (List.mem_cons_of_mem _ hd)
    rw [List.map_cons, List.cons_append, digits, if_pos hd, hds]

lemma decimal_toDigits (n : Nat) : decimal (Nat.toDigits 10 n) = n := by
  have h := Nat.ofDigitChars_ten_toDigits (n := n)
  rw [Nat.ofDigitChars_eq_foldl] at h
  exact h

/-- Only zero starts with a zero. -/
lemma head?_toDigits_ne {n : Nat} (h : 0 < n) : (Nat.toDigits 10 n).head? ≠ some '0' := by
  induction n using Nat.strongRecOn with
  | ind n ih =>
    rcases Nat.lt_or_ge n 10 with hn | hn
    · rw [Nat.toDigits_of_lt_base hn, List.head?_cons, Ne, Option.some_inj, Nat.digitChar_eq_zero]
      omega
    · have hquotient : (Nat.toDigits 10 (n / 10)).head? ≠ some '0' :=
        ih (n / 10) (by omega) (by omega)
      rw [Nat.toDigits_of_base_le (by omega) hn, List.head?_append_of_ne_nil _ Nat.toDigits_ne_nil]
      exact hquotient

/-- The digits of a number are a whole part without superfluous zeros. -/
lemma isWhole_toDigits (n : Nat) :
    ((Nat.toDigits 10 n).isEmpty ||
      (Nat.toDigits 10 n).head? == some '0' && 1 < (Nat.toDigits 10 n).length) = false := by
  have hne : (Nat.toDigits 10 n).isEmpty = false := by
    rw [List.isEmpty_eq_false_iff]
    exact Nat.toDigits_ne_nil
  rw [hne, Bool.false_or]
  rcases Nat.eq_zero_or_pos n with rfl | hn
  · rfl
  · have hhead : ((Nat.toDigits 10 n).head? == some '0') = false := by
      rw [beq_eq_false_iff_ne]
      exact head?_toDigits_ne hn
    rw [hhead, Bool.false_and]

lemma isDigit_of_mem_toDigits {n : Nat} : ∀ d ∈ Nat.toDigits 10 n, d.isDigit = true :=
  fun _ hd => Nat.isDigit_of_mem_toDigits (by decide) (by decide) hd

lemma EndsNumber.endsDigits {rest : List Symbol} (h : EndsNumber rest) : EndsDigits rest :=
  fun c hc => (h c hc).1

lemma EndsNumber.fraction {rest : List Symbol} (h : EndsNumber rest) :
    fraction rest = some ([], rest) := by
  unfold Reader.fraction
  split
  next tail => exact absurd rfl (h '.' rfl).2.1
  next => rfl

lemma EndsNumber.exponent {rest : List Symbol} (h : EndsNumber rest) :
    exponent rest = some (none, rest) := by
  unfold Reader.exponent
  split
  next e tail =>
    rw [if_neg]
    have he := h e rfl
    exact fun hor => hor.elim he.2.2.1 he.2.2.2
  next => rfl

/-- The digits of a number start with a digit. -/
lemma exists_toDigits_eq_cons (n : Nat) :
    ∃ d ds, Nat.toDigits 10 n = d :: ds ∧ d.isDigit = true := by
  obtain ⟨d, ds, hds⟩ := List.exists_cons_of_ne_nil (Nat.toDigits_ne_nil (n := n) (b := 10))
  refine ⟨d, ds, hds, isDigit_of_mem_toDigits (n := n) d ?_⟩
  rw [hds]
  exact List.mem_cons_self ..

/-- What a number comes to that is written with digits, and perhaps a sign before and an exponent
after them. -/
lemma number_toDigits (negative : Bool) (n : Nat) {power : Option Int} {tail rest : List Symbol}
    (hdigits : EndsDigits tail) (hfraction : fraction tail = some ([], tail))
    (hexponent : exponent tail = some (power, rest)) :
    Reader.number (((if negative then ['-'] else []) ++ Nat.toDigits 10 n).map some ++ tail) =
      some (if !negative && power.isNone then .natural n
        else .scientific negative n (power.getD 0), rest) := by
  have hread := digits_append (isDigit_of_mem_toDigits (n := n)) hdigits
  unfold Reader.number
  split
  next sign after heq =>
    have hsign : (negative, (Nat.toDigits 10 n).map some ++ tail) = (sign, after) := by
      rw [← heq]
      obtain ⟨d, ds, hds, hd⟩ := exists_toDigits_eq_cons n
      cases negative with
      | true => rfl
      | false =>
        rw [hds]
        split
        next h =>
          -- A minus is no digit.
          cases h
          cases hd
        next => rfl
    cases hsign
    simp only [hread, isWhole_toDigits, hfraction, Bool.false_eq_true, if_false,
      Option.bind_eq_bind, Option.bind_some, hexponent, List.append_nil, decimal_toDigits]
    cases negative <;> cases power <;> simp

/-- An exponent is read as it was written. -/
lemma exponent_toString (power : Int) {rest : List Symbol} (h : EndsDigits rest) :
    exponent (some 'e' :: ((toString power).toList.map some ++ rest)) =
      some (some power, rest) := by
  have hread : ∀ n, digits ((Nat.toDigits 10 n).map some ++ rest) = (Nat.toDigits 10 n, rest) :=
    fun n => digits_append isDigit_of_mem_toDigits h
  have hne : ∀ n, (Nat.toDigits 10 n).isEmpty = false := by
    intro n
    rw [List.isEmpty_eq_false_iff]
    exact Nat.toDigits_ne_nil
  unfold Reader.exponent
  dsimp only
  rw [if_pos (Or.inl rfl)]
  cases power with
  | ofNat n =>
    have hwritten : (toString (Int.ofNat n)).toList = Nat.toDigits 10 n := Nat.toList_repr
    rw [hwritten]
    obtain ⟨d, ds, hds, hd⟩ := exists_toDigits_eq_cons n
    -- Neither sign is a digit.
    split
    next heq =>
      rw [hds] at heq
      cases heq
      cases hd
    next heq =>
      rw [hds] at heq
      cases heq
      cases hd
    next => simp [hread, hne, decimal_toDigits]
  | negSucc n =>
    have hwritten : (toString (Int.negSucc n)).toList = '-' :: Nat.toDigits 10 (n + 1) := by
      change ("-" ++ Nat.repr (n + 1)).toList = _
      rw [String.toList_append, Nat.toList_repr]
      rfl
    rw [hwritten]
    simp only [List.map_cons, List.cons_append, hread, hne, decimal_toDigits, Bool.false_eq_true,
      if_false, if_true]
    rfl

/-- A number is read as it was written. -/
theorem number_writeNumber (n : Number) {rest : List Symbol} (h : EndsNumber rest) :
    Reader.number ((writeNumber n).map some ++ rest) = some (n, rest) := by
  cases n with
  | natural n =>
    have hwritten : writeNumber (.natural n) = Nat.toDigits 10 n := Nat.toList_repr
    rw [hwritten]
    exact number_toDigits false n h.endsDigits h.fraction h.exponent
  | scientific negative n power =>
    have hwritten : (writeNumber (.scientific negative n power)).map some ++ rest =
        ((if negative then ['-'] else []) ++ Nat.toDigits 10 n).map some ++
          some 'e' :: ((toString power).toList.map some ++ rest) := by
      unfold writeNumber
      dsimp only
      rw [String.toList_append, String.toList_append]
      have hdigits : (toString n).toList = Nat.toDigits 10 n := Nat.toList_repr
      rw [hdigits]
      simp
    have hends : EndsDigits (some 'e' :: ((toString power).toList.map some ++ rest)) := by
      intro c hc
      cases hc
      rfl
    rw [hwritten, number_toDigits negative n hends rfl (exponent_toString power h.endsDigits)]
    simp

end Courier.Json
