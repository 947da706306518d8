import Courier.Proofs.Json.Lexeme
import Courier.Proofs.Text.Utf8

/-!
# Reading written values

A value all of whose strings are texts is what the reader makes of it once it is written.  This does
not depend on how much room a writer leaves: `Spells` says which characters spell a value, with
blanks wherever a writer may put them, and reading is shown to undo spelling.
-/

namespace Courier.Json

open Courier.Text Reader

/-! ### Values without damaged strings -/

mutual

/-- Whether all strings of the value are texts. -/
def IsTextual : Json → Prop
  | null | bool _ | number _ => True
  | string value => value.isSome = true
  | array items => AreTextual items
  | object members => HaveTextual members

/-- Whether all items of a list are such values. -/
def AreTextual : List Json → Prop
  | [] => True
  | item :: rest => IsTextual item ∧ AreTextual rest

/-- Whether all members of an object are such values, with texts for names. -/
def HaveTextual : List (Option String × Json) → Prop
  | [] => True
  | (name, value) :: rest => name.isSome = true ∧ IsTextual value ∧ HaveTextual rest

end

/-! ### Spelling -/

/-- What is spelled: a value, the items of a list, or the members of an object. -/
inductive Phrase where
  /-- A value. -/
  | value (v : Json)
  /-- The items of a list, of which there is at least one. -/
  | items (vs : List Json)
  /-- The members of an object, of which there is at least one. -/
  | members (ms : List (Option String × Json))

/-- Whether the characters spell the phrase.  Blanks may stand after an opening bracket, a colon or
a comma, and before a closing bracket. -/
inductive Spells : Phrase → List Char → Prop where
  | null : Spells (.value .null) "null".toList
  | bool (b : Bool) : Spells (.value (.bool b)) (if b then "true" else "false").toList
  | number (n : Number) : Spells (.value (.number n)) (writeNumber n)
  | text (s : String) : Spells (.value (.text s)) (writeString (some s))
  | emptyArray : Spells (.value (.array [])) ['[', ']']
  | array {vs : List Json} {before cs after : List Char} (hbefore : AreBlanks before)
      (hafter : AreBlanks after) (h : Spells (.items vs) cs) :
      Spells (.value (.array vs)) ('[' :: (before ++ cs ++ after ++ [']']))
  | emptyObject : Spells (.value (.object [])) ['{', '}']
  | object {ms : List (Option String × Json)} {before cs after : List Char}
      (hbefore : AreBlanks before) (hafter : AreBlanks after) (h : Spells (.members ms) cs) :
      Spells (.value (.object ms)) ('{' :: (before ++ cs ++ after ++ ['}']))
  | item {v : Json} {cs : List Char} (h : Spells (.value v) cs) : Spells (.items [v]) cs
  | items {v : Json} {vs : List Json} {cs blanks ds : List Char} (h : Spells (.value v) cs)
      (hblanks : AreBlanks blanks) (hrest : Spells (.items vs) ds) :
      Spells (.items (v :: vs)) (cs ++ ',' :: (blanks ++ ds))
  | member {name : String} {v : Json} {blanks cs : List Char} (hblanks : AreBlanks blanks)
      (h : Spells (.value v) cs) :
      Spells (.members [(some name, v)]) (writeString (some name) ++ ':' :: (blanks ++ cs))
  | members (name : String) {v : Json} {ms : List (Option String × Json)}
      {blanks cs blanks' ds : List Char} (hblanks : AreBlanks blanks) (h : Spells (.value v) cs)
      (hblanks' : AreBlanks blanks') (hrest : Spells (.members ms) ds) :
      Spells (.members ((some name, v) :: ms))
        (writeString (some name) ++ ':' :: (blanks ++ cs ++ ',' :: (blanks' ++ ds)))

/-! ### Where phrases start -/

/-- Whether a phrase may start with the character. -/
def mayStart (c : Char) : Bool :=
  c.isDigit || ['n', 't', 'f', '"', '[', '{', '-'].contains c

/-- A written number starts with a digit or a sign. -/
lemma exists_writeNumber_eq_cons (n : Number) :
    ∃ c cs, writeNumber n = c :: cs ∧ (c.isDigit = true ∨ c = '-') := by
  have hdigits : ∀ n cs, ∃ c ds, Nat.toDigits 10 n ++ cs = c :: ds ∧
      (c.isDigit = true ∨ c = '-') := by
    intro n cs
    obtain ⟨d, ds, hds, hd⟩ := exists_toDigits_eq_cons n
    exact ⟨d, ds ++ cs, by rw [hds, List.cons_append], Or.inl hd⟩
  cases n with
  | natural n =>
    have hwritten : writeNumber (.natural n) = Nat.toDigits 10 n ++ [] := by
      rw [List.append_nil]
      exact Nat.toList_repr
    rw [hwritten]
    exact hdigits n []
  | scientific negative n power =>
    cases negative with
    | true => exact ⟨'-', _, rfl, Or.inr rfl⟩
    | false =>
      have hwritten : writeNumber (.scientific false n power) =
          Nat.toDigits 10 n ++ ("e".toList ++ (toString power).toList) := by
        change (toString n ++ "e" ++ toString power).toList = _
        rw [String.toList_append, String.toList_append, List.append_assoc]
        have hn : (toString n).toList = Nat.toDigits 10 n := Nat.toList_repr
        rw [hn]
      rw [hwritten]
      exact hdigits n _

/-- Every phrase starts with a character that may start one. -/
lemma Spells.exists_eq_cons {p : Phrase} {cs : List Char} (h : Spells p cs) :
    ∃ c tail, cs = c :: tail ∧ mayStart c = true := by
  induction h with
  | null => exact ⟨'n', _, rfl, rfl⟩
  | bool b => cases b <;> exact ⟨_, _, rfl, rfl⟩
  | number n =>
    obtain ⟨c, cs, hcs, hc⟩ := exists_writeNumber_eq_cons n
    refine ⟨c, cs, hcs, ?_⟩
    rcases hc with hc | rfl
    · rw [mayStart, hc, Bool.true_or]
    · rfl
  | text s => exact ⟨'"', _, rfl, rfl⟩
  | emptyArray | array => exact ⟨'[', _, rfl, rfl⟩
  | emptyObject | object => exact ⟨'{', _, rfl, rfl⟩
  | item h ih => exact ih
  | items h hblanks hrest ih =>
    obtain ⟨c, tail, rfl, hc⟩ := ih
    exact ⟨c, _, rfl, hc⟩
  | member | members => exact ⟨'"', _, rfl, rfl⟩

/-- Blanks end before a phrase. -/
lemma Spells.skip_eq {p : Phrase} {cs : List Char} (h : Spells p cs) (rest : List Symbol) :
    skip (cs.map some ++ rest) = cs.map some ++ rest := by
  obtain ⟨c, tail, rfl, hc⟩ := h.exists_eq_cons
  refine List.dropWhile_cons_of_neg ?_
  intro hblank
  simp only [Bool.or_eq_true, beq_iff_eq, Option.some_inj] at hblank
  rcases hblank with ((rfl | rfl) | rfl) | rfl <;> cases hc

/-! ### Reading what is spelled -/

/-- Whether the phrase is what the reader makes of the characters. -/
def Phrase.IsRead : Phrase → List Char → Prop
  | .value v, cs => ∀ depth rest, 2 * cs.length ≤ depth → EndsNumber rest →
      Reader.value depth (cs.map some ++ rest) = some (v, rest)
  | .items vs, cs => ∀ depth blanks rest, 2 * cs.length + 1 ≤ depth → AreBlanks blanks →
      Reader.items depth (cs.map some ++ (blanks.map some ++ some ']' :: rest)) = some (vs, rest)
  | .members ms, cs => ∀ depth blanks rest, 2 * cs.length + 1 ≤ depth → AreBlanks blanks →
      Reader.members depth (cs.map some ++ (blanks.map some ++ some '}' :: rest)) = some (ms, rest)

/-- What starts like a number is read as a number. -/
lemma value_of_number {c : Char} (hc : c.isDigit = true ∨ c = '-') (depth : Nat)
    (cs : List Symbol) :
    Reader.value (depth + 1) (some c :: cs) =
      (Reader.number (some c :: cs)).map fun (n, tail) => (.number n, tail) := by
  unfold Reader.value
  split
  case h_7 => rfl
  all_goals
    next heq =>
      cases heq
      rcases hc with hc | hc <;> cases hc

/-- A list with items is read item by item. -/
lemma value_array {depth : Nat} {cs after rest : List Symbol} {vs : List Json} {c : Char}
    (hskip : skip cs = some c :: after) (hc : c ≠ ']')
    (h : Reader.items depth (some c :: after) = some (vs, rest)) :
    Reader.value (depth + 1) (some '[' :: cs) = some (.array vs, rest) := by
  unfold Reader.value
  simp only [hskip]
  split
  next heq =>
    cases heq
    exact absurd rfl hc
  next => rw [h, Option.map_some]

/-- An object with members is read member by member. -/
lemma value_object {depth : Nat} {cs after rest : List Symbol}
    {ms : List (Option String × Json)} {c : Char}
    (hskip : skip cs = some c :: after) (hc : c ≠ '}')
    (h : Reader.members depth (some c :: after) = some (ms, rest)) :
    Reader.value (depth + 1) (some '{' :: cs) = some (.object ms, rest) := by
  unfold Reader.value
  simp only [hskip]
  split
  next heq =>
    cases heq
    exact absurd rfl hc
  next => rw [h, Option.map_some]

lemma endsNumber_cons {c : Char} (hc : c ∈ [',', ']', '}']) (rest : List Symbol) :
    EndsNumber (some c :: rest) := by
  rintro d hd
  cases hd
  simp only [List.mem_cons, List.not_mem_nil, or_false] at hc
  rcases hc with rfl | rfl | rfl <;> decide

/-- Blanks end a number. -/
lemma AreBlanks.endsNumber {blanks : List Char} (h : AreBlanks blanks) {rest : List Symbol}
    (hrest : EndsNumber rest) : EndsNumber (blanks.map some ++ rest) := by
  cases blanks with
  | nil => exact hrest
  | cons c cs =>
    rintro d hd
    cases hd
    rcases h c (List.mem_cons_self ..) with rfl | rfl <;> decide

/-- An item before a comma is read, and the reader goes on after the comma. -/
lemma items_cons {depth : Nat} {v : Json} {cs ds rest : List Symbol} {vs : List Json}
    (h : Reader.value depth cs = some (v, some ',' :: ds))
    (hrest : Reader.items depth (skip ds) = some (vs, rest)) :
    Reader.items (depth + 1) cs = some (v :: vs, rest) := by
  have hcomma : skip (some ',' :: ds) = some ',' :: ds := rfl
  rw [Reader.items]
  simp only [h, hcomma, hrest, Option.map_some]

/-- A name and its value before a closing brace are the last member. -/
lemma members_last {depth : Nat} (name : String) {v : Json} {cs ds tail rest : List Symbol}
    (hskip : skip cs = ds) (h : Reader.value depth ds = some (v, tail))
    (htail : skip tail = some '}' :: rest) :
    Reader.members (depth + 1) ((writeString (some name)).map some ++ some ':' :: cs) =
      some ([(some name, v)], rest) := by
  obtain ⟨chars, hchars, hread⟩ := string_writeString name
  have hcolon : skip (some ':' :: cs) = some ':' :: cs := rfl
  rw [hchars, List.map_cons, List.cons_append, Reader.members]
  simp only [hread, hcolon, hskip, h, htail]

/-- A name and its value before a comma are a member, and the reader goes on after the comma. -/
lemma members_cons {depth : Nat} (name : String) {v : Json}
    {cs ds tail rest : List Symbol} {ms : List (Option String × Json)}
    (hskip : skip cs = ds) (h : Reader.value depth ds = some (v, some ',' :: tail))
    (hrest : Reader.members depth (skip tail) = some (ms, rest)) :
    Reader.members (depth + 1) ((writeString (some name)).map some ++ some ':' :: cs) =
      some ((some name, v) :: ms, rest) := by
  obtain ⟨chars, hchars, hread⟩ := string_writeString name
  have hcolon : skip (some ':' :: cs) = some ':' :: cs := rfl
  have hcomma : skip (some ',' :: tail) = some ',' :: tail := rfl
  rw [hchars, List.map_cons, List.cons_append, Reader.members]
  simp only [hread, hcolon, hskip, h, hcomma, hrest, Option.map_some]

/-- What is spelled is read. -/
theorem Spells.isRead {p : Phrase} {cs : List Char} (h : Spells p cs) : p.IsRead cs := by
  -- The induction is on how the phrase is spelled.  Each call of the reader takes one step of depth
  -- and at least one character or separator, so twice the number of characters is deep enough.
  induction h with
  | null =>
    rintro (_ | depth) rest hdepth -
    · cases hdepth
    · rfl
  | bool b =>
    rintro (_ | depth) rest hdepth -
    · cases b <;> cases hdepth
    · cases b <;> rfl
  | number n =>
    obtain ⟨c, cs, hcs, hc⟩ := exists_writeNumber_eq_cons n
    rintro (_ | depth) rest hdepth hrest
    · rw [hcs] at hdepth
      cases hdepth
    · have hread := number_writeNumber n hrest
      rw [hcs] at hread ⊢
      rw [List.map_cons, List.cons_append] at hread ⊢
      rw [value_of_number hc, hread, Option.map_some]
  | text s =>
    obtain ⟨cs, hcs, hread⟩ := string_writeString s
    rintro (_ | depth) rest hdepth -
    · rw [hcs] at hdepth
      cases hdepth
    · rw [hcs]
      change (Reader.string (cs.map some ++ rest)).map _ = _
      rw [hread, Option.map_some]
      rfl
  | emptyArray =>
    rintro (_ | depth) rest hdepth -
    · cases hdepth
    · rfl
  | emptyObject =>
    rintro (_ | depth) rest hdepth -
    · cases hdepth
    · rfl
  | @array vs before cs after hbefore hafter h ih =>
    rintro (_ | depth) rest hdepth -
    · cases hdepth
    · have hinner : (before ++ cs ++ after ++ [']']).map some ++ rest =
          before.map some ++ (cs.map some ++ (after.map some ++ some ']' :: rest)) := by
        simp
      have hread := ih depth after rest (by simp at hdepth; omega) hafter
      obtain ⟨c, tail, rfl, hc⟩ := h.exists_eq_cons
      rw [List.map_cons, List.cons_append, hinner]
      refine value_array ((skip_append hbefore _).trans (h.skip_eq _)) ?_ hread
      rintro rfl
      cases hc
  | @object ms before cs after hbefore hafter h ih =>
    rintro (_ | depth) rest hdepth -
    · cases hdepth
    · have hinner : (before ++ cs ++ after ++ ['}']).map some ++ rest =
          before.map some ++ (cs.map some ++ (after.map some ++ some '}' :: rest)) := by
        simp
      have hread := ih depth after rest (by simp at hdepth; omega) hafter
      obtain ⟨c, tail, rfl, hc⟩ := h.exists_eq_cons
      rw [List.map_cons, List.cons_append, hinner]
      refine value_object ((skip_append hbefore _).trans (h.skip_eq _)) ?_ hread
      rintro rfl
      cases hc
  | @item v cs h ih =>
    rintro (_ | depth) blanks rest hdepth hblanks
    · cases hdepth
    · have hends : EndsNumber (some ']' :: rest) := endsNumber_cons (by decide) rest
      have hread := ih depth _ (by omega) (hblanks.endsNumber hends)
      have hclose : skip (some ']' :: rest) = some ']' :: rest := rfl
      rw [Reader.items]
      simp only [hread, skip_append hblanks, hclose]
  | @items v vs cs before ds h hbefore hrest ih ihrest =>
    rintro (_ | depth) blanks rest hdepth hblanks
    · cases hdepth
    · simp only [List.length_append, List.length_cons] at hdepth
      have hinner : (cs ++ ',' :: (before ++ ds)).map some ++
          (blanks.map some ++ some ']' :: rest) = cs.map some ++ (some ',' ::
            (before.map some ++ (ds.map some ++ (blanks.map some ++ some ']' :: rest)))) := by
        simp
      rw [hinner]
      have hends : ∀ rest : List Symbol, EndsNumber (some ',' :: rest) :=
        endsNumber_cons (by decide)
      refine items_cons (ih depth _ (by omega) (hends _)) ?_
      rw [skip_append hbefore, hrest.skip_eq]
      exact ihrest depth blanks rest (by omega) hblanks
  | @member name v before cs hbefore h ih =>
    rintro (_ | depth) blanks rest hdepth hblanks
    · cases hdepth
    · simp only [List.length_append, List.length_cons] at hdepth
      have hinner : (writeString (some name) ++ ':' :: (before ++ cs)).map some ++
          (blanks.map some ++ some '}' :: rest) = (writeString (some name)).map some ++ some ':' ::
            (before.map some ++ (cs.map some ++ (blanks.map some ++ some '}' :: rest))) := by
        simp
      have hends : EndsNumber (some '}' :: rest) := endsNumber_cons (by decide) rest
      have hread := ih depth _ (by omega) (hblanks.endsNumber hends)
      rw [hinner]
      exact members_last name ((skip_append hbefore _).trans (h.skip_eq _)) hread
        (skip_append hblanks _)
  | @members name v ms before cs between ds hbefore h hbetween hrest ih ihrest =>
    rintro (_ | depth) blanks rest hdepth hblanks
    · cases hdepth
    · simp only [List.length_append, List.length_cons] at hdepth
      have hinner :
          (writeString (some name) ++ ':' :: (before ++ cs ++ ',' :: (between ++ ds))).map some ++
            (blanks.map some ++ some '}' :: rest) =
          (writeString (some name)).map some ++ some ':' :: (before.map some ++ (cs.map some ++
            (some ',' :: (between.map some ++
              (ds.map some ++ (blanks.map some ++ some '}' :: rest)))))) := by
        simp
      have hends : ∀ rest : List Symbol, EndsNumber (some ',' :: rest) :=
        endsNumber_cons (by decide)
      have hread := fun rest => ih depth (some ',' :: rest) (by omega) (hends rest)
      rw [hinner]
      refine members_cons name ((skip_append hbefore _).trans (h.skip_eq _)) (hread _) ?_
      rw [skip_append hbetween, hrest.skip_eq]
      exact ihrest depth blanks rest (by omega) hblanks

/-- Symbols that spell a value are read as the value. -/
theorem Spells.ofSymbols?_eq {v : Json} {cs : List Char} (h : Spells (.value v) cs) :
    ofSymbols? (cs.map some) = some v := by
  have hread : Reader.value (2 * (cs.map some).length + 2) (cs.map some ++ []) = some (v, []) :=
    h.isRead _ [] (by rw [List.length_map]; omega) (fun c hc => by cases hc)
  have hskip := h.skip_eq []
  rw [List.append_nil] at hread hskip
  unfold ofSymbols?
  rw [hskip, hread]
  rfl

/-! ### Writing without blanks -/

lemma areBlanks_nil : AreBlanks [] :=
  fun _ h => nomatch h

mutual

/-- The value without blanks spells it. -/
theorem spells_compactList : (v : Json) → v.IsTextual → Spells (.value v) (compactList v)
  | .null, _ => .null
  | .bool b, _ => .bool b
  | .number n, _ => .number n
  | .string (some s), _ => .text s
  | .array [], _ => .emptyArray
  | .array (item :: rest), h => by
    have hitems := spells_compactItems (item :: rest) (List.cons_ne_nil _ _) h
    have hspells := Spells.array areBlanks_nil areBlanks_nil hitems
    rw [List.nil_append, List.append_nil] at hspells
    exact hspells
  | .object [], _ => .emptyObject
  | .object (member :: rest), h => by
    have hmembers := spells_compactMembers (member :: rest) (List.cons_ne_nil _ _) h
    have hspells := Spells.object areBlanks_nil areBlanks_nil hmembers
    rw [List.nil_append, List.append_nil] at hspells
    exact hspells

/-- The items with commas between them spell the items. -/
theorem spells_compactItems : (items : List Json) → items ≠ [] → AreTextual items →
    Spells (.items items) (compactItems items)
  | [item], _, h => .item (spells_compactList item h.1)
  | item :: next :: rest, _, h =>
    .items (spells_compactList item h.1) areBlanks_nil
      (spells_compactItems (next :: rest) (List.cons_ne_nil _ _) h.2)

/-- The members with commas between them spell the members. -/
theorem spells_compactMembers : (members : List (Option String × Json)) → members ≠ [] →
    HaveTextual members → Spells (.members members) (compactMembers members)
  | [(some name, value)], _, h => .member areBlanks_nil (spells_compactList value h.2.1)
  | (some name, value) :: next :: rest, _, h => by
    have hvalue := spells_compactList value h.2.1
    have hrest := spells_compactMembers (next :: rest) (List.cons_ne_nil _ _) h.2.2
    have hspells := Spells.members name areBlanks_nil hvalue areBlanks_nil hrest
    simp only [List.nil_append] at hspells
    rw [compactMembers, List.append_assoc]
    · exact hspells
    · exact fun hnil => nomatch hnil

end

/-- A value without damaged strings is read back from its line. -/
theorem ofString?_compact {v : Json} (h : v.IsTextual) : ofString? v.compact = some v := by
  unfold ofString? compact
  rw [String.toList_ofList]
  exact (spells_compactList v h).ofSymbols?_eq

/-- A value without damaged strings is read back from its bytes. -/
theorem ofBytes?_utf8_compact {v : Json} (h : v.IsTextual) :
    ofBytes? (utf8 v.compact) = some v := by
  unfold ofBytes? compact
  rw [symbols_utf8, String.toList_ofList]
  exact (spells_compactList v h).ofSymbols?_eq

/-! ### Writing on lines -/

lemma areBlanks_newLine (level : Nat) : AreBlanks (newLine level) := by
  intro c hc
  rcases List.mem_cons.1 hc with rfl | hc
  · exact Or.inr rfl
  · exact Or.inl (List.eq_of_mem_replicate hc)

lemma areBlanks_singleton : AreBlanks [' '] := by
  intro c hc
  exact Or.inl (List.mem_singleton.1 hc)

mutual

/-- The value on lines of its own spells it. -/
theorem spells_prettyList (level : Nat) :
    (v : Json) → v.IsTextual → Spells (.value v) (prettyList level v)
  | .null, _ => .null
  | .bool b, _ => .bool b
  | .number n, _ => .number n
  | .string (some s), _ => .text s
  | .array [], _ => .emptyArray
  | .array (item :: rest), h => by
    have hitems := spells_prettyItems (level + 1) (item :: rest) (List.cons_ne_nil _ _) h
    have hspells := Spells.array (areBlanks_newLine (level + 1)) (areBlanks_newLine level) hitems
    rw [prettyList]
    simp only [List.cons_append, List.append_assoc] at hspells ⊢
    exact hspells
  | .object [], _ => .emptyObject
  | .object (member :: rest), h => by
    have hmembers := spells_prettyMembers (level + 1) (member :: rest) (List.cons_ne_nil _ _) h
    have hspells := Spells.object (areBlanks_newLine (level + 1)) (areBlanks_newLine level) hmembers
    rw [prettyList]
    simp only [List.cons_append, List.append_assoc] at hspells ⊢
    exact hspells

/-- The items on lines of their own spell the items. -/
theorem spells_prettyItems (level : Nat) : (items : List Json) → items ≠ [] → AreTextual items →
    Spells (.items items) (prettyItems level items)
  | [item], _, h => .item (spells_prettyList level item h.1)
  | item :: next :: rest, _, h => by
    have hrest := spells_prettyItems level (next :: rest) (List.cons_ne_nil _ _) h.2
    have hspells := Spells.items (spells_prettyList level item h.1) (areBlanks_newLine level) hrest
    rw [prettyItems]
    · simp only [List.append_assoc, List.cons_append] at hspells ⊢
      exact hspells
    · exact fun hnil => nomatch hnil

/-- The members on lines of their own spell the members. -/
theorem spells_prettyMembers (level : Nat) : (members : List (Option String × Json)) →
    members ≠ [] → HaveTextual members → Spells (.members members) (prettyMembers level members)
  | [(some name, value)], _, h => .member areBlanks_singleton (spells_prettyList level value h.2.1)
  | (some name, value) :: next :: rest, _, h => by
    have hvalue := spells_prettyList level value h.2.1
    have hrest := spells_prettyMembers level (next :: rest) (List.cons_ne_nil _ _) h.2.2
    have hspells := Spells.members name areBlanks_singleton hvalue (areBlanks_newLine level) hrest
    rw [prettyMembers]
    · simp only [List.append_assoc, List.cons_append, List.nil_append] at hspells ⊢
      exact hspells
    · exact fun hnil => nomatch hnil

end

/-- A value without damaged strings is read back from its lines. -/
theorem ofString?_pretty {v : Json} (h : v.IsTextual) : ofString? v.pretty = some v := by
  unfold ofString? pretty
  rw [String.toList_ofList]
  exact (spells_prettyList 0 v h).ofSymbols?_eq

end Courier.Json
