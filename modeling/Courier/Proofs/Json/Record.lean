import Courier.Proofs.Json.RoundTrip
import Courier.Query.Plan.Wire
import Mathlib.Data.List.Nodup

/-!
# Records written field by field

A record is written with a member for every field that has a value.  If no two fields share a name,
every field is read as it was written, absent ones included.  Records of texts can always be kept.
-/

namespace Courier.Json

/-- The members that record fields: those that have a value. -/
def present (fields : List (String × Option Json)) : List (String × Json) :=
  fields.flatMap fun (name, value) => member name value

section Record

variable {members : List (String × Json)} {fields : List (String × Option Json)}

lemma record_eq (members : List (String × Json)) :
    record members = object (members.map fun m => (some m.1, m.2)) :=
  rfl

lemma lookup_map_some (members : List (String × Json)) (name : String) :
    (members.map fun m => (some m.1, m.2)).lookup (some name) = members.lookup name := by
  induction members with
  | nil => rfl
  | cons m members ih =>
    rw [List.map_cons, List.lookup_cons, List.lookup_cons, ih]
    rfl

/-- The fields of a record are its members, unless a name comes twice. -/
lemma fields?_record (h : (members.map Prod.fst).Nodup) (names : List String) (spare : Nat) :
    fields? names spare (record members) = some (names.map fun name => members.lookup name) := by
  have hcount : ∀ name, (members.map fun m => (some m.1, m.2)).countP (·.1 == some name) ≤ 1 := by
    intro name
    have honce := List.nodup_iff_count_le_one.1 h name
    rw [List.count, List.countP_map] at honce
    rw [List.countP_map]
    exact honce
  have hread : ((members.map fun m => (some m.1, m.2)).all (·.1.isSome) && names.all fun name =>
      decide ((members.map fun m => (some m.1, m.2)).countP (·.1 == some name) ≤ 1)) = true := by
    rw [Bool.and_eq_true, List.all_eq_true, List.all_eq_true]
    exact ⟨List.forall_mem_map.2 fun _ _ => rfl, fun name _ => decide_eq_true (hcount name)⟩
  rw [record_eq]
  unfold fields?
  dsimp only
  rw [if_pos hread]
  simp only [lookup_map_some]

/-- Fields without a value leave no name behind. -/
lemma map_fst_present_sublist (fields : List (String × Option Json)) :
    ((present fields).map Prod.fst).Sublist (fields.map Prod.fst) := by
  induction fields with
  | nil => exact List.Sublist.slnil
  | cons f fields ih =>
    obtain ⟨name, value⟩ := f
    cases value with
    | none => exact ih.cons name
    | some value => exact ih.cons_cons name

/-- A field is found among the members that record it and others. -/
lemma lookup_present (h : (fields.map Prod.fst).Nodup) {name : String} {value : Option Json}
    (hmem : (name, value) ∈ fields) : (present fields).lookup name = value := by
  induction fields with
  | nil => cases hmem
  | cons f fields ih =>
    obtain ⟨first, content⟩ := f
    obtain ⟨hfirst, hrest⟩ := List.nodup_cons.1 h
    have hskip : first ∉ (present fields).map Prod.fst :=
      fun hname => hfirst ((map_fst_present_sublist fields).subset hname)
    rcases List.mem_cons.1 hmem with heq | hlater
    · cases heq
      cases value with
      | some value => exact List.lookup_cons_self
      | none =>
        change (present fields).lookup name = none
        rw [List.lookup_eq_none_iff]
        intro m hm
        rw [bne_iff_ne]
        intro hname
        rw [hname] at hskip
        exact hskip (List.mem_map_of_mem hm)
    · have hne : name ≠ first := by
        intro hname
        rw [hname] at hlater
        exact hfirst (List.mem_map.2 ⟨_, hlater, rfl⟩)
      cases content with
      | none => exact ih hrest hlater
      | some content =>
        change ((first, content) :: present fields).lookup name = value
        rw [List.lookup_cons, beq_eq_false_iff_ne.2 hne]
        exact ih hrest hlater

/-- What is recorded field by field is read field by field. -/
theorem fields?_record_present (h : (fields.map Prod.fst).Nodup) (spare : Nat) :
    fields? (fields.map Prod.fst) spare (record (present fields)) =
      some (fields.map Prod.snd) := by
  rw [fields?_record (h.sublist (map_fst_present_sublist fields)), List.map_map]
  refine congrArg some (List.map_congr_left fun f hf => ?_)
  exact lookup_present h hf

end Record

/-! ### Records of texts -/

/-- Whether all values of a record are texts. -/
def AreTexts (members : List (String × Json)) : Prop :=
  ∀ m ∈ members, ∃ value, m.2 = text value

lemma AreTexts.isKeepable {members : List (String × Json)} (h : AreTexts members) (depth : Nat) :
    (record members).isKeepable (depth + 1) = true := by
  change membersKeepable depth (members.map _) = true
  induction members with
  | nil => rfl
  | cons m members ih =>
    obtain ⟨name, value⟩ := m
    obtain ⟨⟨content, rfl⟩, hrest⟩ := List.forall_mem_cons.1 h
    rw [List.map_cons, membersKeepable, ih hrest]
    rfl

lemma AreTexts.isTextual {members : List (String × Json)} (h : AreTexts members) :
    (record members).IsTextual := by
  change HaveTextual (members.map _)
  induction members with
  | nil => trivial
  | cons m members ih =>
    obtain ⟨name, value⟩ := m
    obtain ⟨⟨content, rfl⟩, hrest⟩ := List.forall_mem_cons.1 h
    exact ⟨rfl, rfl, ih hrest⟩

/-- Fields that are texts leave texts behind. -/
lemma areTexts_present {fields : List (String × Option Json)}
    (h : ∀ f ∈ fields, ∀ value ∈ f.2, ∃ content, value = text content) :
    AreTexts (present fields) := by
  intro m hm
  obtain ⟨⟨name, value⟩, hf, hvalue⟩ := List.mem_flatMap.1 hm
  cases value with
  | none => cases hvalue
  | some value =>
    obtain rfl : m = (name, value) := List.mem_singleton.1 hvalue
    exact h _ hf value rfl

/-- Whether the value is a record of texts. -/
def IsTextRecord (v : Json) : Prop :=
  ∃ members, v = record members ∧ AreTexts members

/-- A list of records of texts has no damaged strings. -/
lemma isTextual_array {items : List Json} (h : ∀ item ∈ items, item.IsTextRecord) :
    (array items).IsTextual := by
  change AreTextual items
  induction items with
  | nil => trivial
  | cons item items ih =>
    obtain ⟨⟨members, rfl, htexts⟩, hrest⟩ := List.forall_mem_cons.1 h
    exact ⟨htexts.isTextual, ih hrest⟩

/-- A list of records of texts can be kept where two levels can. -/
lemma isKeepable_array {items : List Json} (h : ∀ item ∈ items, item.IsTextRecord) (depth : Nat) :
    (array items).isKeepable (depth + 2) = true := by
  change itemsKeepable (depth + 1) items = true
  induction items with
  | nil => rfl
  | cons item items ih =>
    obtain ⟨⟨members, rfl, htexts⟩, hrest⟩ := List.forall_mem_cons.1 h
    rw [itemsKeepable, htexts.isKeepable depth, ih hrest]
    rfl

end Courier.Json
