import Courier.Collection.OrderedSet
import Mathlib.Data.List.Nodup
import Mathlib.Data.List.Perm.Subperm
import Mathlib.Data.Set.Basic

/-!
# Ordered sets as sets

An ordered set stands for the set of everything that is the same as one of its elements.  That set,
`OrderedSet.toSet`, forgets the order and which of several elements that are the same was kept, and
nothing else: every operation is described by what it does to it.  What it forgets is in the list: a
set of given elements lists each of them where it came first (`OrderedSet.toList_ofList`), and `==`
compares ordered sets by what it does not forget (`OrderedSet.beq_iff`).
-/

namespace Courier.OrderedSet

section Members

variable {α : Type} [BEq α]

/-- Everything that is the same as some element. -/
def toSet (s : OrderedSet α) : Set α :=
  {a | s.contains a = true}

theorem mem_toSet {s : OrderedSet α} {a : α} : a ∈ s.toSet ↔ ∃ b ∈ s.toList, (b == a) = true := by
  simp [toSet, contains]

@[simp] theorem toSet_empty : (empty : OrderedSet α).toSet = ∅ := by
  ext a
  simp [mem_toSet]

/-- The elements of the list are members. -/
theorem mem_toSet_of_mem [ReflBEq α] {s : OrderedSet α} {a : α} (h : a ∈ s.toList) :
    a ∈ s.toSet :=
  mem_toSet.2 ⟨a, h, BEq.rfl⟩

lemma toSet_eq_empty_iff [ReflBEq α] {s : OrderedSet α} : s.toSet = ∅ ↔ s.isEmpty = true := by
  rw [isEmpty, List.isEmpty_iff, Set.eq_empty_iff_forall_notMem, List.eq_nil_iff_forall_not_mem]
  constructor
  · intro h a ha
    exact h a (mem_toSet_of_mem ha)
  · intro h a ha
    obtain ⟨b, hb, -⟩ := mem_toSet.1 ha
    exact h b hb

@[simp] lemma insertMany_nil (s : OrderedSet α) : s.insertMany [] = s := rfl

lemma insertMany_cons (s : OrderedSet α) (a : α) (as : List α) :
    s.insertMany (a :: as) = (s.insert a).insertMany as := rfl

lemma insertMany_append (s : OrderedSet α) (as bs : List α) :
    s.insertMany (as ++ bs) = (s.insertMany as).insertMany bs :=
  List.foldl_append

/-- Insertions leave the list as it is and add elements at its end, some of those given and in their
order. -/
theorem exists_toList_insertMany (s : OrderedSet α) (as : List α) :
    ∃ added, (s.insertMany as).toList = s.toList ++ added ∧ added.Sublist as := by
  induction as generalizing s with
  | nil => exact ⟨[], (List.append_nil _).symm, List.Sublist.slnil⟩
  | cons a as ih =>
    obtain ⟨added, hlist, hsub⟩ := ih (s.insert a)
    rw [insertMany_cons, hlist, toList_insert]
    split
    · exact ⟨added, rfl, hsub.cons a⟩
    · exact ⟨a :: added, List.append_assoc .., hsub.cons_cons a⟩

/-- What is listed after insertions was listed before or inserted. -/
theorem mem_toList_insertMany {s : OrderedSet α} {as : List α} {b : α}
    (h : b ∈ (s.insertMany as).toList) : b ∈ s.toList ∨ b ∈ as := by
  obtain ⟨added, hlist, hsub⟩ := s.exists_toList_insertMany as
  rw [hlist, List.mem_append] at h
  exact h.imp_right fun hb => hsub.subset hb

/-- Where equality of elements is equality, the members are the elements of the list. -/
theorem mem_toSet_iff_mem_toList [LawfulBEq α] {s : OrderedSet α} {a : α} :
    a ∈ s.toSet ↔ a ∈ s.toList := by
  simp [mem_toSet]

/-- Where equality of elements is equality, the list has no repetitions. -/
theorem nodup_toList [LawfulBEq α] (s : OrderedSet α) : s.toList.Nodup := by
  refine s.distinct.imp ?_
  intro a b hab
  simpa using hab

end Members

section Insertion

variable {α : Type} [BEq α] [EquivBEq α]

/-- Members are told apart only by `==`. -/
theorem mem_toSet_congr {s : OrderedSet α} {a b : α} (h : (a == b) = true) :
    a ∈ s.toSet ↔ b ∈ s.toSet := by
  rw [mem_toSet, mem_toSet]
  constructor
  · rintro ⟨c, hc, hca⟩
    exact ⟨c, hc, BEq.trans hca h⟩
  · rintro ⟨c, hc, hcb⟩
    exact ⟨c, hc, BEq.trans hcb (BEq.symm h)⟩

theorem mem_toSet_insert {s : OrderedSet α} {a b : α} :
    b ∈ (s.insert a).toSet ↔ b ∈ s.toSet ∨ (a == b) = true := by
  by_cases ha : s.contains a = true
  · have hs : s.insert a = s := by simp [insert, ha]
    rw [hs]
    refine ⟨Or.inl, ?_⟩
    rintro (hb | hab)
    · exact hb
    · exact (mem_toSet_congr hab).1 ha
  · rw [mem_toSet, toList_insert, if_neg ha, mem_toSet]
    simp [or_and_right, exists_or]

theorem mem_toSet_insertMany {s : OrderedSet α} {as : List α} {b : α} :
    b ∈ (s.insertMany as).toSet ↔ b ∈ s.toSet ∨ ∃ a ∈ as, (a == b) = true := by
  induction as generalizing s with
  | nil => simp
  | cons a as ih =>
    rw [insertMany_cons, ih, mem_toSet_insert]
    simp [or_assoc]

theorem mem_toSet_ofList {as : List α} {b : α} :
    b ∈ (ofList as).toSet ↔ ∃ a ∈ as, (a == b) = true := by
  rw [ofList, mem_toSet_insertMany]
  simp

/-! ### First occurrences -/

/-- Insertions go on with leaving out what was seen before. -/
lemma toList_insertMany_eq_loop (s : OrderedSet α) (as : List α) :
    (s.insertMany as).toList = List.eraseDupsBy.loop (· == ·) as s.toList.reverse := by
  induction as generalizing s with
  | nil => rw [insertMany_nil, List.eraseDupsBy.loop, List.reverse_reverse]
  | cons a as ih =>
    have hseen : s.toList.reverse.any (a == ·) = s.contains a := by
      rw [List.any_reverse]
      exact congrArg s.toList.any (funext fun b => BEq.comm)
    rw [insertMany_cons, ih, toList_insert, List.eraseDupsBy.loop, hseen]
    cases s.contains a with
    | true => rfl
    | false =>
      rw [if_neg Bool.false_ne_true, List.reverse_append]
      rfl

/-- The set of given elements lists each of them where it came first. -/
theorem toList_ofList (as : List α) : (ofList as).toList = as.eraseDups :=
  toList_insertMany_eq_loop empty as

/-- Of several elements that are the same, the first one that was listed or inserted is kept. -/
theorem find?_insertMany (s : OrderedSet α) (as : List α) (b : α) :
    (s.insertMany as).toList.find? (· == b) = (s.toList ++ as).find? (· == b) := by
  induction as generalizing s with
  | nil => rw [insertMany_nil, List.append_nil]
  | cons a as ih =>
    rw [insertMany_cons, ih, toList_insert]
    split
    next hseen =>
      obtain ⟨c, hc, hca⟩ := mem_toSet.1 hseen
      rw [List.find?_append, List.find?_append]
      cases hfind : s.toList.find? (· == b) with
      | some found => rfl
      | none =>
        -- The set has no element like `b`, so `a`, which is like one of them, is unlike `b`.
        have hab : ¬(a == b) = true := fun hab =>
          List.find?_eq_none.1 hfind c hc (BEq.trans hca hab)
        rw [List.find?_cons_of_neg (p := (· == b)) hab]
    next => rw [List.append_assoc, List.singleton_append]

/-- Elements that are found again are listed once. -/
theorem countP_toList {s : OrderedSet α} {a : α} (h : a ∈ s.toSet) :
    s.toList.countP (· == a) = 1 := by
  obtain ⟨b, hb, hba⟩ := mem_toSet.1 h
  obtain ⟨before, after, hlist⟩ := List.append_of_mem hb
  have hdistinct := s.distinct
  rw [hlist, List.pairwise_append, List.pairwise_cons] at hdistinct
  obtain ⟨-, ⟨hafter, -⟩, hbefore⟩ := hdistinct
  have hcount : ∀ others : List α, (∀ c ∈ others, (c == b) = false) →
      others.countP (· == a) = 0 := by
    intro others hothers
    rw [List.countP_eq_zero]
    intro c hc hca
    have hcb : (c == b) = true := BEq.trans hca (BEq.symm hba)
    rw [hothers c hc] at hcb
    cases hcb
  rw [hlist, List.countP_append, List.countP_cons_of_pos (p := (· == a)) hba,
    hcount before fun c hc => hbefore c hc b (List.mem_cons_self ..),
    hcount after fun c hc => BEq.symm_false (hafter c hc)]

/-! ### Equality -/

/-- Being told apart by `==` only. -/
def sameness (α : Type) [BEq α] [EquivBEq α] : Setoid α where
  r a b := (a == b) = true
  iseqv := ⟨fun _ => BEq.rfl, BEq.symm, BEq.trans⟩

/-- The elements up to sameness. -/
def kinds (s : OrderedSet α) : List (Quotient (sameness α)) :=
  s.toList.map (Quotient.mk _)

variable {s t : OrderedSet α}

lemma length_kinds : s.kinds.length = s.size :=
  List.length_map ..

lemma nodup_kinds (s : OrderedSet α) : s.kinds.Nodup := by
  refine List.Pairwise.map _ ?_ s.distinct
  intro a b hab heq
  have hsame : (a == b) = true := Quotient.exact heq
  rw [hab] at hsame
  cases hsame

lemma mk_mem_kinds {a : α} : Quotient.mk _ a ∈ s.kinds ↔ a ∈ s.toSet := by
  rw [kinds, List.mem_map, mem_toSet]
  exact exists_congr fun b => and_congr_right fun _ => Quotient.eq

lemma kinds_subset_iff : s.kinds ⊆ t.kinds ↔ s.toSet ⊆ t.toSet := by
  constructor
  · intro h a ha
    exact mk_mem_kinds.1 (h (mk_mem_kinds.2 ha))
  · intro h c
    induction c using Quotient.inductionOn with
    | h a => exact fun ha => mk_mem_kinds.2 (h (mk_mem_kinds.1 ha))

/-- A set that is part of another one is no larger. -/
lemma size_le_of_toSet_subset (h : s.toSet ⊆ t.toSet) : s.size ≤ t.size := by
  have hsubperm := List.subperm_of_subset s.nodup_kinds (kinds_subset_iff.2 h)
  rw [← length_kinds, ← length_kinds]
  exact hsubperm.length_le

/-- A set that is part of another one and no smaller is all of it. -/
lemma toSet_subset_of_size_le (h : s.toSet ⊆ t.toSet) (hsize : t.size ≤ s.size) :
    t.toSet ⊆ s.toSet := by
  have hsubperm := List.subperm_of_subset s.nodup_kinds (kinds_subset_iff.2 h)
  rw [← length_kinds, ← length_kinds] at hsize
  exact kinds_subset_iff.1 (hsubperm.perm_of_length_le hsize).symm.subset

lemma isSubset_iff : s.isSubset t = true ↔ s.toSet ⊆ t.toSet := by
  rw [isSubset, List.all_eq_true]
  constructor
  · intro h a ha
    obtain ⟨b, hb, hba⟩ := mem_toSet.1 ha
    exact (mem_toSet_congr hba).1 (h b hb)
  · intro h a ha
    exact h (mem_toSet_of_mem ha)

/-- Ordered sets are the same if they have the same members. -/
theorem beq_iff : (s == t) = true ↔ s.toSet = t.toSet := by
  change (s.size == t.size && s.isSubset t) = true ↔ _
  rw [Bool.and_eq_true, beq_iff_eq, isSubset_iff]
  constructor
  · rintro ⟨hsize, h⟩
    exact h.antisymm (toSet_subset_of_size_le h hsize.ge)
  · intro h
    exact ⟨(size_le_of_toSet_subset h.le).antisymm (size_le_of_toSet_subset h.ge), h.le⟩

/-- Ordered sets are the same if each is part of the other. -/
theorem beq_iff_isSubset : (s == t) = true ↔ s.isSubset t = true ∧ t.isSubset s = true := by
  rw [beq_iff, isSubset_iff, isSubset_iff]
  exact Set.Subset.antisymm_iff

end Insertion

end Courier.OrderedSet
