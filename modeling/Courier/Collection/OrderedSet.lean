/-!
# Sets in order of insertion

A set that remembers the order in which its elements came.  Two elements are the same if `==` says
so; of several that are the same, the first one given is the one that is kept.  Listing the set
never shows the same element twice: the list carries the proof.
-/

namespace Courier

/-- A list without repetitions under `==`, in the order in which its elements came. -/
structure OrderedSet (α : Type) [BEq α] where
  /-- The elements, the oldest first. -/
  toList : List α
  /-- No element is the same as a later one. -/
  distinct : toList.Pairwise fun a b => (a == b) = false

namespace OrderedSet

variable {α : Type} [BEq α]

/-- The set without elements. -/
def empty : OrderedSet α := ⟨[], .nil⟩

instance : Inhabited (OrderedSet α) := ⟨empty⟩

/-- Whether an element of the set is the same as `a`. -/
def contains (s : OrderedSet α) (a : α) : Bool :=
  s.toList.any (· == a)

/-- The number of elements. -/
def size (s : OrderedSet α) : Nat :=
  s.toList.length

/-- Whether there is no element. -/
def isEmpty (s : OrderedSet α) : Bool :=
  s.toList.isEmpty

/-- The set with `a` at its end, or unchanged if `a` is in it. -/
def insert (s : OrderedSet α) (a : α) : OrderedSet α :=
  if h : s.contains a = true then s
  else
    { toList := s.toList ++ [a]
      distinct := by
        refine List.pairwise_append.2 ⟨s.distinct, List.pairwise_singleton .., ?_⟩
        intro x hx y hy
        obtain rfl := List.mem_singleton.1 hy
        have := List.any_eq_false.1 (Bool.not_eq_true _ ▸ h) x hx
        simpa using this }

/-- The set with all elements of the list, in order. -/
def insertMany (s : OrderedSet α) (as : List α) : OrderedSet α :=
  as.foldl insert s

/-- The set of the list's elements, each where it came first. -/
def ofList (as : List α) : OrderedSet α :=
  empty.insertMany as

/-- Whether every element of the first set is in the second. -/
def isSubset (s t : OrderedSet α) : Bool :=
  s.toList.all t.contains

/-- Sets are the same if they have as many elements and one holds those of the other. -/
instance : BEq (OrderedSet α) where
  beq s t := s.size == t.size && s.isSubset t

@[simp] theorem toList_empty : (empty : OrderedSet α).toList = [] := rfl

theorem toList_insert (s : OrderedSet α) (a : α) :
    (s.insert a).toList = if s.contains a then s.toList else s.toList ++ [a] := by
  unfold insert
  split <;> simp_all

end OrderedSet

end Courier
