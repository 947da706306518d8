import Courier.Query.Variable
import Courier.Rdf.Term

/-!
# Bindings

The terms found for each variable.  Variables are listed in the order in which they were first
given terms, and the terms of each in the order in which they were found.  A variable that was
never given terms has none.
-/

namespace Courier

/-- For each variable that was given terms, the set of them. -/
structure Bindings where
  /-- The variables and their terms, in order. -/
  entries : List (Variable × OrderedSet Term)
  /-- No variable is listed twice. -/
  distinct : (entries.map Prod.fst).Nodup

namespace Bindings

/-- No variable was given terms. -/
def empty : Bindings := ⟨[], List.nodup_nil⟩

instance : Inhabited Bindings := ⟨empty⟩

/-- The terms of a variable, if it was ever given any. -/
def find? (b : Bindings) (v : Variable) : Option (OrderedSet Term) :=
  b.entries.lookup v

/-- The terms of a variable. -/
def values (b : Bindings) (v : Variable) : OrderedSet Term :=
  (b.find? v).getD .empty

/-- Whether the variable has at least one term. -/
def isBound (b : Bindings) (v : Variable) : Bool :=
  !(b.values v).isEmpty

/-- The bindings in which the variable has the given terms. -/
def set (b : Bindings) (v : Variable) (terms : OrderedSet Term) : Bindings :=
  if h : v ∈ b.entries.map Prod.fst then
    { entries := b.entries.map fun e => if e.1 = v then (v, terms) else e
      distinct := by
        have : (b.entries.map fun e => if e.1 = v then (v, terms) else e).map Prod.fst =
            b.entries.map Prod.fst := by
          rw [List.map_map]
          apply List.map_congr_left
          intro e _
          by_cases he : e.1 = v <;> simp [he]
        rw [this]
        exact b.distinct }
  else
    { entries := b.entries ++ [(v, terms)]
      distinct := by
        rw [List.map_append, List.nodup_append]
        refine ⟨b.distinct, by simp, ?_⟩
        intro x hx y hy
        obtain rfl : y = v := by simpa using hy
        rintro rfl
        exact h hx }

/-- The bindings in which the variable has one more term. -/
def insert (b : Bindings) (v : Variable) (term : Term) : Bindings :=
  b.set v ((b.values v).insert term)

/-- The bindings of a list of single terms. -/
def ofPairs (pairs : List (Variable × Term)) : Bindings :=
  pairs.foldl (fun b (v, term) => b.insert v term) empty

/-- Bindings are the same if they list the same variables with the same sets. -/
instance : BEq Bindings where
  beq a b :=
    a.entries.length == b.entries.length &&
      a.entries.all fun (v, terms) => b.find? v == some terms

end Bindings

end Courier
