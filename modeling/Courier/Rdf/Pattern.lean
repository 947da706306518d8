import Courier.Rdf.Statement

/-!
# Patterns

A pattern puts a constraint on each place of a quad.  A quad matches if every place is admitted.
-/

namespace Courier

/-- What may stand in one place of a quad. -/
inductive Constraint (α : Type) [BEq α] where
  /-- Anything. -/
  | anything
  /-- This value only. -/
  | only (value : α)
  /-- A member of this set only; an empty set admits nothing. -/
  | oneOf (values : OrderedSet α)

namespace Constraint

variable {α : Type} [BEq α]

instance : Inhabited (Constraint α) := ⟨anything⟩

/-- Whether the value may stand in the place. -/
def admits : Constraint α → α → Bool
  | anything, _ => true
  | only expected, value => expected == value
  | oneOf values, value => values.contains value

/-- Whether the constraint is an empty set, so that no value is admitted. -/
def isUnsatisfiable : Constraint α → Bool
  | oneOf values => values.isEmpty
  | _ => false

end Constraint

/-- A constraint for each place of a quad. -/
structure Pattern where
  /-- What the subject may be. -/
  subject : Constraint Term := .anything
  /-- What the predicate may be. -/
  predicate : Constraint Iri := .anything
  /-- What the object may be. -/
  object : Constraint Term := .anything
  /-- Which document may assert the statement. -/
  graph : Constraint Iri := .anything

namespace Pattern

/-- Whether the triple satisfies the pattern, whichever document asserts it. -/
def matchesTriple (p : Pattern) (t : Triple) : Bool :=
  p.predicate.admits t.predicate && p.subject.admits t.subject && p.object.admits t.object

/-- Whether the quad satisfies every constraint of the pattern. -/
def matchesQuad (p : Pattern) (q : Quad) : Bool :=
  p.matchesTriple q.triple && p.graph.admits q.graph

/-- Whether some place admits nothing at all. -/
def isUnsatisfiable (p : Pattern) : Bool :=
  p.subject.isUnsatisfiable || p.predicate.isUnsatisfiable || p.object.isUnsatisfiable ||
    p.graph.isUnsatisfiable

end Pattern

end Courier
