import Courier.Query.Bindings
import Courier.Rdf.Store

/-!
# Plans

A plan says how a search goes on from what it has found.  It is a row of steps, carried out from
the first to the last on every pass: a match gives a variable the terms that stand in matching
quads, and the other kind of step marks the terms of a variable as documents to be read.
-/

namespace Courier

/-- What may stand at one side of a matching quad. -/
inductive Slot where
  /-- Anything. -/
  | anything
  /-- This term only. -/
  | constant (term : Term)
  /-- A term of this variable; nothing if the variable has no terms. -/
  | bound (v : Variable)
  deriving Inhabited

/-- The sides of a quad. -/
inductive Side where
  /-- The subject. -/
  | subject
  /-- The object. -/
  | object
  deriving DecidableEq

/-- A step that looks up quads. -/
structure Match where
  /-- What the subject may be. -/
  subject : Slot := .anything
  /-- The predicate of the quads. -/
  predicate : Iri
  /-- What the object may be. -/
  object : Slot := .anything
  /-- If given, only what the documents of this variable assert counts. -/
  graph : Option Variable := none
  /-- The side of the quads that is collected. -/
  pick : Side := .object
  /-- The variable that gets what is collected. -/
  target : Variable

/-- A step of a plan. -/
inductive Step where
  /-- Give a variable the terms of matching quads. -/
  | lookUp (search : Match)
  /-- Mark the terms of a variable as documents to be read. -/
  | addResources (v : Variable)

/-- The steps of a search, in order. -/
structure Plan where
  /-- The steps, the first one first. -/
  steps : List Step := []
  deriving Inhabited

/-! ### When plans are the same -/

/-- Slots are the same if they admit the same for every binding. -/
instance : BEq Slot where
  beq
    | .anything, .anything => true
    | .constant a, .constant b => a == b
    | .bound a, .bound b => a == b
    | _, _ => false

instance : BEq Match where
  beq a b :=
    a.subject == b.subject && a.predicate == b.predicate && a.object == b.object &&
      a.graph == b.graph && a.pick == b.pick && a.target == b.target

instance : BEq Step where
  beq
    | .lookUp a, .lookUp b => a == b
    | .addResources a, .addResources b => a == b
    | _, _ => false

instance : BEq Plan where
  beq a b := a.steps == b.steps

/-! ### Evaluation of a step -/

namespace Slot

/-- What the slot demands under the given bindings. -/
def constraint (bindings : Bindings) : Slot → Constraint Term
  | anything => .anything
  | constant term => .oneOf (.ofList [term])
  | bound v => .oneOf (bindings.values v)

end Slot

/-- The term at a side of the quad. -/
def Quad.side (q : Quad) : Side → Term
  | .subject => q.subject
  | .object => q.object

namespace Match

/-- The documents to which the match is confined, if it is. -/
def graphConstraint (m : Match) (bindings : Bindings) : Constraint Iri :=
  match m.graph with
  | none => .anything
  | some v => .oneOf (.ofList ((bindings.values v).toList.filterMap Term.iri? |>.map Iri.document))

/-- The pattern of the quads that match under the given bindings. -/
def pattern (m : Match) (bindings : Bindings) : Pattern :=
  { subject := m.subject.constraint bindings
    predicate := .only m.predicate
    object := m.object.constraint bindings
    graph := m.graphConstraint bindings }

/-- The terms on the picked side of matching quads, each once. -/
def evaluate (m : Match) (store : Store) (bindings : Bindings) : OrderedSet Term :=
  .ofList ((store.select (m.pattern bindings)).map (·.side m.pick))

end Match

end Courier
