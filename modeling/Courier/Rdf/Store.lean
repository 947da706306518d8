import Courier.Rdf.Pattern

/-!
# Stores

A store gathers quads from many documents.  It only grows, keeps the order in which quads came, and
holds a quad once however often it is given.  Stores are compared as sets.
-/

namespace Courier

/-- The quads gathered so far, the oldest first. -/
structure Store where
  /-- The quads without repetition. -/
  quads : OrderedSet Quad := .empty
  deriving BEq, Inhabited

namespace Store

/-- The number of quads. -/
def size (s : Store) : Nat :=
  s.quads.size

/-- Whether the quad is in the store. -/
def contains (s : Store) (q : Quad) : Bool :=
  s.quads.contains q

/-- The store with one more quad, unless it holds the quad already. -/
def insert (s : Store) (q : Quad) : Store :=
  ⟨s.quads.insert q⟩

/-- The store with the quads of a list, in order. -/
def insertMany (s : Store) (qs : List Quad) : Store :=
  ⟨s.quads.insertMany qs⟩

/-- The store with what a document asserts. -/
def addGraph (s : Store) (graph : Iri) (ts : List Triple) : Store :=
  s.insertMany (ts.map (·.inGraph graph))

/-- Whether the store grows if the quad is inserted. -/
def isNew (s : Store) (q : Quad) : Bool :=
  !s.contains q

/-- How many statements of a document are new when their turn comes. -/
def countNew (s : Store) (graph : Iri) : List Triple → Nat
  | [] => 0
  | t :: ts =>
    let q := t.inGraph graph
    (if s.isNew q then 1 else 0) + (s.insert q).countNew graph ts

/-- The quads that match the pattern, the oldest first.  The store is not searched if the pattern
admits nothing. -/
def select (s : Store) (p : Pattern) : List Quad :=
  if p.isUnsatisfiable then [] else s.quads.toList.filter p.matchesQuad

/-- The values of a property, from whichever document, each once. -/
def objects (s : Store) (subject : Term) (predicate : Iri) : OrderedSet Term :=
  .ofList ((s.select { subject := .only subject, predicate := .only predicate }).map Quad.object)

/-- The documents that assert at least one quad. -/
def graphs (s : Store) : OrderedSet Iri :=
  .ofList (s.quads.toList.map Quad.graph)

end Store

end Courier
