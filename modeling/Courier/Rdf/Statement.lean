import Courier.Rdf.Term

/-!
# Statements

A triple is a statement as it stands in one document.  A quad is a triple together with the
document that asserts it; matching can be confined to what a given document says because the graph
of a quad is never part of what the document contains.
-/

namespace Courier

/-- A statement of a document. -/
structure Triple where
  /-- What the statement is about. -/
  subject : Term
  /-- Which property of it the statement gives. -/
  predicate : Iri
  /-- The value of the property. -/
  object : Term

/-- A statement and the document that asserts it. -/
structure Quad where
  /-- What the statement is about. -/
  subject : Term
  /-- Which property of it the statement gives. -/
  predicate : Iri
  /-- The value of the property. -/
  object : Term
  /-- The document that asserts the statement. -/
  graph : Iri

namespace Triple

/-- The triple as asserted by a document. -/
def inGraph (t : Triple) (graph : Iri) : Quad :=
  ⟨t.subject, t.predicate, t.object, graph⟩

/-- The anonymous nodes of the triple, in order. -/
def anonymousNodes (t : Triple) : List BlankNode :=
  t.subject.anonymous?.toList ++ t.object.anonymous?.toList

/-- The triple on a line of its own. -/
def display (shown : AnonymousNodes) (t : Triple) : String :=
  t.subject.display shown ++ " <" ++ t.predicate.text ++ "> " ++ t.object.display shown ++ " ."

end Triple

namespace Quad

/-- The quad without the document. -/
def triple (q : Quad) : Triple :=
  ⟨q.subject, q.predicate, q.object⟩

/-- Quads are the same if they agree in every place. -/
instance : BEq Quad where
  beq a b :=
    a.subject == b.subject && a.predicate == b.predicate && a.object == b.object &&
      a.graph == b.graph

theorem beq_iff {a b : Quad} : (a == b) = true ↔
    (a.subject == b.subject) = true ∧ a.predicate = b.predicate ∧
      (a.object == b.object) = true ∧ a.graph = b.graph := by
  show ((_ && _ && _ && _) = true) ↔ _
  simp [and_assoc]

instance : EquivBEq Quad where
  rfl := beq_iff.2 ⟨BEq.rfl, rfl, BEq.rfl, rfl⟩
  symm h :=
    have ⟨s, p, o, g⟩ := beq_iff.1 h
    beq_iff.2 ⟨BEq.symm s, p.symm, BEq.symm o, g.symm⟩
  trans h₁ h₂ :=
    have ⟨s, p, o, g⟩ := beq_iff.1 h₁
    have ⟨s', p', o', g'⟩ := beq_iff.1 h₂
    beq_iff.2 ⟨BEq.trans s s', p.trans p', BEq.trans o o', g.trans g'⟩

/-- The quad on a line of its own. -/
def display (shown : AnonymousNodes) (q : Quad) : String :=
  q.subject.display shown ++ " <" ++ q.predicate.text ++ "> " ++ q.object.display shown ++
    " <" ++ q.graph.text ++ "> ."

end Quad

end Courier
