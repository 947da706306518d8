import Courier.Proofs.Collection.OrderedSet
import Courier.Rdf.Store

/-!
# Selecting quads

A pattern that is found to be unsatisfiable without looking at the store matches no quad, so
selecting is filtering in every case.  What a pattern admits depends on quads only up to `==`.
-/

namespace Courier

/-- Only the resource itself counts as the same as a resource. -/
lemma Term.eq_iri_of_beq {term : Term} {i : Iri} (h : (.iri i == term) = true) : term = .iri i := by
  rw [beq_iff] at h
  cases term with
  | iri j => exact h.symm
  | literal l => cases h
  | blank b => cases h

/-- Terms that are the same are the same node, if either is a node. -/
lemma Term.eq_blank_iff_of_beq {a b : Term} (h : (a == b) = true) {node : BlankNode} :
    a = .blank node ↔ b = .blank node := by
  have hidentity : ∀ t : Term, t = .blank node ↔ t.identity = .blank node := by
    intro t
    cases t with
    | iri i => exact Iff.rfl
    | literal l => exact iff_of_false (fun h => nomatch h) fun h => nomatch h
    | blank b => exact Iff.rfl
  rw [hidentity a, hidentity b, beq_iff.1 h]

/-- The resource of a term is the one that the term is. -/
lemma Term.iri?_eq_some_iff {term : Term} {i : Iri} : term.iri? = some i ↔ term = .iri i := by
  constructor
  · intro h
    cases term with
    | iri j => exact congrArg Term.iri (Option.some.inj h)
    | literal l => cases h
    | blank b => cases h
  · rintro rfl
    rfl

namespace Constraint

variable {α : Type} [BEq α]

/-- A constraint that is unsatisfiable on the face of it admits nothing. -/
lemma not_admits_of_isUnsatisfiable {c : Constraint α} (h : c.isUnsatisfiable = true) (a : α) :
    c.admits a = false := by
  cases c with
  | anything => simp [isUnsatisfiable] at h
  | only value => simp [isUnsatisfiable] at h
  | oneOf values =>
    have hnil : values.toList = [] := by
      simpa [isUnsatisfiable, OrderedSet.isEmpty] using h
    simp [admits, OrderedSet.contains, hnil]

end Constraint

namespace Pattern

/-- A pattern that is unsatisfiable on the face of it matches nothing. -/
lemma not_matchesQuad_of_isUnsatisfiable {p : Pattern} (h : p.isUnsatisfiable = true) (q : Quad) :
    p.matchesQuad q = false := by
  simp only [isUnsatisfiable, Bool.or_eq_true] at h
  simp only [matchesQuad, matchesTriple, Quad.triple]
  rcases h with ((h | h) | h) | h <;>
    simp [Constraint.not_admits_of_isUnsatisfiable h]

end Pattern

namespace Store

/-- Selecting is filtering, also where the store is not searched. -/
theorem select_eq_filter (s : Store) (p : Pattern) :
    s.select p = s.quads.toList.filter p.matchesQuad := by
  unfold select
  split
  next h =>
    refine (List.filter_eq_nil_iff.2 fun q _ => ?_).symm
    rw [Pattern.not_matchesQuad_of_isUnsatisfiable h q]
    exact Bool.false_ne_true
  next => rfl

theorem mem_select {s : Store} {p : Pattern} {q : Quad} :
    q ∈ s.select p ↔ q ∈ s.quads.toList ∧ p.matchesQuad q = true := by
  rw [select_eq_filter, List.mem_filter]

/-- The values of a property are the objects of the quads that give it, whichever document asserts
them. -/
theorem mem_toSet_objects {s : Store} {subject : Term} {predicate : Iri} {term : Term} :
    term ∈ (s.objects subject predicate).toSet ↔
      ∃ q ∈ s.quads.toList, (subject == q.subject) = true ∧ predicate = q.predicate ∧
        (q.object == term) = true := by
  have hmatches (q : Quad) : Pattern.matchesQuad
      { subject := .only subject, predicate := .only predicate } q = true ↔
        predicate = q.predicate ∧ (subject == q.subject) = true := by
    simp [Pattern.matchesQuad, Pattern.matchesTriple, Constraint.admits, Quad.triple]
  unfold objects
  rw [OrderedSet.mem_toSet_ofList]
  constructor
  · rintro ⟨value, hvalue, hterm⟩
    obtain ⟨q, hq, rfl⟩ := List.mem_map.1 hvalue
    obtain ⟨hmem, hpattern⟩ := mem_select.1 hq
    obtain ⟨hpredicate, hsubject⟩ := (hmatches q).1 hpattern
    exact ⟨q, hmem, hsubject, hpredicate, hterm⟩
  · rintro ⟨q, hmem, hsubject, hpredicate, hterm⟩
    have hpattern := (hmatches q).2 ⟨hpredicate, hsubject⟩
    exact ⟨q.object, List.mem_map_of_mem (mem_select.2 ⟨hmem, hpattern⟩), hterm⟩

/-- The quads of a store that was given what a document asserts. -/
theorem mem_toSet_addGraph {s : Store} {graph : Iri} {ts : List Triple} {q : Quad} :
    q ∈ (s.addGraph graph ts).quads.toSet ↔
      q ∈ s.quads.toSet ∨ ∃ t ∈ ts, (t.inGraph graph == q) = true := by
  unfold addGraph insertMany
  rw [OrderedSet.mem_toSet_insertMany]
  simp

/-- Whatever is held after that was held before or is a statement of the document. -/
theorem mem_toList_addGraph {s : Store} {graph : Iri} {ts : List Triple} {q : Quad}
    (h : q ∈ (s.addGraph graph ts).quads.toList) :
    q ∈ s.quads.toList ∨ ∃ t ∈ ts, q = t.inGraph graph := by
  rcases OrderedSet.mem_toList_insertMany h with hq | hq
  · exact Or.inl hq
  · obtain ⟨t, ht, rfl⟩ := List.mem_map.1 hq
    exact Or.inr ⟨t, ht, rfl⟩

end Store

end Courier
