import Courier.Proofs.Rdf.Pattern

/-!
# What stores hold

However a store came about, it lists every quad that it was ever given where this came first, and
nothing else (`Store.quads_built`).  Everything told of a store follows from that list: what is new
to it, how much it grows, what it selects, and which stores are equal.  Two quads count as one if
they agree in every place, and two literals agree if they have one value, so the datatype and the
language that are kept are those of the quad that came first.
-/

namespace Courier

/-! ### Terms and quads that are the same -/

/-- Whether two terms are the same: one resource, two literals of one value, or one node. -/
inductive Term.IsSame : Term → Term → Prop where
  | iri (i : Iri) : IsSame (.iri i) (.iri i)
  | literal {l m : Literal} (hvalue : l.value = m.value) : IsSame (.literal l) (.literal m)
  | blank (node : BlankNode) : IsSame (.blank node) (.blank node)

/-- Whether two quads are the same in every place. -/
structure Quad.IsSame (q r : Quad) : Prop where
  /-- They are about the same. -/
  subject : q.subject.IsSame r.subject
  /-- They give the same property. -/
  predicate : q.predicate = r.predicate
  /-- They give it the same value. -/
  object : q.object.IsSame r.object
  /-- One document asserts both. -/
  graph : q.graph = r.graph

lemma Term.beq_iff_isSame {a b : Term} : (a == b) = true ↔ a.IsSame b := by
  rw [beq_iff]
  constructor
  · intro h
    rcases a with i | l | node <;> rcases b with j | m | other
    case iri.iri =>
      cases h
      exact .iri i
    case literal.literal =>
      have hplain : Literal.plain l.value = .plain m.value := Term.literal.inj h
      have hvalue : l.value = m.value := congrArg (·.value) hplain
      exact .literal hvalue
    case blank.blank =>
      cases h
      exact .blank node
    all_goals cases h
  · rintro (i | hvalue | node)
    · rfl
    · rw [identity, identity, hvalue]
    · rfl

lemma Quad.beq_iff_isSame {q r : Quad} : (q == r) = true ↔ q.IsSame r := by
  rw [beq_iff, Term.beq_iff_isSame, Term.beq_iff_isSame]
  constructor
  · rintro ⟨hs, hp, ho, hg⟩
    exact ⟨hs, hp, ho, hg⟩
  · rintro ⟨hs, hp, ho, hg⟩
    exact ⟨hs, hp, ho, hg⟩

namespace Store

/-- Whether the store has a quad that is the same. -/
def Holds (s : Store) (q : Quad) : Prop :=
  ∃ r ∈ s.quads.toList, r.IsSame q

lemma mem_toSet_iff_holds {s : Store} {q : Quad} : q ∈ s.quads.toSet ↔ s.Holds q := by
  rw [OrderedSet.mem_toSet]
  exact exists_congr fun r => and_congr_right fun _ => Quad.beq_iff_isSame

/-! ### Ways of adding quads -/

/-- What may be done to a store. -/
inductive Addition where
  /-- A quad is inserted. -/
  | quad (q : Quad)
  /-- What a document asserts is added. -/
  | document (graph : Iri) (ts : List Triple)
  /-- The quads of a list are added. -/
  | quads (qs : List Quad)

namespace Addition

/-- The quads that are given, in order. -/
def given : Addition → List Quad
  | quad q => [q]
  | document graph ts => ts.map (·.inGraph graph)
  | quads qs => qs

/-- The store after the addition. -/
def apply (s : Store) : Addition → Store
  | quad q => s.insert q
  | document graph ts => s.addGraph graph ts
  | quads qs => s.insertMany qs

/-- Every addition inserts the quads given, one after the other. -/
lemma quads_apply (s : Store) (a : Addition) : (a.apply s).quads = s.quads.insertMany a.given := by
  cases a <;> rfl

end Addition

/-- The store that a row of additions makes out of an empty one. -/
def built (row : List Addition) : Store :=
  row.foldl Addition.apply {}

/-- The quads that a row of additions gives, in order. -/
def allGiven (row : List Addition) : List Quad :=
  row.flatMap Addition.given

lemma quads_foldl_apply (s : Store) (row : List Addition) :
    (row.foldl Addition.apply s).quads = s.quads.insertMany (allGiven row) := by
  induction row generalizing s with
  | nil => rfl
  | cons a row ih =>
    rw [List.foldl_cons, ih, Addition.quads_apply, ← OrderedSet.insertMany_append]
    rfl

/-- However it came about, a store has the quads that it was given. -/
lemma quads_built_eq (row : List Addition) : (built row).quads = .ofList (allGiven row) :=
  quads_foldl_apply {} row

lemma holds_built_iff {row : List Addition} {q : Quad} :
    (built row).Holds q ↔ ∃ r ∈ allGiven row, r.IsSame q := by
  rw [← mem_toSet_iff_holds, quads_built_eq, OrderedSet.mem_toSet_ofList]
  simp only [Quad.beq_iff_isSame]

/-! ### What is told of a store -/

/-- An inserted quad is new if the store holds none that is the same. -/
lemma isNew_iff {s : Store} {q : Quad} : s.isNew q = true ↔ ¬s.Holds q := by
  rw [← mem_toSet_iff_holds, isNew, Bool.not_eq_true']
  exact Bool.eq_false_iff

lemma size_insert (s : Store) (q : Quad) :
    (s.insert q).size = (if s.isNew q then 1 else 0) + s.size := by
  change (s.quads.insert q).toList.length = (if (!s.quads.contains q) = true then 1 else 0) + _
  rw [OrderedSet.toList_insert]
  cases s.quads.contains q with
  | true => exact (Nat.zero_add _).symm
  | false => exact List.length_append.trans (Nat.add_comm _ _)

/-- The statements that are new when their turn comes are those by which the store grows. -/
lemma countNew_add_size (s : Store) (graph : Iri) (ts : List Triple) :
    s.countNew graph ts + s.size = (s.addGraph graph ts).size := by
  induction ts generalizing s with
  | nil => exact Nat.zero_add _
  | cons t ts ih =>
    have hstep : s.addGraph graph (t :: ts) = (s.insert (t.inGraph graph)).addGraph graph ts := rfl
    rw [hstep, ← ih, size_insert, countNew]
    omega

/-- Stores are equal if they hold the same. -/
lemma beq_iff_holds {s t : Store} : (s == t) = true ↔ ∀ q, s.Holds q ↔ t.Holds q := by
  change (s.quads == t.quads) = true ↔ _
  rw [OrderedSet.beq_iff, Set.ext_iff]
  simp only [mem_toSet_iff_holds]

/-- A store built by any row of additions lists, without repetition, every quad given where it came
first.  Inserting a quad answers whether none that is the same is held, adding a document answers by
how much the store grows, and whatever is added leaves the quads listed where they are.  Two such
stores are equal if they hold the same, that is, if they were given the same.  Selecting is
filtering the list for every pattern. -/
theorem quads_built (row : List Addition) :
    let s := built row
    s.quads.toList = (allGiven row).eraseDups ∧
      s.quads.toList.Pairwise (fun q r => ¬q.IsSame r) ∧
      (∀ q, s.quads.toList.find? (· == q) = (allGiven row).find? (· == q)) ∧
      (∀ q r : Quad, (q == r) = true ↔ q.IsSame r) ∧
      (∀ q, s.isNew q = true ↔ ¬s.Holds q) ∧
      (∀ graph ts, s.countNew graph ts + s.size = (s.addGraph graph ts).size) ∧
      (∀ a : Addition, s.quads.toList <+: (a.apply s).quads.toList) ∧
      (∀ other, ((s == built other) = true ↔ ∀ q, s.Holds q ↔ (built other).Holds q) ∧
        ∀ q, (built other).Holds q ↔ ∃ r ∈ allGiven other, r.IsSame q) ∧
      ∀ p, s.select p = s.quads.toList.filter p.matchesQuad := by
  intro s
  have hquads : s.quads = .ofList (allGiven row) := quads_built_eq row
  refine ⟨?_, ?_, ?_, fun _ _ => Quad.beq_iff_isSame, fun _ => isNew_iff,
    s.countNew_add_size, ?_, fun _ => ⟨beq_iff_holds, fun _ => holds_built_iff⟩,
    s.select_eq_filter⟩
  · rw [hquads, OrderedSet.toList_ofList]
  · refine s.quads.distinct.imp fun hdistinct hsame => ?_
    rw [Quad.beq_iff_isSame.2 hsame] at hdistinct
    cases hdistinct
  · intro q
    rw [hquads]
    exact OrderedSet.find?_insertMany .empty _ q
  · intro a
    obtain ⟨added, hlist, -⟩ := s.quads.exists_toList_insertMany a.given
    rw [a.quads_apply, hlist]
    exact List.prefix_append _ _

/-- What is given again with another language is the same quad, and the store keeps the first
one. -/
example :
    let q (l : Literal) : Quad := ⟨.iri ⟨"a:b"⟩, ⟨"a:name"⟩, .literal l, ⟨"a:d"⟩⟩
    ((built [.quad (q (.tagged "Ann" "en")), .quads [q (.plain "Ann")]]).quads.toList.map
      Quad.object) = [.literal (.tagged "Ann" "en")] := by
  decide +kernel

end Store

end Courier
