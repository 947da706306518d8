import Courier.Proofs.Query.Bindings
import Courier.Proofs.Rdf.Pattern
import Courier.Query.Plan
import Mathlib.Order.Bounds.Basic

/-!
# Plans as functions on sets

What a plan does, told without any order.  `Knowledge` is what is known at some point of a search:
a set of quads, a set of terms for every variable, and the set of documents discovered.  A step
turns knowledge into knowledge, and so does a plan.  The sets may be infinite, so that one can speak
of what a plan finds in any set of documents whatever.

Evaluation is monotone (`Knowledge.evaluate_mono`).  What it finds depends on the terms of those
variables only that no step sets, or that some step reads before the plan has set them
(`Knowledge.evaluate_congr`); in a well-ordered plan there are none of the latter kind.
-/

namespace Courier

/-- The documents of the resources among the terms. -/
def documentsAmong (terms : Set Term) : Set Iri :=
  {d | ∃ i : Iri, Term.iri i ∈ terms ∧ i.document = d}

/-- What is known at some point of a search. -/
@[ext] structure Knowledge where
  /-- The quads. -/
  facts : Set Quad
  /-- The terms of every variable. -/
  terms : Variable → Set Term
  /-- The documents discovered. -/
  documents : Set Iri

/-! ### Looking up -/

/-- The terms that may stand in a slot. -/
def Slot.admitted (terms : Variable → Set Term) : Slot → Set Term
  | anything => Set.univ
  | constant c => {t | (c == t) = true}
  | bound v => terms v

namespace Match

/-- The quads among the facts that match. -/
def selected (m : Match) (facts : Set Quad) (terms : Variable → Set Term) : Set Quad :=
  {q ∈ facts | q.subject ∈ m.subject.admitted terms ∧ q.predicate = m.predicate ∧
    q.object ∈ m.object.admitted terms ∧ ∀ v ∈ m.graph, q.graph ∈ documentsAmong (terms v)}

/-- The terms on the picked side of the quads that match. -/
def found (m : Match) (facts : Set Quad) (terms : Variable → Set Term) : Set Term :=
  {t | ∃ q ∈ m.selected facts terms, (q.side m.pick == t) = true}

end Match

section Evaluation

variable (bindings : Bindings)

/-- The terms of every variable, as sets. -/
def Bindings.terms (v : Variable) : Set Term :=
  (bindings.values v).toSet

/-- A resource is among the terms only if it is listed itself. -/
lemma Bindings.iri_mem_terms {v : Variable} {i : Iri} :
    Term.iri i ∈ bindings.terms v ↔ Term.iri i ∈ (bindings.values v).toList := by
  rw [Bindings.terms, OrderedSet.mem_toSet]
  constructor
  · rintro ⟨t, ht, hti⟩
    rw [Term.beq_iff] at hti
    cases t with
    | iri j =>
      cases hti
      exact ht
    | literal l => cases hti
    | blank b => cases hti
  · intro h
    exact ⟨_, h, BEq.rfl⟩

lemma Bindings.mem_documentsAmong {v : Variable} {d : Iri} :
    d ∈ documentsAmong (bindings.terms v) ↔
      d ∈ ((bindings.values v).toList.filterMap Term.iri?).map Iri.document := by
  rw [List.mem_map]
  refine exists_congr fun i => and_congr_left fun _ => ?_
  simp only [bindings.iri_mem_terms, List.mem_filterMap, Term.iri?_eq_some_iff, exists_eq_right]

/-- What a slot demands is to be one of the terms that may stand in it. -/
lemma Slot.admits_constraint (slot : Slot) (t : Term) :
    (slot.constraint bindings).admits t = true ↔ t ∈ slot.admitted bindings.terms := by
  cases slot with
  | anything => simp [Slot.constraint, Constraint.admits, Slot.admitted]
  | constant c =>
    change t ∈ (OrderedSet.ofList [c]).toSet ↔ _
    rw [OrderedSet.mem_toSet_ofList]
    simp [Slot.admitted]
  | bound v => exact Iff.rfl

lemma Match.admits_graphConstraint (m : Match) (graph : Iri) :
    (m.graphConstraint bindings).admits graph = true ↔
      ∀ v ∈ m.graph, graph ∈ documentsAmong (bindings.terms v) := by
  unfold Match.graphConstraint
  cases m.graph with
  | none => simp [Constraint.admits]
  | some v =>
    change graph ∈ (OrderedSet.ofList _).toSet ↔ _
    rw [OrderedSet.mem_toSet_ofList]
    simp only [beq_iff_eq, exists_eq_right, Option.mem_some_iff, forall_eq',
      bindings.mem_documentsAmong]

/-- The pattern of a match admits the quads that match. -/
lemma Match.matchesQuad_pattern (m : Match) {facts : Set Quad} {q : Quad} (hq : q ∈ facts) :
    (m.pattern bindings).matchesQuad q = true ↔ q ∈ m.selected facts bindings.terms := by
  have hpredicate : (Constraint.only m.predicate).admits q.predicate = true ↔
      q.predicate = m.predicate := by
    rw [Constraint.admits, beq_iff_eq, eq_comm]
  have hsplit : (m.pattern bindings).matchesQuad q = true ↔
      ((q.predicate = m.predicate ∧ q.subject ∈ m.subject.admitted bindings.terms) ∧
        q.object ∈ m.object.admitted bindings.terms) ∧
        ∀ v ∈ m.graph, q.graph ∈ documentsAmong (bindings.terms v) := by
    rw [← hpredicate, ← m.subject.admits_constraint, ← m.object.admits_constraint,
      ← m.admits_graphConstraint, ← Bool.and_eq_true, ← Bool.and_eq_true, ← Bool.and_eq_true]
    rfl
  rw [hsplit]
  constructor
  · rintro ⟨⟨⟨hp, hs⟩, ho⟩, hg⟩
    exact ⟨hq, hs, hp, ho, hg⟩
  · rintro ⟨-, hs, hp, ho, hg⟩
    exact ⟨⟨⟨hp, hs⟩, ho⟩, hg⟩

lemma Match.selected_congr (m : Match) {store : Store} {q r : Quad} (h : (q == r) = true) :
    q ∈ m.selected store.quads.toSet bindings.terms ↔
      r ∈ m.selected store.quads.toSet bindings.terms := by
  obtain ⟨hs, hp, ho, hg⟩ := Quad.beq_iff.1 h
  have hslot : ∀ (slot : Slot) {t u : Term}, (t == u) = true →
      (t ∈ slot.admitted bindings.terms ↔ u ∈ slot.admitted bindings.terms) := by
    intro slot t u htu
    cases slot with
    | anything => exact Iff.rfl
    | constant c => exact ⟨fun hc => BEq.trans hc htu, fun hc => BEq.trans hc (BEq.symm htu)⟩
    | bound v => exact OrderedSet.mem_toSet_congr htu
  exact and_congr (OrderedSet.mem_toSet_congr h) (and_congr (hslot _ hs)
    (and_congr (by rw [hp]) (and_congr (hslot _ ho) (by rw [hg]))))

lemma Quad.side_congr {q r : Quad} (h : (q == r) = true) (side : Side) :
    (q.side side == r.side side) = true := by
  obtain ⟨hs, -, ho, -⟩ := Quad.beq_iff.1 h
  cases side with
  | subject => exact hs
  | object => exact ho

/-- A step that looks up quads finds the terms that it should find. -/
theorem Match.toSet_evaluate (m : Match) (store : Store) :
    (m.evaluate store bindings).toSet = m.found store.quads.toSet bindings.terms := by
  ext t
  unfold Match.evaluate
  rw [OrderedSet.mem_toSet_ofList]
  simp only [List.mem_map, exists_exists_and_eq_and, Store.mem_select]
  constructor
  · rintro ⟨q, ⟨hq, hmatch⟩, ht⟩
    have hfact : q ∈ store.quads.toSet := OrderedSet.mem_toSet_of_mem hq
    exact ⟨q, (m.matchesQuad_pattern bindings hfact).1 hmatch, ht⟩
  · rintro ⟨q, hq, ht⟩
    obtain ⟨r, hr, hrq⟩ := OrderedSet.mem_toSet.1 hq.1
    have hselected : r ∈ m.selected store.quads.toSet bindings.terms :=
      (m.selected_congr bindings hrq).2 hq
    have hfact : r ∈ store.quads.toSet := OrderedSet.mem_toSet_of_mem hr
    exact ⟨r, ⟨hr, (m.matchesQuad_pattern bindings hfact).2 hselected⟩,
      BEq.trans (Quad.side_congr hrq m.pick) ht⟩

end Evaluation

/-! ### Steps and plans -/

namespace Knowledge

/-- The knowledge after a step. -/
def step (k : Knowledge) : Step → Knowledge
  | .lookUp m => { k with terms := Function.update k.terms m.target (m.found k.facts k.terms) }
  | .addResources v => { k with documents := k.documents ∪ documentsAmong (k.terms v) }

/-- The knowledge after a row of steps. -/
def steps (k : Knowledge) (row : List Step) : Knowledge :=
  row.foldl step k

/-- The knowledge after one evaluation of a plan. -/
def evaluate (k : Knowledge) (plan : Plan) : Knowledge :=
  k.steps plan.steps

@[simp] lemma steps_nil (k : Knowledge) : k.steps [] = k := rfl

@[simp] lemma steps_cons (k : Knowledge) (s : Step) (row : List Step) :
    k.steps (s :: row) = (k.step s).steps row := rfl

@[simp] lemma facts_step (k : Knowledge) (s : Step) : (k.step s).facts = k.facts := by
  cases s <;> rfl

@[simp] lemma facts_steps (k : Knowledge) (row : List Step) : (k.steps row).facts = k.facts := by
  induction row generalizing k with
  | nil => rfl
  | cons s row ih => rw [steps_cons, ih, facts_step]

@[simp] lemma facts_evaluate (k : Knowledge) (plan : Plan) : (k.evaluate plan).facts = k.facts :=
  facts_steps k plan.steps

/-! ### Monotonicity -/

/-- There is more knowledge where each of the sets is larger. -/
instance : LE Knowledge where
  le k l := k.facts ⊆ l.facts ∧ k.terms ≤ l.terms ∧ k.documents ⊆ l.documents

instance : PartialOrder Knowledge where
  le_refl k := ⟨subset_rfl, le_rfl, subset_rfl⟩
  le_trans _ _ _ h h' := ⟨h.1.trans h'.1, h.2.1.trans h'.2.1, h.2.2.trans h'.2.2⟩
  le_antisymm _ _ h h' :=
    Knowledge.ext (h.1.antisymm h'.1) (le_antisymm h.2.1 h'.2.1) (h.2.2.antisymm h'.2.2)

lemma le_iff {k l : Knowledge} :
    k ≤ l ↔ k.facts ⊆ l.facts ∧ k.terms ≤ l.terms ∧ k.documents ⊆ l.documents :=
  Iff.rfl

end Knowledge

lemma documentsAmong_mono {s t : Set Term} (h : s ⊆ t) : documentsAmong s ⊆ documentsAmong t := by
  rintro d ⟨i, hi, hd⟩
  exact ⟨i, h hi, hd⟩

lemma Slot.admitted_mono (slot : Slot) {t u : Variable → Set Term} (h : t ≤ u) :
    slot.admitted t ⊆ slot.admitted u := by
  cases slot with
  | anything => exact subset_rfl
  | constant c => exact subset_rfl
  | bound v => exact h v

/-- A match finds more among more facts and with more terms. -/
theorem Match.found_mono (m : Match) {f g : Set Quad} {t u : Variable → Set Term} (hf : f ⊆ g)
    (ht : t ≤ u) : m.found f t ⊆ m.found g u := by
  rintro x ⟨q, ⟨hq, hsubject, hpredicate, hobject, hgraph⟩, hx⟩
  exact ⟨q, ⟨hf hq, m.subject.admitted_mono ht hsubject, hpredicate,
    m.object.admitted_mono ht hobject,
    fun v hv => documentsAmong_mono (ht v) (hgraph v hv)⟩, hx⟩

namespace Knowledge

theorem step_mono {k l : Knowledge} (h : k ≤ l) (s : Step) : k.step s ≤ l.step s := by
  obtain ⟨hf, ht, hd⟩ := le_iff.1 h
  cases s with
  | lookUp m =>
    refine le_iff.2 ⟨hf, fun v => ?_, hd⟩
    by_cases hv : v = m.target
    · subst hv
      simpa [step] using m.found_mono hf ht
    · simpa [step, hv] using ht v
  | addResources v =>
    exact le_iff.2 ⟨hf, ht, Set.union_subset_union hd (documentsAmong_mono (ht v))⟩

theorem steps_mono {k l : Knowledge} (h : k ≤ l) (row : List Step) : k.steps row ≤ l.steps row := by
  induction row generalizing k l with
  | nil => exact h
  | cons s row ih => exact ih (step_mono h s)

/-- The more is known before a plan is evaluated, the more is known afterwards. -/
theorem evaluate_mono {k l : Knowledge} (h : k ≤ l) (plan : Plan) :
    k.evaluate plan ≤ l.evaluate plan :=
  steps_mono h plan.steps

/-- What was discovered before does not matter for what is discovered. -/
lemma steps_insert_documents (k : Knowledge) (documents : Set Iri) (row : List Step) :
    ({ k with documents := documents ∪ k.documents } : Knowledge).steps row =
      { k.steps row with documents := documents ∪ (k.steps row).documents } := by
  induction row generalizing k with
  | nil => rfl
  | cons s row ih =>
    rw [steps_cons, steps_cons, ← ih]
    cases s with
    | lookUp m => rfl
    | addResources v => simp only [step, Set.union_assoc]

end Knowledge

/-! ### What a plan finds -/

namespace Plan

/-- The terms of every variable after one evaluation on the facts. -/
def infer (plan : Plan) (facts : Set Quad) (terms : Variable → Set Term) : Variable → Set Term :=
  (Knowledge.evaluate ⟨facts, terms, ∅⟩ plan).terms

/-- The documents that one evaluation on the facts discovers. -/
def collect (plan : Plan) (facts : Set Quad) (terms : Variable → Set Term) : Set Iri :=
  (Knowledge.evaluate ⟨facts, terms, ∅⟩ plan).documents

/-- One evaluation leaves the facts as they are, gives every variable the terms found for it, and
adds the documents discovered. -/
theorem evaluate_eq (plan : Plan) (k : Knowledge) :
    k.evaluate plan =
      ⟨k.facts, plan.infer k.facts k.terms, k.documents ∪ plan.collect k.facts k.terms⟩ := by
  have h := Knowledge.steps_insert_documents ⟨k.facts, k.terms, ∅⟩ k.documents plan.steps
  rw [Set.union_empty] at h
  refine Knowledge.ext (Knowledge.facts_evaluate k plan) ?_ ?_
  · exact (congrArg Knowledge.terms h :)
  · exact (congrArg Knowledge.documents h :)

variable (plan : Plan) {f g : Set Quad} {t u : Variable → Set Term}

theorem infer_mono (hf : f ⊆ g) (ht : t ≤ u) : plan.infer f t ≤ plan.infer g u := by
  have hle : (⟨f, t, ∅⟩ : Knowledge) ≤ ⟨g, u, ∅⟩ := Knowledge.le_iff.2 ⟨hf, ht, subset_rfl⟩
  exact (Knowledge.le_iff.1 (Knowledge.evaluate_mono hle plan)).2.1

theorem collect_mono (hf : f ⊆ g) (ht : t ≤ u) : plan.collect f t ⊆ plan.collect g u := by
  have hle : (⟨f, t, ∅⟩ : Knowledge) ≤ ⟨g, u, ∅⟩ := Knowledge.le_iff.2 ⟨hf, ht, subset_rfl⟩
  exact (Knowledge.le_iff.1 (Knowledge.evaluate_mono hle plan)).2.2

end Plan

/-! ### What the findings depend on -/

/-- The variable that a slot refers to. -/
def Slot.reference? : Slot → Option Variable
  | bound v => some v
  | _ => none

namespace Step

/-- The variables whose terms a step reads. -/
def reads : Step → List Variable
  | lookUp m => m.subject.reference?.toList ++ m.object.reference?.toList ++ m.graph.toList
  | addResources v => [v]

/-- The variable that a step sets. -/
def target? : Step → Option Variable
  | lookUp m => some m.target
  | addResources _ => none

end Step

/-- The variables that a row of steps sets. -/
def targetsOf (row : List Step) : List Variable :=
  row.filterMap Step.target?

@[simp] lemma targetsOf_nil : targetsOf [] = [] := rfl

lemma mem_targetsOf_cons {s : Step} {row : List Step} {v : Variable} :
    v ∈ targetsOf (s :: row) ↔ s.target? = some v ∨ v ∈ targetsOf row := by
  simp [targetsOf]

namespace Plan

/-- The variables that some step sets. -/
def targets (plan : Plan) : List Variable :=
  targetsOf plan.steps

/-- Whether every variable that a step reads is set by no step, or by an earlier one. -/
def IsWellOrdered (plan : Plan) : Prop :=
  ∀ i, ∀ h : i < plan.steps.length, ∀ v ∈ plan.steps[i].reads,
    v ∉ plan.targets ∨ v ∈ targetsOf (plan.steps.take i)

instance (plan : Plan) : Decidable plan.IsWellOrdered :=
  inferInstanceAs (Decidable (∀ i, ∀ h : i < plan.steps.length, ∀ v ∈ plan.steps[i].reads,
    v ∉ plan.targets ∨ v ∈ targetsOf (plan.steps.take i)))

end Plan

lemma Slot.admitted_congr (slot : Slot) {t u : Variable → Set Term}
    (h : ∀ v ∈ slot.reference?.toList, t v = u v) : slot.admitted t = slot.admitted u := by
  cases slot with
  | anything => rfl
  | constant c => rfl
  | bound v => exact h v (by simp [Slot.reference?])

/-- Which quads match depends on the variables that the match reads. -/
lemma Match.selected_eq_of_reads (m : Match) (facts : Set Quad) {t u : Variable → Set Term}
    (h : ∀ v ∈ (Step.lookUp m).reads, t v = u v) : m.selected facts t = m.selected facts u := by
  have hsubject : m.subject.admitted t = m.subject.admitted u :=
    m.subject.admitted_congr fun v hv => h v (by simp [Step.reads, hv])
  have hobject : m.object.admitted t = m.object.admitted u :=
    m.object.admitted_congr fun v hv => h v (by simp [Step.reads, hv])
  have hgraph : ∀ v ∈ m.graph, t v = u v := fun v hv =>
    h v (by simp [Step.reads, Option.mem_def.1 hv])
  unfold Match.selected
  rw [hsubject, hobject]
  ext q
  refine and_congr_right fun _ => and_congr_right fun _ => and_congr_right fun _ =>
    and_congr_right fun _ => forall₂_congr fun v hv => ?_
  rw [hgraph v hv]

/-- What a match finds depends on the variables that it reads. -/
theorem Match.found_congr (m : Match) (facts : Set Quad) {t u : Variable → Set Term}
    (h : ∀ v ∈ (Step.lookUp m).reads, t v = u v) : m.found facts t = m.found facts u := by
  unfold Match.found
  rw [m.selected_eq_of_reads facts h]

namespace Knowledge

lemma terms_step_of_ne (k : Knowledge) {s : Step} {v : Variable} (hv : s.target? ≠ some v) :
    (k.step s).terms v = k.terms v := by
  cases s with
  | lookUp m =>
    have hne : v ≠ m.target := fun h => hv (by rw [h]; rfl)
    exact Function.update_of_ne hne _ _
  | addResources w => rfl

/-- A row of steps keeps the terms of the variables that none of them sets. -/
lemma terms_steps_of_notMem (k : Knowledge) {row : List Step} {v : Variable}
    (hv : v ∉ targetsOf row) : (k.steps row).terms v = k.terms v := by
  induction row generalizing k with
  | nil => rfl
  | cons s row ih =>
    rw [mem_targetsOf_cons, not_or] at hv
    rw [steps_cons, ih _ hv.2, terms_step_of_ne k hv.1]

/-- A step does the same with knowledge that agrees on what it reads. -/
lemma step_congr {s : Step} {k l : Knowledge} (hfacts : k.facts = l.facts)
    (hdocuments : k.documents = l.documents) (hreads : ∀ v ∈ s.reads, k.terms v = l.terms v) :
    (k.step s).documents = (l.step s).documents ∧
      ∀ v, s.target? = some v → (k.step s).terms v = (l.step s).terms v := by
  cases s with
  | lookUp m =>
    refine ⟨hdocuments, fun v hv => ?_⟩
    cases hv
    simp only [step, Function.update_self, hfacts]
    exact m.found_congr l.facts hreads
  | addResources w =>
    refine ⟨?_, fun v hv => by cases hv⟩
    simp only [step, hdocuments, hreads w (by simp [Step.reads])]

/-- Knowledge that agrees on some variables agrees, after steps that read none but these and what
earlier ones among them set, also on what they set. -/
lemma steps_congr {row : List Step} (known : Set Variable) {k l : Knowledge}
    (hfacts : k.facts = l.facts) (hdocuments : k.documents = l.documents)
    (hterms : ∀ v ∈ known, k.terms v = l.terms v)
    (hreads : ∀ i, ∀ h : i < row.length, ∀ v ∈ row[i].reads,
      v ∈ known ∨ v ∈ targetsOf (row.take i)) :
    (k.steps row).documents = (l.steps row).documents ∧
      ∀ v, v ∈ known ∨ v ∈ targetsOf row → (k.steps row).terms v = (l.steps row).terms v := by
  induction row generalizing known k l with
  | nil => exact ⟨hdocuments, fun v hv => hterms v (hv.resolve_right (by simp))⟩
  | cons s row ih =>
    have hfirst : ∀ v ∈ s.reads, k.terms v = l.terms v := fun v hv =>
      hterms v ((hreads 0 (by simp) v hv).resolve_right (by simp))
    obtain ⟨hdocuments', hset⟩ := step_congr hfacts hdocuments hfirst
    -- What the first step sets is known to the others.
    have hterms' : ∀ v ∈ known ∪ {w | s.target? = some w},
        (k.step s).terms v = (l.step s).terms v := by
      intro v hv
      by_cases hs : s.target? = some v
      · exact hset v hs
      · rw [terms_step_of_ne k hs, terms_step_of_ne l hs]
        exact hterms v (hv.resolve_right hs)
    have hreads' : ∀ i, ∀ h : i < row.length, ∀ v ∈ row[i].reads,
        v ∈ known ∪ {w | s.target? = some w} ∨ v ∈ targetsOf (row.take i) := by
      intro i h v hv
      have hread := hreads (i + 1) (by simpa using h) v (by simpa using hv)
      rw [List.take_succ_cons, mem_targetsOf_cons, ← or_assoc] at hread
      exact hread
    obtain ⟨hd, ht⟩ := ih (known ∪ {w | s.target? = some w}) (by simp [hfacts]) hdocuments'
      hterms' hreads'
    refine ⟨hd, fun v hv => ht v ?_⟩
    rw [mem_targetsOf_cons, ← or_assoc] at hv
    exact hv

/-- Where there are no facts, nothing is found for the variables that are set. -/
lemma terms_steps_of_facts_empty (k : Knowledge) (hfacts : k.facts = ∅) {row : List Step}
    {v : Variable} (hv : v ∈ targetsOf row) : (k.steps row).terms v = ∅ := by
  induction row generalizing k with
  | nil => simp at hv
  | cons s row ih =>
    rw [steps_cons]
    by_cases hrow : v ∈ targetsOf row
    · exact ih (k.step s) (by rw [facts_step, hfacts]) hrow
    · rw [terms_steps_of_notMem _ hrow]
      cases s with
      | lookUp m =>
        obtain rfl : m.target = v := by
          simpa [Step.target?] using (mem_targetsOf_cons.1 hv).resolve_right hrow
        ext x
        simp [step, Match.found, Match.selected, hfacts]
      | addResources w =>
        have hset := (mem_targetsOf_cons.1 hv).resolve_right hrow
        cases hset

end Knowledge

namespace Plan

variable (plan : Plan) {facts : Set Quad} {t u : Variable → Set Term}

/-- A plan keeps the terms of the variables that it does not set. -/
theorem infer_of_notMem {v : Variable} (hv : v ∉ plan.targets) : plan.infer facts t v = t v :=
  Knowledge.terms_steps_of_notMem _ hv

/-- What a well-ordered plan finds, and what it discovers, depends only on the terms of the
variables that it does not set. -/
theorem IsWellOrdered.evaluate_congr {plan : Plan} (hplan : plan.IsWellOrdered)
    (facts : Set Quad) (h : ∀ v, v ∉ plan.targets → t v = u v) :
    plan.infer facts t = plan.infer facts u ∧ plan.collect facts t = plan.collect facts u := by
  obtain ⟨hdocuments, hterms⟩ := Knowledge.steps_congr (k := ⟨facts, t, ∅⟩) (l := ⟨facts, u, ∅⟩)
    {v | v ∉ plan.targets} rfl rfl h hplan
  refine ⟨funext fun v => hterms v ?_, hdocuments⟩
  by_cases hv : v ∈ plan.targets
  · exact Or.inr hv
  · exact Or.inl hv

/-- Nothing is found where there are no facts. -/
theorem infer_empty (v : Variable) :
    plan.infer ∅ t v = if v ∈ plan.targets then ∅ else t v := by
  by_cases hv : v ∈ plan.targets
  · rw [if_pos hv]
    exact Knowledge.terms_steps_of_facts_empty _ rfl hv
  · rw [if_neg hv]
    exact plan.infer_of_notMem hv

end Plan

end Courier
