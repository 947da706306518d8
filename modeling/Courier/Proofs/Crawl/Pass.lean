import Courier.Crawl.Run
import Courier.Proofs.Query.Knowledge

/-!
# Passes of a crawl

A pass of a crawl evaluates the plan on its state.  Seen as knowledge, the state after the pass is
what the plan makes of the knowledge before it (`State.knowledge_evaluate`); whatever is proved of
plans as functions on sets therefore holds of passes.  A pass changes nothing else of the state but
the number of passes.
-/

namespace Courier.Crawl

lemma mem_documentsOf {bindings : Bindings} {v : Variable} {d : Iri} :
    d ∈ documentsOf bindings v ↔ d ∈ documentsAmong (bindings.terms v) :=
  bindings.mem_documentsAmong.symm

namespace State

/-- What a state knows, whatever the order in which it was found. -/
def knowledge (s : State) : Knowledge where
  facts := s.store.quads.toSet
  terms := s.bindings.terms
  documents := s.resources.toSet

/-- The documents fetched: those with a recorded outcome. -/
def fetched (s : State) : Set Iri :=
  {d | d ∈ s.outcomes.map Prod.fst}

lemma mem_fetched {s : State} {d : Iri} : d ∈ s.fetched ↔ d ∈ s.outcomes.map Prod.fst :=
  Iff.rfl

lemma mem_fetched_of_mem {s : State} {d : Iri} {o : Outcome} (h : (d, o) ∈ s.outcomes) :
    d ∈ s.fetched :=
  mem_fetched.2 (List.mem_map.2 ⟨(d, o), h, rfl⟩)

/-! ### Evaluation -/

/-- A step of the plan does to the state what it does to knowledge. -/
theorem knowledge_step (s : State) (st : Step) : (s.step st).knowledge = s.knowledge.step st := by
  cases st with
  | lookUp m =>
    refine Knowledge.ext rfl (funext fun v => ?_) rfl
    change ((s.bindings.set m.target _).values v).toSet = _
    rw [Bindings.values_set]
    by_cases hv : v = m.target
    · subst hv
      simp only [if_true, Knowledge.step, Function.update_self]
      exact m.toSet_evaluate s.bindings s.store
    · simp only [if_neg hv, Knowledge.step, Function.update_of_ne hv]
      rfl
  | addResources v =>
    refine Knowledge.ext rfl rfl ?_
    ext d
    change d ∈ (s.resources.insertMany _).toSet ↔ d ∈ s.resources.toSet ∪ documentsAmong _
    rw [OrderedSet.mem_toSet_insertMany]
    simp [mem_documentsOf, knowledge]

lemma knowledge_foldl_step (s : State) (row : List Step) :
    (row.foldl step s).knowledge = s.knowledge.steps row := by
  induction row generalizing s with
  | nil => rfl
  | cons st row ih => rw [List.foldl_cons, ih, knowledge_step, Knowledge.steps_cons]

/-- A pass does to the state what the plan does to knowledge. -/
theorem knowledge_evaluate (s : State) (plan : Plan) :
    (s.evaluate plan).knowledge = s.knowledge.evaluate plan := by
  unfold evaluate
  rw [knowledge_foldl_step]
  rfl

/-- What a pass leaves as it is: all but the bindings, the resources and the number of passes. -/
lemma foldl_step_eq (s : State) (row : List Step) :
    row.foldl step s = { s with
      bindings := (row.foldl step s).bindings
      resources := (row.foldl step s).resources } := by
  induction row generalizing s with
  | nil => rfl
  | cons st row ih =>
    rw [List.foldl_cons, ih]
    cases st <;> rfl

section Frame

variable (s : State) (plan : Plan)

@[simp] lemma store_evaluate : (s.evaluate plan).store = s.store := by
  rw [evaluate, foldl_step_eq]

@[simp] lemma outcomes_evaluate : (s.evaluate plan).outcomes = s.outcomes := by
  rw [evaluate, foldl_step_eq]

@[simp] lemma passes_evaluate : (s.evaluate plan).passes = s.passes + 1 := by
  rw [evaluate, foldl_step_eq]

@[simp] lemma heard_evaluate : (s.evaluate plan).heard = s.heard := by
  rw [evaluate, foldl_step_eq]

@[simp] lemma clock_evaluate : (s.evaluate plan).clock = s.clock := by
  rw [evaluate, foldl_step_eq]

@[simp] lemma requests_evaluate : (s.evaluate plan).requests = s.requests := by
  rw [evaluate, foldl_step_eq]

@[simp] lemma fetched_evaluate : (s.evaluate plan).fetched = s.fetched := by
  rw [fetched, outcomes_evaluate, fetched]

end Frame

/-- The terms of every variable after a pass. -/
theorem terms_evaluate (s : State) (plan : Plan) :
    (s.evaluate plan).bindings.terms = plan.infer s.knowledge.facts s.bindings.terms := by
  have h := s.knowledge_evaluate plan
  rw [plan.evaluate_eq] at h
  exact congrArg Knowledge.terms h

/-- The documents discovered after a pass. -/
theorem resources_evaluate (s : State) (plan : Plan) :
    (s.evaluate plan).resources.toSet =
      s.resources.toSet ∪ plan.collect s.knowledge.facts s.bindings.terms := by
  have h := s.knowledge_evaluate plan
  rw [plan.evaluate_eq] at h
  exact congrArg Knowledge.documents h

/-! ### The start and the pending documents -/

/-- The documents of the resources that the seed names. -/
def seedDocuments (seed : Bindings) : Set Iri :=
  {d | ∃ v, d ∈ documentsAmong (seed.terms v)}

/-- At the start the documents of the seed are discovered. -/
theorem resources_start (seed : Bindings) :
    (start seed).resources.toSet = seedDocuments seed := by
  ext d
  unfold start
  rw [OrderedSet.mem_toSet_ofList]
  simp only [beq_iff_eq, exists_eq_right, List.mem_flatMap, mem_documentsOf]
  constructor
  · rintro ⟨e, -, hd⟩
    exact ⟨e.1, hd⟩
  · rintro ⟨v, hd⟩
    -- A variable that is not listed has no terms, hence no documents.
    have hlisted : v ∈ seed.entries.map Prod.fst := by
      by_contra hv
      have hvalues : seed.values v = .empty := by
        unfold Bindings.values Bindings.find?
        rw [(Bindings.lookup_eq_none_iff seed.entries v).2 hv]
        rfl
      obtain ⟨i, hi, -⟩ := hd
      simp [Bindings.terms, hvalues] at hi
    obtain ⟨e, he, rfl⟩ := List.mem_map.1 hlisted
    exact ⟨e, he, hd⟩

/-- The documents pending are those discovered that were not fetched. -/
theorem mem_pending {s : State} {d : Iri} :
    d ∈ s.pending ↔ d ∈ s.resources.toSet ∧ d ∉ s.fetched := by
  unfold pending
  rw [List.mem_filter, OrderedSet.mem_toSet_iff_mem_toList, mem_fetched]
  refine and_congr_right fun _ => ?_
  rw [Bool.not_eq_true', List.any_eq_false, List.mem_map]
  constructor
  · rintro h ⟨e, he, rfl⟩
    simpa using h e he
  · intro h e he
    simpa using fun hd => h ⟨e, he, hd⟩

lemma nodup_pending (s : State) : s.pending.Nodup :=
  s.resources.nodup_toList.filter _

/-- Nothing is pending once everything discovered was fetched. -/
lemma pending_eq_nil_iff {s : State} : s.pending = [] ↔ s.resources.toSet ⊆ s.fetched := by
  rw [List.eq_nil_iff_forall_not_mem]
  constructor
  · intro h d hd
    by_contra hfetched
    exact h d (mem_pending.2 ⟨hd, hfetched⟩)
  · intro h d hd
    exact (mem_pending.1 hd).2 (h (mem_pending.1 hd).1)

end State

end Courier.Crawl
