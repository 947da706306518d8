import Courier.Http.Web
import Courier.Proofs.Crawl.Reach
import Courier.Service.SearchPlan

/-!
# What convergence means

A crawl converges when a pass leaves nothing pending.  For a well-ordered plan that makes its answer
authoritative: the documents fetched are the least set that contains the documents of the seed and
is closed under what the plan discovers in it, and the bindings are those that a single evaluation
finds in all these documents.

For other plans convergence says less, because the last pass may still have changed the bindings and
the test for convergence does not look at them.  In every case the bindings of a crawl stay below
every solution of the plan, `Plan.IsSolution`; a converged crawl has reached a fixed point exactly
if they are the least solution and every document that they lead to was fetched.

The plan by which the pod of a person is searched is well ordered.  The section on a small web has
the crawls in which all this can be seen at work.
-/

namespace Courier

/-- Whether terms extend those of the seed where the plan sets none, and hold whatever the plan
finds with them among the facts. -/
def Plan.IsSolution (plan : Plan) (facts : Set Quad) (seed terms : Variable → Set Term) : Prop :=
  (∀ v, v ∉ plan.targets → seed v ⊆ terms v) ∧ plan.infer facts terms ≤ terms

/-- The plan by which the pod of a person is searched is well ordered, for data of any class. -/
theorem SearchPlan.isWellOrdered_plan (type : Iri) : (SearchPlan.plan type).IsWellOrdered :=
  of_decide_eq_true rfl

namespace Crawl

/-- Whether another pass would change the terms of no variable and leave nothing pending. -/
def State.IsSettled (s : State) (plan : Plan) : Prop :=
  (∀ v, ((s.evaluate plan).bindings.values v).toSet = (s.bindings.values v).toSet) ∧
    (s.evaluate plan).pending = []

namespace Setting

variable (c : Setting) {seed : Bindings}

/-- Whether a set of documents contains those of the seed and those that the plan discovers in what
the set asserts. -/
def IsClosed (seed : Bindings) (documents : Set Iri) : Prop :=
  State.seedDocuments seed ⊆ documents ∧
    c.plan.collect (c.assertions documents) seed.terms ⊆ documents

/-! ### Invariants of the states reached -/

/-- What holds whenever a pass starts. -/
structure Invariant (seed : Bindings) (s : State) : Prop where
  /-- The facts are what the documents fetched assert. -/
  facts_eq : s.knowledge.facts = c.assertions s.fetched
  /-- Only documents that were discovered are fetched. -/
  fetched_subset : s.fetched ⊆ s.resources.toSet
  /-- The documents of the seed are discovered. -/
  seed_subset : State.seedDocuments seed ⊆ s.resources.toSet
  /-- Variables that the plan does not set keep the terms of the seed. -/
  terms_eq : ∀ v, v ∉ c.plan.targets → s.bindings.terms v = seed.terms v

lemma fetched_start : (State.start seed).fetched = ∅ := by
  ext d
  simp [State.mem_fetched, State.start]

lemma Records.fetched {s t : State} {documents : List Iri} (h : c.Records s t documents) :
    t.fetched = s.fetched ∪ {d | d ∈ documents} := by
  ext d
  rw [Set.mem_union, State.mem_fetched, State.mem_fetched, h.outcomes, List.map_append,
    List.mem_append, List.map_map]
  simp [Function.comp_def]

lemma Records.facts_subset {s t : State} {documents : List Iri} (h : c.Records s t documents) :
    s.knowledge.facts ⊆ t.knowledge.facts := by
  change s.store.quads.toSet ⊆ t.store.quads.toSet
  rw [h.facts]
  exact Set.subset_union_left

lemma next_subset (s : State) : {d | d ∈ c.next s} ⊆ s.resources.toSet :=
  fun _ hd => (State.mem_pending.1 (List.mem_of_mem_take hd)).1

variable {c}

lemma facts_start : (State.start seed).knowledge.facts = ∅ :=
  OrderedSet.toSet_empty

/-- The invariant holds at the start and is kept by a pass and its batch. -/
theorem Reaches.invariant {s : State} (hs : c.Reaches seed s) : c.Invariant seed s := by
  induction hs with
  | start =>
    refine ⟨?_, ?_, (State.resources_start seed).ge, fun v _ => rfl⟩
    · rw [facts_start, fetched_start]
      ext q
      simp [assertions]
    · rw [fetched_start]
      exact Set.empty_subset _
  | @batch s t hs hverdict hbatch ih =>
    obtain ⟨order, hperm, hrecords⟩ := c.records_of_fetchBatch_eq hbatch
    have hresources : s.resources.toSet ⊆ t.resources.toSet := by
      rw [hrecords.resources, State.resources_evaluate]
      exact Set.subset_union_left
    have hfetched : t.fetched = s.fetched ∪ {d | d ∈ order} := by
      rw [hrecords.fetched, State.fetched_evaluate]
    refine ⟨?_, ?_, ih.seed_subset.trans hresources, fun v hv => ?_⟩
    · rw [hfetched, assertions_union, ← ih.facts_eq]
      refine hrecords.facts.trans ?_
      rw [State.store_evaluate]
      rfl
    · rw [hfetched]
      refine Set.union_subset (ih.fetched_subset.trans hresources) ?_
      intro d hd
      rw [hrecords.resources]
      exact c.next_subset _ (hperm.mem_iff.1 hd)
    · rw [hrecords.bindings, State.terms_evaluate, c.plan.infer_of_notMem hv]
      exact ih.terms_eq v hv

/-! ### A small web -/

/-- A card that refers to a document which refers back to it and to one that is missing. -/
def cardWeb : Web :=
  (Web.putDocument {} "a:card" "<#me> <a:see> <a:more> .").putDocument
    "a:more" "<a:card#me> <a:see> <a:card> , <a:gone> ."

/-- The person that the card is about. -/
def cardSeed : Bindings :=
  .ofPairs [(⟨"person"⟩, .iri ⟨"a:card#me"⟩)]

/-- The look-up of what a person refers to. -/
def cardLookUp : Step :=
  .lookUp { subject := .bound ⟨"person"⟩, predicate := ⟨"a:see"⟩, target := ⟨"document"⟩ }

/-- Reading whatever the card refers to, in the order in which it becomes known. -/
def cardCrawl : Setting where
  fetcher := cardWeb.fetcher
  limits := { deadline := none }
  plan := { steps := [cardLookUp, .addResources ⟨"document"⟩] }

/-- The same in the opposite order: documents are to be read before they are looked up. -/
def hastyCrawl : Setting :=
  { cardCrawl with plan := { steps := [.addResources ⟨"document"⟩, cardLookUp] } }

lemma status_run_cardCrawl : (cardCrawl.run cardSeed).status = .converged := by
  decide +kernel

/-! ### Well-ordered plans -/

/-- Evaluating a well-ordered plan in a state reached is evaluating it from the seed. -/
lemma Reaches.evaluate_eq (hplan : c.plan.IsWellOrdered) {s : State} (hs : c.Reaches seed s) :
    c.plan.infer s.knowledge.facts s.bindings.terms =
        c.plan.infer s.knowledge.facts seed.terms ∧
      c.plan.collect s.knowledge.facts s.bindings.terms =
        c.plan.collect s.knowledge.facts seed.terms :=
  hplan.evaluate_congr _ hs.invariant.terms_eq

/-- Every closed set of documents contains all that is ever discovered. -/
lemma Reaches.resources_subset (hplan : c.plan.IsWellOrdered) {s : State}
    (hs : c.Reaches seed s) {documents : Set Iri} (hclosed : c.IsClosed seed documents) :
    (s.evaluate c.plan).resources.toSet ⊆ documents := by
  -- A pass discovers only what the plan discovers in the closed set.
  have hpass : ∀ {s : State}, c.Reaches seed s → s.resources.toSet ⊆ documents →
      (s.evaluate c.plan).resources.toSet ⊆ documents := by
    intro s hs hsub
    rw [State.resources_evaluate, (hs.evaluate_eq hplan).2]
    refine Set.union_subset hsub (subset_trans ?_ hclosed.2)
    refine c.plan.collect_mono ?_ le_rfl
    rw [hs.invariant.facts_eq]
    exact c.assertions_mono (hs.invariant.fetched_subset.trans hsub)
  induction hs with
  | start =>
    refine hpass .start ?_
    rw [State.resources_start]
    exact hclosed.1
  | @batch s t hs hverdict hbatch ih =>
    obtain ⟨order, -, hrecords⟩ := c.records_of_fetchBatch_eq hbatch
    refine hpass (.batch hs hverdict hbatch) ?_
    rw [hrecords.resources]
    exact ih

/-- When nothing is pending, everything discovered was fetched. -/
lemma Reaches.fetched_eq {s : State} (hs : c.Reaches seed s)
    (hpending : (s.evaluate c.plan).pending = []) :
    (s.evaluate c.plan).fetched = (s.evaluate c.plan).resources.toSet := by
  refine subset_antisymm ?_ (State.pending_eq_nil_iff.1 hpending)
  rw [State.fetched_evaluate, State.resources_evaluate]
  exact hs.invariant.fetched_subset.trans Set.subset_union_left

/-- When nothing is pending, the documents fetched are closed under what the plan discovers. -/
lemma Reaches.isClosed_fetched (hplan : c.plan.IsWellOrdered) {s : State} (hs : c.Reaches seed s)
    (hpending : (s.evaluate c.plan).pending = []) :
    c.IsClosed seed (s.evaluate c.plan).fetched := by
  have hfetched := hs.fetched_eq hpending
  refine ⟨?_, ?_⟩
  · rw [hfetched, State.resources_evaluate]
    exact hs.invariant.seed_subset.trans Set.subset_union_left
  · rw [State.fetched_evaluate, ← hs.invariant.facts_eq, ← (hs.evaluate_eq hplan).2,
      ← s.fetched_evaluate c.plan, hfetched, State.resources_evaluate]
    exact Set.subset_union_right

/-- If a crawl with a well-ordered plan converges, the documents fetched are the least closed set,
and the bindings are what one evaluation from the seed finds in everything gathered. -/
theorem isLeast_fetched_of_converged (c : Setting) (seed : Bindings)
    (hplan : c.plan.IsWellOrdered) (hrun : (c.run seed).status = .converged) :
    IsLeast {documents | c.IsClosed seed documents} (c.run seed).fetched ∧
      ∀ v, ((c.run seed).bindings.values v).toSet =
        ((({ store := (c.run seed).store, bindings := seed } : State).evaluate
          c.plan).bindings.values v).toSet := by
  obtain ⟨s, hs, hrun, hpending⟩ := c.exists_of_status_run_eq_converged hrun
  rw [hrun]
  refine ⟨⟨hs.isClosed_fetched hplan hpending, fun documents hclosed => ?_⟩, fun v => ?_⟩
  · rw [hs.fetched_eq hpending]
    exact hs.resources_subset hplan hclosed
  · change (s.evaluate c.plan).bindings.terms v = Bindings.terms _ v
    rw [State.terms_evaluate, State.terms_evaluate, (hs.evaluate_eq hplan).1, State.store_evaluate]
    rfl

/-- The crawl of the card has fetched the least closed set of documents. -/
theorem isLeast_fetched_cardCrawl :
    cardCrawl.plan.IsWellOrdered ∧ (cardCrawl.run cardSeed).status = .converged ∧
      IsLeast {documents | cardCrawl.IsClosed cardSeed documents}
        (cardCrawl.run cardSeed).fetched :=
  have hplan : cardCrawl.plan.IsWellOrdered := by decide
  ⟨hplan, status_run_cardCrawl,
    (isLeast_fetched_of_converged cardCrawl cardSeed hplan status_run_cardCrawl).1⟩

/-! ### Plans in any order -/

/-- The bindings of a crawl are below every solution of the plan. -/
lemma Reaches.infer_le {s : State} (hs : c.Reaches seed s) {terms : Variable → Set Term}
    (h : c.plan.IsSolution s.knowledge.facts seed.terms terms) :
    c.plan.infer s.knowledge.facts s.bindings.terms ≤ terms := by
  induction hs with
  | start =>
    intro v
    rw [facts_start, c.plan.infer_empty]
    split
    · exact Set.empty_subset _
    next hv => exact h.1 v hv
  | @batch s t hs hverdict hbatch ih =>
    obtain ⟨order, -, hrecords⟩ := c.records_of_fetchBatch_eq hbatch
    have hfacts : s.knowledge.facts ⊆ t.knowledge.facts := by
      refine subset_trans ?_ hrecords.facts_subset
      change s.store.quads.toSet ⊆ (s.evaluate c.plan).store.quads.toSet
      rw [State.store_evaluate]
    have hbelow : t.bindings.terms ≤ terms := by
      rw [hrecords.bindings, State.terms_evaluate]
      exact ih ⟨h.1, (c.plan.infer_mono hfacts le_rfl).trans h.2⟩
    exact (c.plan.infer_mono subset_rfl hbelow).trans h.2

/-- A state in which nothing is pending is settled exactly if its terms are what the plan finds with
them, and everything that the plan discovers with them was fetched. -/
lemma isSettled_iff {s : State} {plan : Plan} (hpending : s.pending = []) :
    s.IsSettled plan ↔ plan.infer s.knowledge.facts s.bindings.terms = s.bindings.terms ∧
      plan.collect s.knowledge.facts s.bindings.terms ⊆ s.fetched := by
  refine and_congr ?_ ?_
  · rw [← State.terms_evaluate]
    exact funext_iff.symm
  · rw [State.pending_eq_nil_iff, State.resources_evaluate, State.fetched_evaluate,
      Set.union_subset_iff]
    exact and_iff_right (State.pending_eq_nil_iff.1 hpending)

/-- A crawl that converges has reached a fixed point exactly if its bindings are the least solution
of the plan and every document that they lead to was fetched.  With a well-ordered plan it always
has. -/
theorem isSettled_iff_of_converged (c : Setting) (seed : Bindings)
    (hrun : (c.run seed).status = .converged) :
    ((c.run seed).IsSettled c.plan ↔
      IsLeast {terms | c.plan.IsSolution (c.run seed).store.quads.toSet seed.terms terms}
          (c.run seed).bindings.terms ∧
        c.plan.collect (c.run seed).store.quads.toSet (c.run seed).bindings.terms ⊆
          (c.run seed).fetched) ∧
      (c.plan.IsWellOrdered → (c.run seed).IsSettled c.plan) := by
  obtain ⟨s, hs, hlast, hpending⟩ := c.exists_of_status_run_eq_converged hrun
  rw [hlast, isSettled_iff hpending]
  have hfacts : (s.evaluate c.plan).knowledge.facts = s.knowledge.facts := by
    change (s.evaluate c.plan).store.quads.toSet = s.store.quads.toSet
    rw [State.store_evaluate]
  have hterms : (s.evaluate c.plan).bindings.terms =
      c.plan.infer s.knowledge.facts s.bindings.terms := s.terms_evaluate c.plan
  have hseed : ∀ v, v ∉ c.plan.targets →
      (s.evaluate c.plan).bindings.terms v = seed.terms v := by
    intro v hv
    rw [hterms, c.plan.infer_of_notMem hv]
    exact hs.invariant.terms_eq v hv
  change (_ ↔ IsLeast {terms | c.plan.IsSolution (s.evaluate c.plan).knowledge.facts _ _} _ ∧
    c.plan.collect (s.evaluate c.plan).knowledge.facts _ ⊆ _) ∧ _
  rw [hfacts]
  refine ⟨and_congr_left fun _ => ⟨fun hfix => ⟨⟨?_, hfix.le⟩, ?_⟩, fun hleast => ?_⟩, ?_⟩
  · exact fun v hv => (hseed v hv).ge
  · intro terms hsolution
    change (s.evaluate c.plan).bindings.terms ≤ terms
    rw [hterms]
    exact hs.infer_le hsolution
  · -- What the plan finds with the least solution is a solution as well.
    refine le_antisymm hleast.1.2 (hleast.2 ⟨fun v hv => ?_, ?_⟩)
    · rw [c.plan.infer_of_notMem hv]
      exact hleast.1.1 v hv
    · exact c.plan.infer_mono subset_rfl hleast.1.2
  · intro hplan
    obtain ⟨hinfer, hcollect⟩ := hplan.evaluate_congr s.knowledge.facts
      fun v hv => (hseed v hv).trans (hs.invariant.terms_eq v hv).symm
    rw [hinfer, hcollect]
    refine ⟨hterms.symm, ?_⟩
    refine subset_trans ?_ (State.pending_eq_nil_iff.1 hpending)
    rw [State.resources_evaluate]
    exact Set.subset_union_right

/-- The crawl of the card is settled. -/
theorem isSettled_cardCrawl :
    (cardCrawl.run cardSeed).status = .converged ∧
      (cardCrawl.run cardSeed).IsSettled cardCrawl.plan :=
  ⟨status_run_cardCrawl,
    (isSettled_iff_of_converged cardCrawl cardSeed status_run_cardCrawl).2 (by decide)⟩

/-- A crawl may converge although its last pass has found a document that is still to be read. -/
theorem not_isSettled_hastyCrawl :
    (hastyCrawl.run cardSeed).status = .converged ∧
      ¬ (hastyCrawl.run cardSeed).IsSettled hastyCrawl.plan := by
  refine ⟨by decide +kernel, fun hsettled => ?_⟩
  have hpending : ((hastyCrawl.run cardSeed).evaluate hastyCrawl.plan).pending ≠ [] := by
    decide +kernel
  exact hpending hsettled.2

end Setting

end Crawl

end Courier
