import Courier.Proofs.Crawl.Convergence

/-!
# What a crawl has found when it ends early

However a crawl ends, its bindings are those of its last pass, only documents discovered by then
were fetched, and what it has gathered is what these documents assert
(`Setting.exists_isLastPass_run`).

For a well-ordered plan this makes partial results sound.  A crawl that is cut short, at whatever
point and whatever the order in which its documents came, has found nothing that a crawl of the same
documents does not find when it converges.
-/

namespace Courier.Crawl.Setting

variable (c : Setting) {seed : Bindings}

/-! ### The last pass -/

/-- Whether the last pass of a crawl started in the state, given what the crawl has gathered at its
end. -/
structure IsLastPass (seed : Bindings) (s : State) (r : Resolution) : Prop where
  /-- The crawl came to the state. -/
  reaches : c.Reaches seed s
  /-- The bindings are those of the pass. -/
  bindings_eq : r.bindings = (s.evaluate c.plan).bindings
  /-- The documents discovered are those of the pass. -/
  resources_eq : r.resources = (s.evaluate c.plan).resources
  /-- There was no other pass. -/
  passes_eq : r.passes = (s.evaluate c.plan).passes
  /-- Only documents that were discovered are fetched. -/
  fetched_subset : r.fetched ⊆ r.resources.toSet
  /-- The facts are what the documents fetched assert. -/
  facts_eq : r.store.quads.toSet = c.assertions r.fetched

variable {c} in
/-- What is gathered in a batch after a pass comes from documents that the pass discovered. -/
lemma Reaches.isLastPass {s t : State} (hs : c.Reaches seed s) {order : List Iri}
    (horder : ∀ d ∈ order, d ∈ c.next (s.evaluate c.plan))
    (hrecords : c.Records (s.evaluate c.plan) t order) (status : Status) :
    c.IsLastPass seed s { t with status } := by
  have hresources : s.resources.toSet ⊆ (s.evaluate c.plan).resources.toSet := by
    rw [State.resources_evaluate]
    exact Set.subset_union_left
  have hfetched : t.fetched = s.fetched ∪ {d | d ∈ order} := by
    rw [hrecords.fetched, State.fetched_evaluate]
  refine ⟨hs, hrecords.bindings, hrecords.resources, hrecords.passes, ?_, ?_⟩
  · change t.fetched ⊆ t.resources.toSet
    rw [hfetched, hrecords.resources]
    refine Set.union_subset (hs.invariant.fetched_subset.trans hresources) fun d hd => ?_
    exact c.next_subset _ (horder d hd)
  · change t.store.quads.toSet = c.assertions t.fetched
    rw [hfetched, assertions_union, ← hs.invariant.facts_eq, hrecords.facts, State.store_evaluate]
    rfl

/-- Every crawl ends with a last pass, or in the batch after it. -/
theorem exists_isLastPass_run (seed : Bindings) : ∃ s, c.IsLastPass seed s (c.run seed) := by
  obtain ⟨s, hs, hends⟩ := c.exists_endsAfter_run seed
  refine ⟨s, ?_⟩
  generalize c.run seed = r at hends
  cases hends with
  | verdict hverdict =>
    exact hs.isLastPass (by simp) (c.records_recordAll (s.evaluate c.plan) []) _
  | @stopped t status hverdict hfetch =>
    have hrecords := c.records_fetchBatch (s.evaluate c.plan) (c.next (s.evaluate c.plan))
    rw [hfetch] at hrecords
    refine hs.isLastPass (fun d hd => ?_) hrecords status
    obtain ⟨job, hjob, rfl⟩ := List.mem_map.1 hd
    exact snd_mem_of_mem_batch (c.mem_recorded.1 hjob).1

/-- What is recorded of a document is what comes of it whenever it is fetched. -/
theorem outcome_of_mem_outcomes_run {entry : Iri × Outcome}
    (h : entry ∈ (c.run seed).outcomes) : entry.2 = c.outcome entry.1 := by
  refine c.run_induction (motive := fun s => ∀ entry ∈ s.outcomes, entry.2 = c.outcome entry.1)
    ?_ ?_ ?_ entry h
  · intro entry hentry
    cases hentry
  · intro s hs
    rw [State.outcomes_evaluate]
    exact hs
  · intro s documents hs entry hentry
    rw [(c.records_fetchBatch s documents).outcomes, List.mem_append] at hentry
    rcases hentry with hentry | hentry
    · exact hs entry hentry
    · obtain ⟨d, -, rfl⟩ := List.mem_map.1 hentry
      rfl

/-! ### Comparison with a crawl that converges -/

/-- Whether two crawls carry out the same plan and every document comes to the same in both.  How
far they may go, when they are stopped, how long documents take and in which order they come is left
open. -/
structure ReadsAlike (c d : Setting) : Prop where
  /-- They carry out the same plan. -/
  plan : d.plan = c.plan
  /-- Every document comes to the same in both. -/
  load : ∀ document, d.load document = c.load document

section Comparison

variable {c} {d : Setting}

/-- It is enough that requests are answered alike and that the same documents come too late. -/
lemma ReadsAlike.of_delay (hplan : d.plan = c.plan) (hreading : d.reading = c.reading)
    (hanswer : d.fetcher.answer = c.fetcher.answer)
    (hdelay : ∀ document : Iri,
      d.fetcher.delay document.documentRequest ≤ d.limits.fetchTimeout ↔
        c.fetcher.delay document.documentRequest ≤ c.limits.fetchTimeout) :
    c.ReadsAlike d := by
  refine ⟨hplan, fun document => ?_⟩
  have hdocument : d.fetcher.document d.reading document =
      c.fetcher.document c.reading document := by
    unfold Fetcher.document
    rw [hanswer, hreading]
  rw [Setting.load, Setting.load, if_congr (hdelay document) hdocument rfl]

lemma ReadsAlike.outcome (h : c.ReadsAlike d) (document : Iri) :
    d.outcome document = c.outcome document := by
  rw [Setting.outcome, Setting.outcome, h.load]

lemma ReadsAlike.assertions (h : c.ReadsAlike d) (documents : Set Iri) :
    d.assertions documents = c.assertions documents := by
  unfold Setting.assertions
  simp only [h.load]

lemma ReadsAlike.isClosed (h : c.ReadsAlike d) {documents : Set Iri}
    (hclosed : c.IsClosed seed documents) : d.IsClosed seed documents := by
  unfold IsClosed at *
  rw [h.plan, h.assertions]
  exact hclosed

/-- With a well-ordered plan, a crawl that ends in whatever way has found only what a crawl of the
same documents that converges finds as well: the same facts or fewer, the same terms or fewer for
every variable, and nothing else of any document. -/
theorem run_subset_of_converged (c d : Setting) (seed : Bindings) (h : c.ReadsAlike d)
    (hplan : c.plan.IsWellOrdered) (hrun : (c.run seed).status = .converged) :
    (d.run seed).store.quads.toSet ⊆ (c.run seed).store.quads.toSet ∧
      (∀ v, ((d.run seed).bindings.values v).toSet ⊆ ((c.run seed).bindings.values v).toSet) ∧
      ∀ document o o', (document, o) ∈ (c.run seed).outcomes →
        (document, o') ∈ (d.run seed).outcomes → o' = o := by
  obtain ⟨s, hs, hlast, hpending⟩ := c.exists_of_status_run_eq_converged hrun
  obtain ⟨t, ht⟩ := d.exists_isLastPass_run seed
  have hplan' : d.plan.IsWellOrdered := h.plan ▸ hplan
  have hclosed : d.IsClosed seed (s.evaluate c.plan).fetched :=
    h.isClosed (hs.isClosed_fetched hplan hpending)
  -- All that the other crawl discovers was fetched by the one that converges.
  have hresources : (t.evaluate d.plan).resources.toSet ⊆ s.fetched := by
    rw [← s.fetched_evaluate c.plan]
    exact ht.reaches.resources_subset hplan' hclosed
  have hknown : t.knowledge.facts ⊆ s.knowledge.facts := by
    rw [ht.reaches.invariant.facts_eq, hs.invariant.facts_eq, h.assertions]
    refine c.assertions_mono (subset_trans ?_ hresources)
    rw [State.resources_evaluate]
    exact ht.reaches.invariant.fetched_subset.trans Set.subset_union_left
  refine ⟨?_, fun v => ?_, fun document o o' ho ho' => ?_⟩
  · have hfacts : (s.evaluate c.plan).store.quads.toSet = c.assertions s.fetched := by
      rw [State.store_evaluate]
      exact hs.invariant.facts_eq
    rw [ht.facts_eq, hlast, hfacts, h.assertions]
    refine c.assertions_mono (ht.fetched_subset.trans ?_)
    rw [ht.resources_eq]
    exact hresources
  · rw [ht.bindings_eq, hlast]
    change (t.evaluate d.plan).bindings.terms v ⊆ (s.evaluate c.plan).bindings.terms v
    rw [State.terms_evaluate, State.terms_evaluate, (ht.reaches.evaluate_eq hplan').1,
      (hs.evaluate_eq hplan).1, h.plan]
    exact c.plan.infer_mono hknown le_rfl v
  · have hc : o = c.outcome document := c.outcome_of_mem_outcomes_run ho
    have hd : o' = d.outcome document := d.outcome_of_mem_outcomes_run ho'
    rw [hc, hd, h.outcome]

end Comparison

/-- Reading the card and nothing else, though its documents are slow. -/
def briefCardCrawl : Setting :=
  { cardCrawl with
    fetcher := (cardWeb.setDelay "a:card" 7).fetcher
    limits := { maxFetches := 1, deadline := some 100, concurrency := 2 } }

/-- What is read of the card alone is part of what is read of it in full. -/
theorem run_subset_briefCardCrawl :
    cardCrawl.ReadsAlike briefCardCrawl ∧ cardCrawl.plan.IsWellOrdered ∧
      (cardCrawl.run cardSeed).status = .converged ∧
      (briefCardCrawl.run cardSeed).status = .budgetExhausted ∧
      (briefCardCrawl.run cardSeed).store.quads.toSet ⊆
        (cardCrawl.run cardSeed).store.quads.toSet := by
  have halike : cardCrawl.ReadsAlike briefCardCrawl := by
    refine .of_delay rfl rfl rfl fun document => iff_of_true ?_ (Nat.zero_le _)
    change (List.lookup _ [("a:card", 7)]).getD 0 ≤ 30000
    rw [List.lookup_cons]
    split <;> simp
  have hplan : cardCrawl.plan.IsWellOrdered := by decide
  exact ⟨halike, hplan, status_run_cardCrawl, by decide +kernel,
    (run_subset_of_converged cardCrawl briefCardCrawl cardSeed halike hplan
      status_run_cardCrawl).1⟩

end Courier.Crawl.Setting
