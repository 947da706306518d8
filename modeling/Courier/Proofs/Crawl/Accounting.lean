import Courier.Proofs.Crawl.Partial
import Courier.Proofs.Crawl.Timeline

/-!
# Requests and outcomes

A crawl requests documents of resources that the seed or some pass named, each of them once and no
more of them than it may fetch.  What it records, and tells an observer, is what came of a document
that was requested.

Between batches every document requested has an outcome (`Setting.Reaches.isAccounted`).  Only a
crawl that is stopped in the middle of a batch leaves requests without one, and no more of them than
may be in flight at once.
-/

namespace Courier.Crawl

namespace State

/-- The documents requested, in order. -/
def requested (s : State) : List Iri :=
  s.requests.map (·.2.iri)

/-- The documents requested of which no outcome is recorded. -/
def unanswered (s : State) : List Iri :=
  s.requested.filter fun document => document ∉ s.outcomes.map Prod.fst

lemma unanswered_eq_nil_iff {s : State} :
    s.unanswered = [] ↔ ∀ d ∈ s.requested, d ∈ s.outcomes.map Prod.fst := by
  simp [unanswered, List.filter_eq_nil_iff]

/-- A pass changes nothing about that. -/
@[simp] lemma unanswered_evaluate (s : State) (plan : Plan) :
    (s.evaluate plan).unanswered = s.unanswered := by
  rw [unanswered, requested, requests_evaluate, outcomes_evaluate, unanswered, requested]

/-- The resources that a pass marks as documents to be read: those that are among the terms of the
variable when it is the turn of the step that marks them. -/
def marked (s : State) (plan : Plan) : Set Iri :=
  {i | ∃ row v rest, plan.steps = row ++ .addResources v :: rest ∧
    .iri i ∈ ((row.foldl step { s with passes := s.passes + 1 }).bindings.values v).toList}

lemma mem_resources_foldl_step {s : State} {row : List Step} {d : Iri}
    (h : d ∈ (row.foldl step s).resources.toSet) :
    d ∈ s.resources.toSet ∨ ∃ i : Iri, i.document = d ∧
      ∃ done v rest, row = done ++ .addResources v :: rest ∧
        .iri i ∈ ((done.foldl step s).bindings.values v).toList := by
  induction row generalizing s with
  | nil => exact Or.inl h
  | cons st row ih =>
    rcases ih h with hd | ⟨i, hid, done, v, rest, rfl, hi⟩
    · cases st with
      | lookUp m => exact Or.inl hd
      | addResources v =>
        rcases OrderedSet.mem_toSet_insertMany.1 hd with hd | ⟨e, he, hed⟩
        · exact Or.inl hd
        · obtain ⟨i, hi, hie⟩ := mem_documentsOf.1 he
          refine Or.inr ⟨i, hie.trans (eq_of_beq hed), [], v, row, rfl, ?_⟩
          exact s.bindings.iri_mem_terms.1 hi
    · exact Or.inr ⟨i, hid, st :: done, v, rest, rfl, hi⟩

lemma resources_subset_foldl_step (s : State) (row : List Step) :
    s.resources.toSet ⊆ (row.foldl step s).resources.toSet := by
  induction row generalizing s with
  | nil => exact subset_rfl
  | cons st row ih =>
    refine subset_trans ?_ (ih (s.step st))
    cases st with
    | lookUp m => exact subset_rfl
    | addResources v => exact fun d hd => OrderedSet.mem_toSet_insertMany.2 (Or.inl hd)

/-- A pass discovers the documents of the resources that it marks, and no others. -/
theorem mem_resources_evaluate {s : State} {plan : Plan} {d : Iri} :
    d ∈ (s.evaluate plan).resources.toSet ↔
      d ∈ s.resources.toSet ∨ ∃ i ∈ s.marked plan, i.document = d := by
  constructor
  · intro h
    rcases mem_resources_foldl_step h with hd | ⟨i, hid, hi⟩
    · exact Or.inl hd
    · exact Or.inr ⟨i, hi, hid⟩
  · rintro (hd | ⟨i, ⟨row, v, rest, hsteps, hi⟩, rfl⟩)
    · exact resources_subset_foldl_step _ plan.steps hd
    · unfold evaluate
      rw [hsteps, List.foldl_append, List.foldl_cons]
      refine resources_subset_foldl_step _ rest (OrderedSet.mem_toSet_insertMany.2 (Or.inr ?_))
      exact ⟨i.document, mem_documentsOf.2 ⟨i, Bindings.iri_mem_terms _ |>.2 hi, rfl⟩, BEq.rfl⟩

end State

namespace Setting

variable (c : Setting) {seed : Bindings}

/-! ### What a crawl discovers -/

/-- The documents of the resources that the seed names or that some pass of the crawl marks. -/
def discovered (seed : Bindings) : Set Iri :=
  State.seedDocuments seed ∪
    {d | ∃ s, c.Reaches seed s ∧ ∃ i ∈ s.marked c.plan, i.document = d}

variable {c}

/-- All that is listed for reading was discovered, before a pass and after it. -/
lemma Reaches.resources_subset_discovered {s : State} (hs : c.Reaches seed s) :
    s.resources.toSet ⊆ c.discovered seed ∧
      (s.evaluate c.plan).resources.toSet ⊆ c.discovered seed := by
  have hpass : ∀ {s : State}, c.Reaches seed s → s.resources.toSet ⊆ c.discovered seed →
      (s.evaluate c.plan).resources.toSet ⊆ c.discovered seed := by
    intro s hs hsub d hd
    rcases State.mem_resources_evaluate.1 hd with hd | ⟨i, hi, hid⟩
    · exact hsub hd
    · exact Or.inr ⟨s, hs, i, hi, hid⟩
  suffices hbefore : s.resources.toSet ⊆ c.discovered seed from ⟨hbefore, hpass hs hbefore⟩
  induction hs with
  | start =>
    rw [State.resources_start]
    exact Set.subset_union_left
  | @batch s t hs hverdict hbatch ih =>
    obtain ⟨order, -, hrecords⟩ := c.records_of_fetchBatch_eq hbatch
    rw [hrecords.resources]
    exact hpass hs ih

/-- What a crawl discovers are documents, not other resources in them. -/
lemma exists_document_of_mem_discovered {d : Iri} (h : d ∈ c.discovered seed) :
    ∃ i : Iri, i.document = d := by
  rcases h with ⟨v, i, -, hid⟩ | ⟨s, -, i, -, hid⟩
  · exact ⟨i, hid⟩
  · exact ⟨i, hid⟩

/-- The request for a document that a crawl discovers. -/
lemma iri_documentRequest_of_mem_discovered {d : Iri} (h : d ∈ c.discovered seed) :
    d.documentRequest.iri = d := by
  obtain ⟨i, rfl⟩ := exists_document_of_mem_discovered h
  exact i.document_document

/-! ### The books -/

variable (c)

/-- Whether requests and outcomes are as they should be. -/
structure IsAccounted (seed : Bindings) (s : State) : Prop where
  /-- Every request is for a document that the crawl discovered. -/
  request_eq : ∀ r ∈ s.requests, ∃ d ∈ c.discovered seed, r.2 = d.documentRequest
  /-- No document is requested twice. -/
  nodup_requested : s.requested.Nodup
  /-- There are no more requests than documents may be fetched. -/
  length_requests_le : s.requests.length ≤ c.limits.maxFetches
  /-- No document has two outcomes. -/
  nodup_outcomes : (s.outcomes.map Prod.fst).Nodup
  /-- Documents with an outcome were requested. -/
  requested_of_mem : ∀ d ∈ s.outcomes.map Prod.fst, d ∈ s.requested

variable {c}

/-- The books are about requests and outcomes only. -/
lemma IsAccounted.congr {s t : State} (h : c.IsAccounted seed s)
    (hrequests : t.requests = s.requests) (houtcomes : t.outcomes = s.outcomes) :
    c.IsAccounted seed t := by
  have hrequested : t.requested = s.requested := by
    rw [State.requested, hrequests, State.requested]
  refine ⟨?_, ?_, ?_, ?_, ?_⟩
  · exact hrequests ▸ h.request_eq
  · exact hrequested ▸ h.nodup_requested
  · exact hrequests ▸ h.length_requests_le
  · exact houtcomes ▸ h.nodup_outcomes
  · exact houtcomes ▸ hrequested ▸ h.requested_of_mem

/-- If every request has an outcome, there are as many outcomes as requests. -/
lemma IsAccounted.length_requests_eq {s : State} (h : c.IsAccounted seed s)
    (hanswered : s.unanswered = []) : s.requests.length = s.outcomes.length := by
  have hle := (List.subperm_of_subset h.nodup_requested
    (State.unanswered_eq_nil_iff.1 hanswered)).length_le
  have hge := (List.subperm_of_subset h.nodup_outcomes h.requested_of_mem).length_le
  rw [State.requested, List.length_map, List.length_map] at hle hge
  exact le_antisymm hle hge

/-- There are no more outcomes than documents may be fetched. -/
lemma IsAccounted.length_outcomes_le {s : State} (h : c.IsAccounted seed s) :
    s.outcomes.length ≤ c.limits.maxFetches := by
  have hle := (List.subperm_of_subset h.nodup_outcomes h.requested_of_mem).length_le
  rw [State.requested, List.length_map, List.length_map] at hle
  exact hle.trans h.length_requests_le

lemma started_sublist (now : Nat) (documents : List Iri) :
    ((c.started now documents).map Prod.snd).Sublist documents := by
  have hsub := (List.filter_sublist (p := fun job => c.isBeforeStop job.1.start)
    (l := c.batch now documents)).map Prod.snd
  rw [map_snd_batch] at hsub
  exact hsub

/-- Every document recorded in a batch was started in it. -/
lemma mem_started_of_mem_recorded {now : Nat} {documents : List Iri} {job : Span × Iri}
    (h : job ∈ c.recorded now documents) : job ∈ c.started now documents := by
  obtain ⟨hjob, hfinish⟩ := c.mem_recorded.1 h
  exact List.mem_filter.2 ⟨hjob, c.isBeforeStop_of_le (le_start_of_mem_batch hjob).2 hfinish⟩

/-- A batch of discovered documents requests those that are started. -/
lemma requested_gather {s : State} {documents : List Iri}
    (h : ∀ d ∈ documents, d ∈ c.discovered seed) :
    (c.gather s documents).requested =
      s.requested ++ (c.started s.clock documents).map Prod.snd := by
  unfold State.requested
  rw [requests_gather, List.map_append, List.map_map]
  refine congrArg _ (List.map_congr_left fun job hjob => ?_)
  have hdocument := snd_mem_of_mem_batch (List.mem_filter.1 hjob).1
  exact iri_documentRequest_of_mem_discovered (h _ hdocument)

lemma nodup_recorded {now : Nat} {documents : List Iri} (h : documents.Nodup) :
    ((c.recorded now documents).map Prod.snd).Nodup := by
  have hsub := (List.filter_sublist (p := fun job => c.isBeforeStop job.1.finish)
    (l := byFinish (c.batch now documents))).map Prod.snd
  refine hsub.nodup ?_
  rw [((byFinish_perm _).map Prod.snd).nodup_iff, map_snd_batch]
  exact h

/-- A batch of pending documents, no more of them than may still be fetched, keeps the books if
everything requested before has an outcome. -/
lemma IsAccounted.gather {s : State} (h : c.IsAccounted seed s)
    (hanswered : s.unanswered = []) (hresources : s.resources.toSet ⊆ c.discovered seed)
    (hbudget : s.outcomes.length ≤ c.limits.maxFetches) :
    c.IsAccounted seed (c.gather s (c.next s)) := by
  have hnext : ∀ d ∈ c.next s, d ∈ c.discovered seed ∧ d ∉ s.outcomes.map Prod.fst := by
    intro d hd
    obtain ⟨hresource, hfetched⟩ := State.mem_pending.1 (List.mem_of_mem_take hd)
    exact ⟨hresources hresource, hfetched⟩
  have hnodup : (c.next s).Nodup := s.nodup_pending.sublist (List.take_sublist _ _)
  have hstarted := c.started_sublist s.clock (c.next s)
  have hrequested := requested_gather (s := s) fun d hd => (hnext d hd).1
  have hrecords := c.records_gather s (c.next s)
  have houtcomes : (c.gather s (c.next s)).outcomes.map Prod.fst =
      s.outcomes.map Prod.fst ++ (c.recorded s.clock (c.next s)).map Prod.snd := by
    rw [hrecords.outcomes, List.map_append, List.map_map]
    simp [Function.comp_def]
  refine ⟨?_, ?_, ?_, ?_, ?_⟩
  · intro r hr
    rw [requests_gather, List.mem_append] at hr
    rcases hr with hr | hr
    · exact h.request_eq r hr
    · obtain ⟨job, hjob, rfl⟩ := List.mem_map.1 hr
      have hdocument := snd_mem_of_mem_batch (List.mem_filter.1 hjob).1
      exact ⟨job.2, (hnext _ hdocument).1, rfl⟩
  · rw [hrequested, List.nodup_append']
    refine ⟨h.nodup_requested, hstarted.nodup hnodup, fun d hd hd' => ?_⟩
    exact (hnext d (hstarted.subset hd')).2 (State.unanswered_eq_nil_iff.1 hanswered d hd)
  · -- Everything requested before has an outcome, so it was counted.
    have hbefore := h.length_requests_eq hanswered
    have hnow := hstarted.length_le
    have hroom : (c.next s).length ≤ c.limits.maxFetches - s.outcomes.length := by
      rw [next, List.length_take]
      exact min_le_left _ _
    rw [List.length_map] at hnow
    rw [requests_gather, List.length_append, List.length_map]
    omega
  · rw [houtcomes, List.nodup_append']
    refine ⟨h.nodup_outcomes, nodup_recorded hnodup, fun d hd hd' => ?_⟩
    obtain ⟨job, hjob, rfl⟩ := List.mem_map.1 hd'
    exact (hnext _ (snd_mem_of_mem_batch (c.mem_recorded.1 hjob).1)).2 hd
  · intro d hd
    rw [houtcomes, List.mem_append] at hd
    rw [hrequested, List.mem_append]
    refine hd.imp (h.requested_of_mem d) fun hd => ?_
    obtain ⟨job, hjob, rfl⟩ := List.mem_map.1 hd
    exact List.mem_map_of_mem (mem_started_of_mem_recorded hjob)

/-- After a batch only jobs that are in flight when the crawl is stopped are without an outcome, if
every request before it has one. -/
lemma length_unanswered_gather_le {s : State} {documents : List Iri}
    (hanswered : s.unanswered = []) (hdocuments : ∀ d ∈ documents, d ∈ c.discovered seed) :
    (c.gather s documents).unanswered.length ≤
      (c.batch s.clock documents).countP fun job => job.1.isInFlight c.isBeforeStop := by
  have hrecords := c.records_gather s documents
  have hold : ∀ d ∈ s.outcomes.map Prod.fst, d ∈ (c.gather s documents).outcomes.map Prod.fst := by
    intro d hd
    rw [hrecords.outcomes, List.map_append]
    exact List.mem_append_left _ hd
  have hnew : ∀ job ∈ c.recorded s.clock documents,
      job.2 ∈ (c.gather s documents).outcomes.map Prod.fst := by
    intro job hjob
    rw [hrecords.outcomes, List.map_append, List.map_map, List.map_map]
    exact List.mem_append_right _ (List.mem_map.2 ⟨job, hjob, rfl⟩)
  have hbefore : s.requested.filter
      (fun d => d ∉ (c.gather s documents).outcomes.map Prod.fst) = [] := by
    rw [List.filter_eq_nil_iff]
    intro d hd
    simpa using hold d (State.unanswered_eq_nil_iff.1 hanswered d hd)
  unfold State.unanswered
  rw [requested_gather hdocuments, List.filter_append, hbefore, List.nil_append,
    ← List.countP_eq_length_filter, List.countP_map, started, List.countP_filter]
  refine List.countP_mono_left fun job hjob hopen => ?_
  simp only [Function.comp_apply, Bool.and_eq_true, decide_eq_true_eq] at hopen
  -- A job that has finished is recorded.
  have hfinish : c.isBeforeStop job.1.finish = false := by
    by_contra hfinish
    exact hopen.1 (hnew job (c.mem_recorded.2 ⟨hjob, Bool.not_eq_false _ ▸ hfinish⟩))
  simp [Span.isInFlight, hopen.2, hfinish]

/-- After a pass and a batch the books are in order if they were before, and only jobs in flight are
without an outcome. -/
lemma IsAccounted.batch {s : State} (hs : c.Reaches seed s) (h : c.IsAccounted seed s)
    (hanswered : s.unanswered = [])
    (hverdict : c.verdict (s.evaluate c.plan) (s.evaluate c.plan).pending = none) :
    c.IsAccounted seed (c.gather (s.evaluate c.plan) (c.next (s.evaluate c.plan))) ∧
      (c.gather (s.evaluate c.plan) (c.next (s.evaluate c.plan))).unanswered.length ≤
        (c.batch s.clock (c.next (s.evaluate c.plan))).countP
          fun job => job.1.isInFlight c.isBeforeStop := by
  have hpass : c.IsAccounted seed (s.evaluate c.plan) :=
    h.congr (s.requests_evaluate _) (s.outcomes_evaluate _)
  have hopen : (s.evaluate c.plan).unanswered = [] := by
    rwa [State.unanswered_evaluate]
  have hdiscovered := hs.resources_subset_discovered.2
  refine ⟨hpass.gather hopen hdiscovered (c.verdict_eq_none hverdict).2.le, ?_⟩
  rw [← s.clock_evaluate c.plan]
  exact length_unanswered_gather_le hopen fun d hd => hdiscovered (c.next_subset _ hd)

/-- In the states in which passes start the books are in order, and every request has an outcome. -/
theorem Reaches.isAccounted {s : State} (hs : c.Reaches seed s) :
    c.IsAccounted seed s ∧ s.unanswered = [] := by
  induction hs with
  | start =>
    refine ⟨⟨?_, List.nodup_nil, Nat.zero_le _, List.nodup_nil, ?_⟩, rfl⟩
    · intro r hr
      cases hr
    · intro d hd
      cases hd
  | @batch s t hs hverdict hbatch ih =>
    obtain ⟨hbooks, hopen⟩ := ih.1.batch hs ih.2 hverdict
    obtain ⟨hlast, rfl⟩ := c.eq_of_fetchBatch_eq_none hbatch
    refine ⟨hbooks.congr rfl rfl, ?_⟩
    -- Every job of the batch finishes before the crawl is stopped, so none stays in flight.
    have hnone : (c.batch s.clock (c.next (s.evaluate c.plan))).countP
        (fun job => job.1.isInFlight c.isBeforeStop) = 0 := by
      rw [List.countP_eq_zero]
      intro job hjob
      rw [State.clock_evaluate] at hlast
      have hfinish := c.isBeforeStop_of_le (c.finish_le_lastFinish hjob) hlast
      simp [Span.isInFlight, hfinish]
    rw [hnone] at hopen
    exact List.length_eq_zero_iff.1 (Nat.le_zero.1 hopen)

/-! ### How a crawl leaves its books -/

variable (c)

/-- Whether the crawl is stopped in the middle of a batch, when it is cancelled or when its deadline
comes. -/
structure IsInterrupted (seed : Bindings) (r : Resolution) : Prop where
  /-- A batch is not carried out to its end, and the crawl ends with it. -/
  batch : ∃ s t, c.Reaches seed s ∧
    c.verdict (s.evaluate c.plan) (s.evaluate c.plan).pending = none ∧
    c.fetchBatch (s.evaluate c.plan) (c.next (s.evaluate c.plan)) = (t, some r.status) ∧
    r.toState = t
  /-- It ends at the instant at which it is cancelled, or at its deadline. -/
  cause : r.status = .cancelled ∧ c.cancelled = some r.clock ∨
    r.status = .budgetExhausted ∧ c.limits.deadline = some r.clock

/-- However a crawl ends, its books are in order.  Only if it is stopped in the middle of a batch
are there requests without outcome, and no more of them than may be in flight. -/
theorem books_run (seed : Bindings) :
    c.IsAccounted seed (c.run seed).toState ∧
      ((c.run seed).unanswered ≠ [] → c.IsInterrupted seed (c.run seed)) ∧
      (c.run seed).unanswered.length ≤ max 1 c.limits.concurrency := by
  obtain ⟨s, hs, hends⟩ := c.exists_endsAfter_run seed
  obtain ⟨hbooks, hanswered⟩ := hs.isAccounted
  generalize c.run seed = r at hends
  cases hends with
  | verdict hverdict =>
    have hopen : (s.evaluate c.plan).unanswered = [] := by
      rwa [State.unanswered_evaluate]
    refine ⟨hbooks.congr (s.requests_evaluate _) (s.outcomes_evaluate _),
      fun h => absurd hopen h, ?_⟩
    change (s.evaluate c.plan).unanswered.length ≤ _
    rw [hopen]
    exact Nat.zero_le _
  | @stopped t status hverdict hbatch =>
    obtain ⟨hbooks', hopen⟩ := hbooks.batch hs hanswered hverdict
    obtain ⟨stop, hstop, -, rfl, rfl⟩ := c.eq_of_fetchBatch_eq_some hbatch
    refine ⟨hbooks'.congr rfl rfl, fun _ => ⟨⟨s, _, hs, hverdict, hbatch, rfl⟩, ?_⟩, ?_⟩
    · exact c.cause_of_stop hstop
    · refine hopen.trans ?_
      have hroom := countP_isInFlight_schedule_le c.limits.concurrency s.clock
        ((c.next (s.evaluate c.plan)).map c.duration) c.isBeforeStop
        fun t u htu => c.isBeforeStop_of_le htu
      rw [← c.map_fst_batch, List.countP_map] at hroom
      exact hroom

/-- A crawl asks for documents that it discovered, which have no fragment, each once and no more of
them than it may fetch.  Outcomes belong to documents requested, each document has at most one, and
the observer heard of each of them once, in the order in which they were recorded.  Only if the
crawl is stopped in the middle of a batch are there requests without outcome, and no more of them
than may be in flight. -/
theorem isAccounted_run (seed : Bindings) :
    (∀ r ∈ (c.run seed).requests, r.2.method = .get ∧ r.2.iri.hasFragment = false ∧
        r.2.iri ∈ c.discovered seed) ∧
      (c.run seed).requested.Nodup ∧
      (c.run seed).requests.length ≤ c.limits.maxFetches ∧
      (∀ d ∈ (c.run seed).outcomes.map Prod.fst, d ∈ (c.run seed).requested) ∧
      ((c.run seed).outcomes.map Prod.fst).Nodup ∧
      (c.run seed).outcomes = (c.run seed).heard.map Event.entry ∧
      ((c.run seed).unanswered ≠ [] → c.IsInterrupted seed (c.run seed)) ∧
      (c.run seed).unanswered.length ≤ max 1 c.limits.concurrency := by
  obtain ⟨⟨hrequest, hnodup, hlength, hnodup', hmem⟩, hopen, hroom⟩ := c.books_run seed
  refine ⟨fun r hr => ?_, hnodup, hlength, hmem, hnodup', c.outcomes_run seed, hopen, hroom⟩
  obtain ⟨d, hd, hrd⟩ := hrequest r hr
  rw [hrd]
  refine ⟨rfl, d.hasFragment_document, ?_⟩
  rw [iri_documentRequest_of_mem_discovered hd]
  exact hd

/-- Reading what the card refers to until a deadline that comes before the second document does. -/
def hurriedCardCrawl : Setting :=
  { cardCrawl with
    fetcher := (cardWeb.setDelay "a:more" 7).fetcher
    limits := { deadline := some 3 } }

/-- The document that comes too late is requested, but has no outcome. -/
theorem unanswered_hurriedCardCrawl :
    (hurriedCardCrawl.run cardSeed).unanswered = [⟨"a:more"⟩] ∧
      hurriedCardCrawl.IsInterrupted cardSeed (hurriedCardCrawl.run cardSeed) ∧
      (∀ r ∈ (hurriedCardCrawl.run cardSeed).requests, r.2.iri.hasFragment = false) := by
  have hopen : (hurriedCardCrawl.run cardSeed).unanswered = [⟨"a:more"⟩] := by decide +kernel
  obtain ⟨hrequests, -, -, -, -, -, hinterrupted, -⟩ :=
    isAccounted_run hurriedCardCrawl cardSeed
  refine ⟨hopen, hinterrupted ?_, fun r hr => (hrequests r hr).2.1⟩
  rw [hopen]
  exact List.cons_ne_nil _ _

end Setting

end Courier.Crawl
