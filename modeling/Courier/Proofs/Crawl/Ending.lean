import Courier.Proofs.Crawl.Accounting

/-!
# How a crawl ends

The status of a crawl says why it ended.  It converges exactly if everything that it discovered,
from the seed or in any of its passes, has an outcome: a batch that is interrupted or cut short
always leaves a document without one (`Setting.exists_notMem_fetched_of_stopped`).  Otherwise its
documents or its time were used up to the last, or it was cancelled at that very instant.  When
nothing is pending after a pass, neither a limit nor a cancellation keeps the crawl from converging.
-/

namespace Courier.Crawl.Setting

variable (c : Setting) {seed : Bindings}

/-! ### What was discovered -/

/-- Nothing that a pass has discovered is forgotten until the crawl ends. -/
lemma resources_subset_passes (fuel : Nat) (s : State) :
    (s.evaluate c.plan).resources.toSet ⊆ (c.passes fuel s).resources.toSet := by
  induction fuel generalizing s with
  | zero =>
    unfold passes
    dsimp only
    split
    · exact subset_rfl
    · exact subset_rfl
  | succ fuel ih =>
    cases hverdict : c.verdict (s.evaluate c.plan) (s.evaluate c.plan).pending with
    | some status =>
      rw [passes_of_verdict _ hverdict]
    | none =>
      have hrecords := c.records_fetchBatch (s.evaluate c.plan) (c.next (s.evaluate c.plan))
      cases hbatch : c.fetchBatch (s.evaluate c.plan) (c.next (s.evaluate c.plan)) with
      | mk t ending =>
        rw [hbatch] at hrecords
        have ht : (s.evaluate c.plan).resources.toSet ⊆ t.resources.toSet := by
          rw [hrecords.resources]
        cases ending with
        | some status =>
          rw [passes_of_stopped fuel hverdict hbatch]
          exact ht
        | none =>
          rw [passes_of_batch fuel hverdict hbatch]
          refine ht.trans (subset_trans ?_ (ih t))
          rw [State.resources_evaluate]
          exact Set.subset_union_left

/-- When a crawl ends it lists what it discovered, from the seed and in all its passes. -/
theorem resources_run (seed : Bindings) :
    (c.run seed).resources.toSet = c.discovered seed := by
  refine subset_antisymm ?_ ?_
  · obtain ⟨s, hs⟩ := c.exists_isLastPass_run seed
    rw [hs.resources_eq]
    exact hs.reaches.resources_subset_discovered.2
  · have hkept : ∀ {s : State}, c.Reaches seed s →
        (s.evaluate c.plan).resources.toSet ⊆ (c.run seed).resources.toSet := by
      intro s hs
      obtain ⟨fuel, hrun, -⟩ := hs.exists_run_eq
      rw [hrun]
      exact c.resources_subset_passes fuel s
    rintro d (hd | ⟨s, hs, i, hi, rfl⟩)
    · refine hkept .start (State.mem_resources_evaluate.2 (Or.inl ?_))
      rw [State.resources_start]
      exact hd
    · exact hkept hs (State.mem_resources_evaluate.2 (Or.inr ⟨i, hi, rfl⟩))

/-! ### Batches that are stopped -/

/-- A batch in which a crawl is stopped leaves one of its documents without an outcome: the one that
would have finished last. -/
lemma exists_notMem_fetched_of_stopped {s t : State} {documents : List Iri} {status : Status}
    (h : c.fetchBatch s documents = (t, some status)) (hne : documents ≠ [])
    (hnodup : documents.Nodup) (hnew : ∀ d ∈ documents, d ∉ s.fetched) :
    ∃ d ∈ documents, d ∉ t.fetched := by
  have hrecords := c.records_fetchBatch s documents
  rw [h] at hrecords
  obtain ⟨stop, hstop, hlast, -, -⟩ := c.eq_of_fetchBatch_eq_some h
  obtain ⟨job, hjob, hfinish⟩ := c.exists_finish_eq_lastFinish s.clock hne
  have hdocument := snd_mem_of_mem_batch hjob
  refine ⟨job.2, hdocument, fun hfetched => ?_⟩
  rw [hrecords.fetched, Set.mem_union, Set.mem_ofPred_eq] at hfetched
  obtain ⟨other, hother, heq⟩ := List.mem_map.1 (hfetched.resolve_left (hnew _ hdocument))
  obtain ⟨hother, hbefore⟩ := c.mem_recorded.1 hother
  -- No other job of the batch is for the same document.
  rw [← c.map_snd_batch s.clock documents] at hnodup
  obtain rfl : other = job := List.inj_on_of_nodup_map hnodup hother hjob heq
  rw [isBeforeStop, hstop, hfinish] at hbefore
  change stop.admits _ = true at hbefore
  rw [hlast] at hbefore
  cases hbefore

/-! ### The clock -/

/-- Batches keep the deadline. -/
lemma clock_fetchBatch_le_deadline (s : State) (documents : List Iri) :
    ∀ e ∈ c.limits.deadline, (c.fetchBatch s documents).1.clock ≤ e := by
  rcases c.fetchBatch_cases s documents with ⟨hlast, hfetch⟩ | ⟨stop, hstop, -, hfetch⟩
  · rw [hfetch]
    exact c.le_deadline_of_isBeforeStop hlast
  · rw [hfetch]
    exact (c.instant_le_of_stop hstop).2

/-- So the clock never passes the deadline. -/
lemma isKept_clock_le_deadline (seed : Bindings) :
    c.IsKept seed fun s => ∀ e ∈ c.limits.deadline, s.clock ≤ e where
  start e _ := Nat.zero_le e
  evaluate s hs := by
    rw [State.clock_evaluate]
    exact hs
  fetchBatch s _ _ _ := c.clock_fetchBatch_le_deadline _ _

variable {c} in
/-- A crawl that is cancelled before it starts does not get beyond its first pass. -/
lemma Reaches.eq_start_of_cancelled {s : State} (hs : c.Reaches seed s)
    (hcancelled : c.cancelled = some 0) : s = .start seed := by
  cases hs with
  | start => rfl
  | batch hs hverdict hbatch =>
    have hpending := (c.verdict_eq_none hverdict).1
    unfold verdict at hverdict
    rw [if_neg (by simpa using hpending), if_pos hcancelled] at hverdict
    cases hverdict

/-! ### The verdict -/

variable {c} in
/-- What a verdict other than that the crawl converges rests on. -/
lemma Reaches.cause_of_verdict {s : State} (hs : c.Reaches seed s) {status : Status}
    (h : c.verdict (s.evaluate c.plan) (s.evaluate c.plan).pending = some status) :
    (status = .budgetExhausted → s.outcomes.length = c.limits.maxFetches ∨
        c.limits.deadline = some s.clock) ∧
      (status = .cancelled → c.cancelled = some s.clock) := by
  unfold verdict at h
  rw [State.outcomes_evaluate, State.clock_evaluate] at h
  split_ifs at h with hempty hcancelled hbudget
  · cases h
    exact ⟨fun h => (nomatch h), fun h => (nomatch h)⟩
  · cases h
    refine ⟨fun h => (nomatch h), fun _ => ?_⟩
    rw [hs.eq_start_of_cancelled hcancelled]
    exact hcancelled
  · cases h
    refine ⟨fun _ => ?_, fun h => (nomatch h)⟩
    rw [Bool.or_eq_true, decide_eq_true_eq] at hbudget
    rcases hbudget with hspent | hlate
    · exact Or.inl (le_antisymm hs.isAccounted.1.length_outcomes_le hspent)
    · -- The deadline has come, and it has not passed.
      right
      cases hdeadline : c.limits.deadline with
      | none =>
        rw [hdeadline] at hlate
        cases hlate
      | some e =>
        rw [hdeadline] at hlate
        have hle : s.clock ≤ e := (c.isKept_clock_le_deadline seed).of_reaches hs e hdeadline
        rw [le_antisymm hle (of_decide_eq_true hlate)]

/-! ### The status -/

variable {c} in
/-- A crawl that ends converges exactly if everything that it lists for reading has an outcome. -/
theorem EndsAfter.status_eq_converged_iff {s : State} {r : Resolution} (h : c.EndsAfter s r) :
    r.status = .converged ↔ r.resources.toSet ⊆ r.fetched := by
  cases h with
  | @verdict status hverdict =>
    change status = .converged ↔ (s.evaluate c.plan).resources.toSet ⊆ (s.evaluate c.plan).fetched
    rw [← State.pending_eq_nil_iff, ← c.verdict_eq_converged_iff (s := s.evaluate c.plan), hverdict,
      Option.some_inj]
  | @stopped t status hverdict hbatch =>
    constructor
    · intro hstatus
      have hne := c.snd_fetchBatch_ne_converged (s.evaluate c.plan) (c.next (s.evaluate c.plan))
      rw [hbatch] at hne
      exact absurd (congrArg some hstatus) hne
    · intro hfetched
      have hrecords := c.records_fetchBatch (s.evaluate c.plan) (c.next (s.evaluate c.plan))
      rw [hbatch] at hrecords
      obtain ⟨d, hd, hopen⟩ := c.exists_notMem_fetched_of_stopped hbatch (c.next_ne_nil hverdict)
        ((s.evaluate c.plan).nodup_pending.sublist (List.take_sublist _ _))
        fun d hd => (State.mem_pending.1 (List.mem_of_mem_take hd)).2
      refine absurd (hfetched ?_) hopen
      change d ∈ t.resources.toSet
      rw [hrecords.resources]
      exact c.next_subset _ hd

variable {c} in
/-- A crawl that ends otherwise has used up its documents or its time, or is cancelled then. -/
theorem EndsAfter.cause {s : State} {r : Resolution} (hs : c.Reaches seed s)
    (h : c.EndsAfter s r) :
    (r.status = .budgetExhausted → r.outcomes.length = c.limits.maxFetches ∨
        c.limits.deadline = some r.clock) ∧
      (r.status = .cancelled → c.cancelled = some r.clock) := by
  cases h with
  | @verdict status hverdict =>
    have hcause := hs.cause_of_verdict hverdict
    rw [← s.outcomes_evaluate c.plan, ← s.clock_evaluate c.plan] at hcause
    exact hcause
  | @stopped t status hverdict hbatch =>
    obtain ⟨stop, hstop, -, rfl, rfl⟩ := c.eq_of_fetchBatch_eq_some hbatch
    rcases c.cause_of_stop hstop with ⟨hstatus, hcause⟩ | ⟨hstatus, hcause⟩
    · refine ⟨fun h => ?_, fun _ => hcause⟩
      cases hstatus.symm.trans h
    · refine ⟨fun _ => Or.inr hcause, fun h => ?_⟩
      cases hstatus.symm.trans h

/-- The status of a crawl is true.  It has converged exactly if every document that it discovered,
from the seed or in any pass, has an outcome.  If its budget is exhausted, it has as many outcomes
as documents may be fetched, or ends at its deadline; if it is cancelled, it ends when it is.  And
whatever its limits and whether or not it is cancelled, it converges when a pass leaves nothing
pending. -/
theorem status_run (c : Setting) (seed : Bindings) :
    ((c.run seed).status = .converged ↔ c.discovered seed ⊆ (c.run seed).fetched) ∧
      ((c.run seed).status = .budgetExhausted →
        (c.run seed).outcomes.length = c.limits.maxFetches ∨
          c.limits.deadline = some (c.run seed).clock) ∧
      ((c.run seed).status = .cancelled → c.cancelled = some (c.run seed).clock) ∧
      ∀ s, c.Reaches seed s → (s.evaluate c.plan).pending = [] →
        c.run seed = { s.evaluate c.plan with status := .converged } := by
  obtain ⟨s, hs, hends⟩ := c.exists_endsAfter_run seed
  obtain ⟨hexhausted, hcancelled⟩ := hends.cause hs
  refine ⟨?_, hexhausted, hcancelled, fun t ht hpending => ?_⟩
  · rw [← c.resources_run seed]
    exact hends.status_eq_converged_iff
  · exact ht.run_eq (.verdict (c.verdict_eq_converged_iff.2 hpending))

/-- Reading the card until the crawl is cancelled, which is before the second document comes. -/
def cancelledCardCrawl : Setting :=
  { hurriedCardCrawl with
    limits := {}
    cancelled := some 2 }

/-- Reading nothing at all: there is neither time nor a document to spend, and the crawl is
cancelled before it starts. -/
def idleCardCrawl : Setting :=
  { cardCrawl with
    limits := { maxFetches := 0, deadline := some 0 }
    cancelled := some 0 }

/-- The crawl of the card that has all the time converges, the one with a deadline ends with it, the
one that is cancelled ends then, and one without a seed converges although it is cancelled. -/
theorem status_run_cardCrawls :
    cardCrawl.discovered cardSeed ⊆ (cardCrawl.run cardSeed).fetched ∧
      (hurriedCardCrawl.run cardSeed).status = .budgetExhausted ∧
      hurriedCardCrawl.limits.deadline = some (hurriedCardCrawl.run cardSeed).clock ∧
      (cancelledCardCrawl.run cardSeed).status = .cancelled ∧
      cancelledCardCrawl.cancelled = some (cancelledCardCrawl.run cardSeed).clock ∧
      (idleCardCrawl.run .empty).status = .converged := by
  obtain ⟨hconverged, -, -, -⟩ := status_run cardCrawl cardSeed
  obtain ⟨-, hexhausted, -, -⟩ := status_run hurriedCardCrawl cardSeed
  obtain ⟨-, -, hcancelled, -⟩ := status_run cancelledCardCrawl cardSeed
  obtain ⟨-, -, -, hwins⟩ := status_run idleCardCrawl .empty
  have hstatus : (hurriedCardCrawl.run cardSeed).status = .budgetExhausted := by decide +kernel
  have hstatus' : (cancelledCardCrawl.run cardSeed).status = .cancelled := by decide +kernel
  have hfew : (hurriedCardCrawl.run cardSeed).outcomes.length ≠
      hurriedCardCrawl.limits.maxFetches := by decide +kernel
  have hidle : idleCardCrawl.run .empty =
      { (State.start .empty).evaluate idleCardCrawl.plan with status := .converged } :=
    hwins _ .start (by decide +kernel)
  exact ⟨hconverged.1 status_run_cardCrawl, hstatus, (hexhausted hstatus).resolve_left hfew,
    hstatus', hcancelled hstatus', by rw [hidle]⟩

end Courier.Crawl.Setting
