import Courier.Proofs.Crawl.Reach

/-!
# The timeline of a crawl

Requests and outcomes are noted with the instants at which they happen.  A note is left of every
outcome, so that the outcomes can be read off the notes (`Setting.outcomes_run`).  Nothing is noted
later than the clock says, and whatever a crawl does after some point is noted after what it had
noted by then, and no earlier than the clock said (`Setting.Reaches.precedes_run`).
-/

namespace Courier.Crawl

/-- What a note says of its document. -/
def Event.entry (e : Event) : Iri × Outcome :=
  (e.document, e.outcome)

namespace State

/-- Whether nothing is noted that is later than the clock. -/
structure IsDated (s : State) : Prop where
  /-- No outcome is. -/
  heard : ∀ e ∈ s.heard, e.instant ≤ s.clock
  /-- No request is. -/
  requests : ∀ r ∈ s.requests, r.1 ≤ s.clock

/-- Whether the second state may come later in a crawl than the first: everything noted stays, and
what is added is no earlier than the first state's clock. -/
structure Precedes (s t : State) : Prop where
  /-- The clock does not go back. -/
  clock : s.clock ≤ t.clock
  /-- Outcomes are added at the end. -/
  outcomes : s.outcomes <+: t.outcomes
  /-- So are the notes of them. -/
  heard : ∃ later, t.heard = s.heard ++ later ∧ ∀ e ∈ later, s.clock ≤ e.instant
  /-- Requests are added at the end. -/
  requests : ∃ later, t.requests = s.requests ++ later ∧ ∀ r ∈ later, s.clock ≤ r.1

namespace Precedes

variable {s t u : State}

lemma refl (s : State) : s.Precedes s :=
  ⟨le_rfl, List.prefix_rfl, ⟨[], by simp⟩, ⟨[], by simp⟩⟩

lemma trans (hst : s.Precedes t) (htu : t.Precedes u) : s.Precedes u := by
  obtain ⟨hclock, houtcomes, ⟨events, hheard, hevents⟩, ⟨made, hrequests, hmade⟩⟩ := hst
  obtain ⟨hclock', houtcomes', ⟨events', hheard', hevents'⟩, ⟨made', hrequests', hmade'⟩⟩ := htu
  refine ⟨hclock.trans hclock', houtcomes.trans houtcomes', ⟨events ++ events', ?_, ?_⟩,
    ⟨made ++ made', ?_, ?_⟩⟩
  · rw [hheard', hheard, List.append_assoc]
  · intro e he
    rcases List.mem_append.1 he with he | he
    · exact hevents e he
    · exact hclock.trans (hevents' e he)
  · rw [hrequests', hrequests, List.append_assoc]
  · intro r hr
    rcases List.mem_append.1 hr with hr | hr
    · exact hmade r hr
    · exact hclock.trans (hmade' r hr)

/-- A pass notes nothing. -/
lemma evaluate (s : State) (plan : Plan) : s.Precedes (s.evaluate plan) :=
  ⟨(s.clock_evaluate plan).ge, by simp, ⟨[], by simp⟩, ⟨[], by simp⟩⟩

end Precedes

end State

namespace Setting

variable (c : Setting) {seed : Bindings}

/-! ### Notes -/

/-- Along a crawl a note is left of every outcome, in the order in which outcomes are recorded. -/
lemma isKept_outcomes_eq (seed : Bindings) :
    c.IsKept seed fun s => s.outcomes = s.heard.map Event.entry where
  start := rfl
  evaluate s hs := by
    rw [State.outcomes_evaluate, State.heard_evaluate]
    exact hs
  fetchBatch s _ _ hs := by
    obtain ⟨clock, hfetch⟩ := c.exists_fst_fetchBatch_eq (s.evaluate c.plan)
      (c.next (s.evaluate c.plan))
    rw [hfetch]
    change (c.gather _ _).outcomes = (c.gather _ _).heard.map Event.entry
    rw [(c.records_gather _ _).outcomes, heard_gather, List.map_append, ← hs, List.map_map,
      List.map_map]
    rfl

/-- Whoever listens hears of every outcome, in the order in which outcomes are recorded. -/
theorem outcomes_run (seed : Bindings) :
    (c.run seed).outcomes = (c.run seed).heard.map Event.entry :=
  (c.isKept_outcomes_eq seed).of_run

/-- What a batch notes happens while it lasts. -/
lemma le_of_mem_recorded {now : Nat} {documents : List Iri} {job : Span × Iri}
    (h : job ∈ c.recorded now documents) :
    now ≤ (c.event job).instant ∧ (c.event job).instant ≤ c.lastFinish now documents := by
  obtain ⟨hjob, -⟩ := c.mem_recorded.1 h
  obtain ⟨hstart, hfinish⟩ := le_start_of_mem_batch hjob
  exact ⟨hstart.trans hfinish, c.finish_le_lastFinish hjob⟩

lemma le_of_mem_started {now : Nat} {documents : List Iri} {job : Span × Iri}
    (h : job ∈ c.started now documents) :
    now ≤ (request job).1 ∧ (request job).1 ≤ c.lastFinish now documents := by
  obtain ⟨hjob, -⟩ := List.mem_filter.1 h
  obtain ⟨hstart, hfinish⟩ := le_start_of_mem_batch hjob
  exact ⟨hstart, hfinish.trans (c.finish_le_lastFinish hjob)⟩

variable {c}

/-- Nothing is noted in the states in which passes start that is later than their clock. -/
theorem Reaches.isDated {s : State} (hs : c.Reaches seed s) : s.IsDated := by
  induction hs with
  | start =>
    refine ⟨?_, ?_⟩
    · intro e he
      cases he
    · intro r hr
      cases hr
  | @batch s t hs hverdict hbatch ih =>
    obtain ⟨-, rfl⟩ := c.eq_of_fetchBatch_eq_none hbatch
    have hclock := c.le_lastFinish (s.evaluate c.plan).clock (c.next (s.evaluate c.plan))
    refine ⟨fun e he => ?_, fun r hr => ?_⟩
    · change e ∈ (c.gather _ _).heard at he
      rw [heard_gather, List.mem_append, State.heard_evaluate] at he
      rcases he with he | he
      · refine (ih.heard e he).trans ?_
        rwa [State.clock_evaluate] at hclock ⊢
      · obtain ⟨job, hjob, rfl⟩ := List.mem_map.1 he
        exact (c.le_of_mem_recorded hjob).2
    · change r ∈ (c.gather _ _).requests at hr
      rw [requests_gather, List.mem_append, State.requests_evaluate] at hr
      rcases hr with hr | hr
      · refine (ih.requests r hr).trans ?_
        rwa [State.clock_evaluate] at hclock ⊢
      · obtain ⟨job, hjob, rfl⟩ := List.mem_map.1 hr
        exact (c.le_of_mem_started hjob).2

/-! ### Crawls that nothing stops -/

/-- Whether a crawl has neither a deadline nor a cancellation. -/
def IsUntimed (c : Setting) : Prop :=
  c.limits.deadline = none ∧ c.cancelled = none

/-- A crawl without deadline and cancellation goes on while something is pending and something is
left of its budget. -/
lemma IsUntimed.verdict_eq (hc : c.IsUntimed) (s : State) (pending : List Iri) :
    c.verdict s pending =
      if pending = [] then some .converged
      else if c.limits.maxFetches ≤ s.outcomes.length then some .budgetExhausted
      else none := by
  unfold verdict
  rw [hc.1, hc.2]
  simp

lemma IsUntimed.stop_eq_none (hc : c.IsUntimed) : c.stop = none := by
  unfold stop
  rw [hc.1, hc.2]
  rfl

variable (c) in
lemma precedes_fetchBatch (hstop : c.stop = none) (s : State) (documents : List Iri) :
    s.Precedes (c.fetchBatch s documents).1 := by
  rcases c.fetchBatch_cases s documents with ⟨-, hfetch⟩ | ⟨stop, hsome, -⟩
  · rw [hfetch]
    refine ⟨c.le_lastFinish _ _, ⟨_, (c.records_gather s documents).outcomes.symm⟩,
      ⟨_, c.heard_gather s documents, fun e he => ?_⟩,
      ⟨_, c.requests_gather s documents, fun r hr => ?_⟩⟩
    · obtain ⟨job, hjob, rfl⟩ := List.mem_map.1 he
      exact (c.le_of_mem_recorded hjob).1
    · obtain ⟨job, hjob, rfl⟩ := List.mem_map.1 hr
      exact (c.le_of_mem_started hjob).1
  · rw [hstop] at hsome
    cases hsome

variable (c) in
lemma precedes_passes (hstop : c.stop = none) (fuel : Nat) (s : State) :
    s.Precedes (c.passes fuel s).toState := by
  induction fuel generalizing s with
  | zero =>
    have hpass := State.Precedes.evaluate s c.plan
    unfold passes
    dsimp only
    split
    · exact hpass
    · exact hpass
  | succ fuel ih =>
    have hpass := State.Precedes.evaluate s c.plan
    cases hverdict : c.verdict (s.evaluate c.plan) (s.evaluate c.plan).pending with
    | some status =>
      rw [passes_of_verdict _ hverdict]
      exact hpass
    | none =>
      have hbatch := c.fetchBatch_eq_of_stop_eq_none hstop (s.evaluate c.plan)
        (c.next (s.evaluate c.plan))
      rw [passes_of_batch fuel hverdict hbatch]
      exact (hpass.trans (c.precedes_fetchBatch hstop _ _)).trans (ih _)

/-- A crawl that nothing stops ends later than all the states that it comes to. -/
theorem Reaches.precedes_run (hstop : c.stop = none) {s : State} (hs : c.Reaches seed s) :
    s.Precedes (c.run seed).toState := by
  obtain ⟨fuel, hrun, -⟩ := hs.exists_run_eq
  rw [hrun]
  exact c.precedes_passes hstop fuel s

/-- The state after a batch of a crawl that nothing stops. -/
lemma Reaches.gather (hc : c.IsUntimed) {s : State} (hs : c.Reaches seed s)
    (hverdict : c.verdict (s.evaluate c.plan) (s.evaluate c.plan).pending = none) :
    c.Reaches seed { c.gather (s.evaluate c.plan) (c.next (s.evaluate c.plan)) with
      clock := c.lastFinish (s.evaluate c.plan).clock (c.next (s.evaluate c.plan)) } := by
  rcases c.fetchBatch_cases (s.evaluate c.plan) (c.next (s.evaluate c.plan)) with
    ⟨-, hfetch⟩ | ⟨stop, hstop, -⟩
  · exact .batch hs hverdict hfetch
  · rw [hc.stop_eq_none] at hstop
    cases hstop

/-- A crawl that nothing stops starts and records all jobs of a batch. -/
lemma IsUntimed.started_and_recorded (hc : c.IsUntimed) (now : Nat) (documents : List Iri) :
    c.started now documents = c.batch now documents ∧
      c.recorded now documents = byFinish (c.batch now documents) := by
  refine c.started_and_recorded ?_
  rw [isBeforeStop, hc.stop_eq_none]
  rfl

/-- What a job of a batch does is noted when the crawl ends. -/
lemma Reaches.event_mem_run (hc : c.IsUntimed) {s : State} (hs : c.Reaches seed s)
    (hverdict : c.verdict (s.evaluate c.plan) (s.evaluate c.plan).pending = none)
    {job : Span × Iri}
    (hjob : job ∈ c.batch (s.evaluate c.plan).clock (c.next (s.evaluate c.plan))) :
    c.event job ∈ (c.run seed).heard ∧ request job ∈ (c.run seed).requests := by
  obtain ⟨-, -, ⟨events, hheard, -⟩, ⟨made, hrequests, -⟩⟩ :=
    (hs.gather hc hverdict).precedes_run hc.stop_eq_none
  obtain ⟨hstarted, hrecorded⟩ := hc.started_and_recorded (s.evaluate c.plan).clock
    (c.next (s.evaluate c.plan))
  constructor
  · rw [hheard, heard_gather, hrecorded]
    refine List.mem_append_left _ (List.mem_append_right _ (List.mem_map_of_mem ?_))
    exact (byFinish_perm _).mem_iff.2 hjob
  · rw [hrequests, requests_gather, hstarted]
    exact List.mem_append_left _ (List.mem_append_right _ (List.mem_map_of_mem hjob))

/-- Some outcome of a batch is noted at its last instant. -/
lemma Reaches.exists_instant_eq_lastFinish (hc : c.IsUntimed) {s : State} (hs : c.Reaches seed s)
    (hverdict : c.verdict (s.evaluate c.plan) (s.evaluate c.plan).pending = none) :
    ∃ e ∈ (c.run seed).heard,
      e.instant = c.lastFinish (s.evaluate c.plan).clock (c.next (s.evaluate c.plan)) := by
  obtain ⟨job, hjob, hfinish⟩ := c.exists_finish_eq_lastFinish
    (s.evaluate c.plan).clock (c.next_ne_nil hverdict)
  exact ⟨c.event job, (hs.event_mem_run hc hverdict hjob).1, hfinish⟩

end Setting

end Courier.Crawl
