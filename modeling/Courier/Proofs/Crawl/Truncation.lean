import Courier.Proofs.Crawl.Accounting

/-!
# Crawls that are stopped

A deadline or a cancellation only cuts a crawl short.  Until it is stopped the crawl goes through
the same states as without a deadline and a cancellation (`Setting.Reaches.of_timed`), and the batch
in which it is stopped is carried out up to that instant.  So it ends with what the other crawl had
noted before the instant, unless the other crawl was done by then; in that case nothing changes.

At one instant the deadline comes before anything else.  A cancellation comes last, so it is asked
that nothing else happens at its instant; only a cancellation at the very start comes first.
-/

namespace Courier.Crawl.Setting

variable (c : Setting) {seed : Bindings}

/-- The crawl with another cancellation and another deadline. -/
def timed (cancelled deadline : Option Nat) : Setting :=
  { c with
    cancelled
    limits := { c.limits with deadline } }

/-- Whether the crawl makes no request at the instant and records no outcome. -/
def IsQuietAt (seed : Bindings) (t : Nat) : Prop :=
  (∀ e ∈ (c.run seed).heard, e.instant ≠ t) ∧ ∀ r ∈ (c.run seed).requests, r.1 ≠ t

/-- Whether another crawl ends as this one would if it were cut off at the instant. -/
structure IsCutAt (seed : Bindings) (t : Nat) (status : Status) (r : Resolution) : Prop where
  /-- It says how it ended. -/
  status_eq : r.status = status
  /-- It ends at the instant. -/
  clock_eq : r.clock = t
  /-- It has recorded the outcomes that this crawl records before the instant, in the same order. -/
  outcomes_eq : r.outcomes = ((c.run seed).heard.filter (·.instant < t)).map Event.entry
  /-- It has recorded them at the same time. -/
  heard_eq : r.heard = (c.run seed).heard.filter (·.instant < t)
  /-- It has made the requests that this crawl makes before the instant. -/
  requests_eq : r.requests = (c.run seed).requests.filter (·.1 < t)
  /-- It holds what the documents with an outcome assert. -/
  facts_eq : r.store.quads.toSet = c.assertions r.fetched
  /-- Its bindings are those of this crawl after as many passes. -/
  bindings_eq : ∃ s, c.Reaches seed s ∧ (s.evaluate c.plan).passes = r.passes ∧
    (s.evaluate c.plan).bindings = r.bindings

/-- Whether another crawl ends as this one does if that has recorded all its outcomes before the
instant, and as this one cut off at the instant if not. -/
def IsTruncation (seed : Bindings) (t : Nat) (status : Status) (r : Resolution) : Prop :=
  ((∀ e ∈ (c.run seed).heard, e.instant < t) → r = c.run seed) ∧
    ((∃ e ∈ (c.run seed).heard, t ≤ e.instant) → c.IsCutAt seed t status r)

/-! ### The stop -/

section Stop

variable {c} {x y : Option Nat} {stop : Stop}

/-- The verdict with a deadline and a cancellation. -/
lemma verdict_timed (s : State) (pending : List Iri) :
    (c.timed x y).verdict s pending =
      if pending = [] then some .converged
      else if x = some 0 then some .cancelled
      else if c.limits.maxFetches ≤ s.outcomes.length ∨ ∃ e ∈ y, e ≤ s.clock then
        some .budgetExhausted
      else none := by
  have hdeadline : y.any (· ≤ s.clock) = true ↔ ∃ e ∈ y, e ≤ s.clock := by
    cases y <;> simp
  unfold verdict timed
  simp only [List.isEmpty_iff, Bool.or_eq_true, decide_eq_true_eq, hdeadline]

/-- A crawl with a deadline goes on only if it goes on without. -/
lemma verdict_eq_none_of_timed (hc : c.IsUntimed) {s : State} {pending : List Iri}
    (h : (c.timed x y).verdict s pending = none) : c.verdict s pending = none := by
  rw [verdict_timed] at h
  split_ifs at h with hempty hcancelled hbudget
  rw [hc.verdict_eq, if_neg hempty, if_neg fun hle => hbudget (Or.inl hle)]

/-- Before the crawl is stopped, the verdict is the same. -/
lemma verdict_timed_of_lt (hc : c.IsUntimed) (hstop : (c.timed x y).stop = some stop) {s : State}
    (hclock : s.clock < stop.instant) (pending : List Iri) :
    (c.timed x y).verdict s pending = c.verdict s pending := by
  obtain ⟨hx, hy⟩ := (c.timed x y).instant_le_of_stop hstop
  have hcancelled : x ≠ some 0 := by
    rintro rfl
    have hle := hx 0 rfl
    omega
  have hdeadline : ¬ ∃ e ∈ y, e ≤ s.clock := by
    rintro ⟨e, he, hle⟩
    have hle' := hy e he
    omega
  rw [verdict_timed, hc.verdict_eq, if_neg hcancelled]
  simp only [hdeadline, or_false]

/-- A crawl that is cancelled at the very start is stopped by that. -/
lemma status_of_stop_timed_zero (hstop : (c.timed (some 0) y).stop = some stop) :
    stop.status = .cancelled := by
  unfold Setting.stop timed at hstop
  cases y with
  | none =>
    cases hstop
    rfl
  | some e =>
    simp only [Option.map_some, true_or, if_true] at hstop
    cases hstop
    rfl

/-- A crawl that is stopped at the very start ends after its first pass, unless it converges. -/
lemma verdict_timed_of_instant_eq_zero (hstop : (c.timed x y).stop = some stop)
    (hzero : stop.instant = 0) (s : State) {pending : List Iri} (hpending : pending ≠ []) :
    (c.timed x y).verdict s pending = some stop.status := by
  rw [verdict_timed, if_neg hpending]
  by_cases hcancelled : x = some 0
  · subst hcancelled
    rw [if_pos rfl, status_of_stop_timed_zero hstop]
  · rcases (c.timed x y).cause_of_stop hstop with ⟨-, hx⟩ | ⟨hstatus, hy⟩
    · rw [hzero] at hx
      exact absurd hx hcancelled
    · rw [hzero] at hy
      rw [if_neg hcancelled, if_pos (Or.inr ⟨0, hy, Nat.zero_le _⟩), hstatus]

end Stop

/-! ### The states that both crawls come to -/

section Common

variable {c} {x y : Option Nat} {stop : Stop} {s : State}

/-- A batch that ends before the crawl is stopped is carried out in full. -/
lemma IsUntimed.gather_timed (hc : c.IsUntimed) {documents : List Iri}
    (h : (c.timed x y).isBeforeStop (c.lastFinish s.clock documents) = true) :
    (c.timed x y).gather s documents = c.gather s documents := by
  obtain ⟨hstarted, hrecorded⟩ := hc.started_and_recorded s.clock documents
  obtain ⟨hstarted', hrecorded'⟩ := (c.timed x y).started_and_recorded h
  have hsame : (c.timed x y).started s.clock documents = c.started s.clock documents :=
    hstarted'.trans hstarted.symm
  have hsame' : (c.timed x y).recorded s.clock documents = c.recorded s.clock documents :=
    hrecorded'.trans hrecorded.symm
  unfold Setting.gather
  rw [hsame, hsame']
  rfl

/-- Until it is stopped, a crawl comes to the states of the crawl that nothing stops. -/
theorem Reaches.of_timed (hc : c.IsUntimed) (hstop : (c.timed x y).stop = some stop)
    (hquiet : stop.last = true → c.IsQuietAt seed stop.instant)
    (hs : (c.timed x y).Reaches seed s) :
    c.Reaches seed s ∧ (s.clock < stop.instant ∨ s = .start seed) := by
  induction hs with
  | start => exact ⟨.start, Or.inr rfl⟩
  | @batch s t hs hverdict hbatch ih =>
    have hgo : c.verdict (s.evaluate c.plan) (s.evaluate c.plan).pending = none :=
      verdict_eq_none_of_timed hc hverdict
    obtain ⟨hlast, rfl⟩ := (c.timed x y).eq_of_fetchBatch_eq_none hbatch
    have hgather : (c.timed x y).gather (s.evaluate c.plan) (c.next (s.evaluate c.plan)) =
        c.gather (s.evaluate c.plan) (c.next (s.evaluate c.plan)) := hc.gather_timed hlast
    have ht := ih.1.gather hc hgo
    rw [← hgather] at ht
    refine ⟨ht, Or.inl ?_⟩
    -- Some job finishes when the batch does, and nothing happens at the instant of a late stop.
    obtain ⟨e, he, hfinish⟩ := ih.1.exists_instant_eq_lastFinish hc hgo
    have hadmits : stop.admits (c.lastFinish (s.evaluate c.plan).clock
        (c.next (s.evaluate c.plan))) = true := by
      rw [isBeforeStop, hstop] at hlast
      exact hlast
    simp only [Stop.admits, Bool.or_eq_true, decide_eq_true_eq, Bool.and_eq_true,
      beq_iff_eq] at hadmits
    rcases hadmits with hlt | ⟨hlate, heq⟩
    · exact hlt
    · exact absurd (hfinish.trans heq) ((hquiet hlate).1 e he)

/-- Whatever was noted in a state reached before an instant happened before it. -/
lemma Reaches.lt_of_clock_lt (hs : c.Reaches seed s) {t : Nat}
    (hearly : s.clock < t ∨ s = .start seed) :
    (∀ e ∈ s.heard, e.instant < t) ∧ ∀ r ∈ s.requests, r.1 < t := by
  rcases hearly with hclock | rfl
  · exact ⟨fun e he => (hs.isDated.heard e he).trans_lt hclock,
      fun r hr => (hs.isDated.requests r hr).trans_lt hclock⟩
  · refine ⟨?_, ?_⟩
    · intro e he
      cases he
    · intro r hr
      cases hr

/-- What a crawl has noted before an instant that comes before the end of a batch. -/
lemma Reaches.noted_before (hc : c.IsUntimed) (hs : c.Reaches seed s)
    (hverdict : c.verdict (s.evaluate c.plan) (s.evaluate c.plan).pending = none) {t : Nat}
    (hearly : s.clock < t ∨ s = .start seed)
    (hlate : t ≤ c.lastFinish (s.evaluate c.plan).clock (c.next (s.evaluate c.plan))) :
    (c.run seed).heard.filter (·.instant < t) = (s.evaluate c.plan).heard ++
        ((byFinish (c.batch (s.evaluate c.plan).clock (c.next (s.evaluate c.plan)))).filter
          (·.1.finish < t)).map c.event ∧
      (c.run seed).requests.filter (·.1 < t) = (s.evaluate c.plan).requests ++
        ((c.batch (s.evaluate c.plan).clock (c.next (s.evaluate c.plan))).filter
          (·.1.start < t)).map request := by
  obtain ⟨-, -, ⟨events, hheard, hevents⟩, ⟨made, hrequests, hmade⟩⟩ :=
    (hs.gather hc hverdict).precedes_run hc.stop_eq_none
  obtain ⟨hstarted, hrecorded⟩ := hc.started_and_recorded (s.evaluate c.plan).clock
    (c.next (s.evaluate c.plan))
  obtain ⟨hbefore, hbefore'⟩ := hs.lt_of_clock_lt hearly
  constructor
  · have hold : s.heard.filter (·.instant < t) = s.heard :=
      List.filter_eq_self.2 fun e he => decide_eq_true (hbefore e he)
    have hnew : events.filter (·.instant < t) = [] :=
      List.filter_eq_nil_iff.2 fun e he => by simpa using hlate.trans (hevents e he)
    rw [hheard, List.filter_append, hnew, List.append_nil, heard_gather, hrecorded,
      List.filter_append, State.heard_evaluate, hold, List.filter_map]
    rfl
  · have hold : s.requests.filter (·.1 < t) = s.requests :=
      List.filter_eq_self.2 fun r hr => decide_eq_true (hbefore' r hr)
    have hnew : made.filter (·.1 < t) = [] :=
      List.filter_eq_nil_iff.2 fun r hr => by simpa using hlate.trans (hmade r hr)
    rw [hrequests, List.filter_append, hnew, List.append_nil, requests_gather, hstarted,
      List.filter_append, State.requests_evaluate, hold, List.filter_map]
    rfl

/-- If nothing happens at the instant of a late stop, what comes before the stop is what comes
before its instant. -/
lemma started_and_recorded_timed (hc : c.IsUntimed) (hstop : (c.timed x y).stop = some stop)
    (hquiet : stop.last = true → c.IsQuietAt seed stop.instant) (hs : c.Reaches seed s)
    (hverdict : c.verdict (s.evaluate c.plan) (s.evaluate c.plan).pending = none) :
    (c.timed x y).started (s.evaluate c.plan).clock (c.next (s.evaluate c.plan)) =
        (c.batch (s.evaluate c.plan).clock (c.next (s.evaluate c.plan))).filter
          (·.1.start < stop.instant) ∧
      (c.timed x y).recorded (s.evaluate c.plan).clock (c.next (s.evaluate c.plan)) =
        (byFinish (c.batch (s.evaluate c.plan).clock (c.next (s.evaluate c.plan)))).filter
          (·.1.finish < stop.instant) := by
  have hadmits : ∀ t, (stop.last = true → t ≠ stop.instant) →
      (c.timed x y).isBeforeStop t = decide (t < stop.instant) := by
    intro t ht
    have hbefore : (c.timed x y).isBeforeStop t = stop.admits t := by
      rw [isBeforeStop, hstop]
      rfl
    rw [hbefore, Stop.admits, Bool.or_eq_left_iff_imp]
    intro hlate
    rw [Bool.and_eq_true, beq_iff_eq] at hlate
    exact absurd hlate.2 (ht hlate.1)
  constructor
  · refine List.filter_congr fun job hjob => hadmits _ fun hlate => ?_
    exact (hquiet hlate).2 _ (hs.event_mem_run hc hverdict hjob).2
  · refine List.filter_congr fun job hjob => hadmits _ fun hlate => ?_
    have hjob' := (byFinish_perm _).mem_iff.1 hjob
    exact (hquiet hlate).1 _ (hs.event_mem_run hc hverdict hjob').1

end Common

/-! ### How a crawl is cut short -/

section Cut

variable {c} {x y : Option Nat} {stop : Stop}

/-- If the crawl ends after a pass before which it was not stopped, it ends there in the same way
with a stop. -/
lemma verdict_timed_eq_some (hc : c.IsUntimed) (hfetches : 0 < c.limits.maxFetches)
    (hstop : (c.timed x y).stop = some stop) {s : State} {status : Status}
    (hearly : s.clock < stop.instant ∨ s = .start seed)
    (h : c.verdict (s.evaluate c.plan) (s.evaluate c.plan).pending = some status) :
    (c.timed x y).verdict (s.evaluate c.plan) (s.evaluate c.plan).pending = some status := by
  rcases hearly with hclock | rfl
  · rw [← s.clock_evaluate c.plan] at hclock
    rw [verdict_timed_of_lt hc hstop hclock, h]
  · -- Nothing of the budget is spent at the start, so the crawl ends only if nothing is pending.
    rw [hc.verdict_eq, State.outcomes_evaluate] at h
    split_ifs at h with hempty hbudget
    · cases h
      exact (c.timed x y).verdict_eq_converged_iff.2 hempty
    · exact absurd hbudget (Nat.not_le.2 hfetches)

/-- The facts of a crawl that is stopped are those of the documents with an outcome, and its
bindings are those of the last pass that it shares with the crawl that nothing stops. -/
lemma isCutAt_of_noted (hc : c.IsUntimed) (hstop : (c.timed x y).stop = some stop)
    (hquiet : stop.last = true → c.IsQuietAt seed stop.instant)
    (hstatus : ((c.timed x y).run seed).status = stop.status)
    (hclock : ((c.timed x y).run seed).clock = stop.instant)
    (hheard : ((c.timed x y).run seed).heard =
      (c.run seed).heard.filter (·.instant < stop.instant))
    (hrequests : ((c.timed x y).run seed).requests =
      (c.run seed).requests.filter (·.1 < stop.instant)) :
    c.IsCutAt seed stop.instant stop.status ((c.timed x y).run seed) := by
  obtain ⟨s, hs⟩ := (c.timed x y).exists_isLastPass_run seed
  refine ⟨hstatus, hclock, ?_, hheard, hrequests, hs.facts_eq, s,
    (Reaches.of_timed hc hstop hquiet hs.reaches).1, hs.passes_eq.symm, hs.bindings_eq.symm⟩
  rw [(c.timed x y).outcomes_run, hheard]

/-- A crawl that is stopped is cut short at that instant, if it was not done by then. -/
theorem isTruncation_of_stop (hc : c.IsUntimed) (hfetches : 0 < c.limits.maxFetches)
    (hstop : (c.timed x y).stop = some stop)
    (hquiet : stop.last = true → c.IsQuietAt seed stop.instant) :
    c.IsTruncation seed stop.instant stop.status ((c.timed x y).run seed) := by
  obtain ⟨s, hs, hends⟩ := (c.timed x y).exists_endsAfter_run seed
  obtain ⟨hs', hearly⟩ := Reaches.of_timed hc hstop hquiet hs
  have hcut := isCutAt_of_noted hc hstop hquiet
  generalize (c.timed x y).run seed = r at hends hcut
  -- The other crawl goes on after the pass: then it has an outcome that comes too late.
  have hdone : c.verdict (s.evaluate c.plan) (s.evaluate c.plan).pending = none →
      stop.instant ≤ c.lastFinish (s.evaluate c.plan).clock (c.next (s.evaluate c.plan)) →
      ¬ ∀ e ∈ (c.run seed).heard, e.instant < stop.instant := by
    intro hgo hlast hall
    obtain ⟨e, he, hfinish⟩ := hs'.exists_instant_eq_lastFinish hc hgo
    exact absurd (hall e he) (hfinish ▸ hlast).not_gt
  cases hends with
  | @verdict status hverdict =>
    cases hgo : c.verdict (s.evaluate c.plan) (s.evaluate c.plan).pending with
    | some status' =>
      -- Both crawls end after the pass.
      have hverdict' := verdict_timed_eq_some hc hfetches hstop hearly hgo
      obtain rfl : status' = status := Option.some.inj (hverdict'.symm.trans hverdict)
      have hrun : c.run seed = { s.evaluate c.plan with status := status' } :=
        hs'.run_eq (.verdict hgo)
      refine ⟨fun _ => hrun.symm, fun ⟨e, he, hle⟩ => ?_⟩
      rw [hrun] at he
      change e ∈ (s.evaluate c.plan).heard at he
      rw [State.heard_evaluate] at he
      exact absurd ((hs'.lt_of_clock_lt hearly).1 e he) hle.not_gt
    | none =>
      -- The crawl is stopped at the very start.
      have hlate : ¬ s.clock < stop.instant := by
        intro hclock
        rw [← s.clock_evaluate c.plan] at hclock
        have hsame := verdict_timed_of_lt hc hstop hclock (s.evaluate c.plan).pending
        rw [hgo] at hsame
        cases hsame.symm.trans hverdict
      obtain rfl : s = .start seed := hearly.resolve_left hlate
      have hzero : stop.instant = 0 := Nat.eq_zero_of_not_pos hlate
      have hpending := (c.verdict_eq_none hgo).1
      have hstatus := verdict_timed_of_instant_eq_zero hstop hzero
        ((State.start seed).evaluate c.plan) hpending
      obtain rfl : stop.status = status := Option.some.inj (hstatus.symm.trans hverdict)
      refine ⟨fun hall => absurd hall (hdone hgo (hzero ▸ Nat.zero_le _)),
        fun _ => hcut rfl ?_ ?_ ?_⟩
      · rw [hzero]
        exact (State.start seed).clock_evaluate c.plan
      · simp [hzero, State.start]
      · simp [hzero, State.start]
  | @stopped t status hverdict hbatch =>
    have hgo : c.verdict (s.evaluate c.plan) (s.evaluate c.plan).pending = none :=
      verdict_eq_none_of_timed hc hverdict
    obtain ⟨stop', hstop', hlast, rfl, rfl⟩ := (c.timed x y).eq_of_fetchBatch_eq_some hbatch
    obtain rfl : stop' = stop := Option.some.inj (hstop'.symm.trans hstop)
    have hlate : stop'.instant ≤
        c.lastFinish (s.evaluate c.plan).clock (c.next (s.evaluate c.plan)) :=
      Stop.instant_le_of_admits_eq_false hlast
    obtain ⟨hstarted, hrecorded⟩ := started_and_recorded_timed hc hstop hquiet hs' hgo
    obtain ⟨hheard, hrequests⟩ := hs'.noted_before hc hgo hearly hlate
    refine ⟨fun hall => absurd hall (hdone hgo hlate), fun _ => hcut rfl rfl ?_ ?_⟩
    · rw [hheard, ← hrecorded]
      exact (c.timed x y).heard_gather _ _
    · rw [hrequests, ← hstarted]
      exact (c.timed x y).requests_gather _ _

end Cut

/-- A deadline, or a cancellation at an instant at which nothing else happens, changes nothing of a
crawl that is done by then.  Otherwise the crawl ends at that instant, with the outcomes recorded
and the requests made before it, and with the bindings of the last pass before it.  Every outcome
has a note that says when it was recorded. -/
theorem run_timed (c : Setting) (seed : Bindings) (hc : c.IsUntimed)
    (hfetches : 0 < c.limits.maxFetches) (t : Nat) :
    (c.run seed).outcomes = (c.run seed).heard.map Event.entry ∧
      c.IsTruncation seed t .budgetExhausted ((c.timed none (some t)).run seed) ∧
      (t = 0 ∨ c.IsQuietAt seed t →
        c.IsTruncation seed t .cancelled ((c.timed (some t) none).run seed)) := by
  refine ⟨c.outcomes_run seed, ?_, fun hquiet => ?_⟩
  · have hstop : (c.timed none (some t)).stop = some ⟨t, false, .budgetExhausted⟩ := rfl
    exact isTruncation_of_stop hc hfetches hstop fun hlate => by cases hlate
  · have hstop : (c.timed (some t) none).stop = some ⟨t, t != 0, .cancelled⟩ := rfl
    refine isTruncation_of_stop hc hfetches hstop fun hlate => ?_
    exact hquiet.resolve_left (bne_iff_ne.1 hlate)

/-- Reading what the card refers to, one document of which takes its time. -/
def patientCardCrawl : Setting :=
  { cardCrawl with fetcher := (cardWeb.setDelay "a:more" 7).fetcher }

/-- The crawl that waits for the slow document ends without it at an earlier deadline. -/
theorem run_timed_patientCardCrawl :
    patientCardCrawl.IsUntimed ∧ 0 < patientCardCrawl.limits.maxFetches ∧
      (patientCardCrawl.run cardSeed).status = .converged ∧
      ((patientCardCrawl.timed none (some 3)).run cardSeed).clock = 3 ∧
      ((patientCardCrawl.timed none (some 3)).run cardSeed).heard =
        (patientCardCrawl.run cardSeed).heard.filter (·.instant < 3) ∧
      ((patientCardCrawl.timed (some 3) none).run cardSeed).status = .cancelled := by
  have hc : patientCardCrawl.IsUntimed := ⟨rfl, rfl⟩
  have hlate : ∃ e ∈ (patientCardCrawl.run cardSeed).heard, 3 ≤ e.instant := by decide +kernel
  have hquiet : patientCardCrawl.IsQuietAt cardSeed 3 := by
    unfold IsQuietAt
    decide +kernel
  obtain ⟨-, hdeadline, hcancelled⟩ := run_timed patientCardCrawl cardSeed hc (by decide) 3
  have hcut := hdeadline.2 hlate
  exact ⟨hc, by decide, by decide +kernel, hcut.clock_eq, hcut.heard_eq,
    ((hcancelled (Or.inr hquiet)).2 hlate).status_eq⟩

end Courier.Crawl.Setting
