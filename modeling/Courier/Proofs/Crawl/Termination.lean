import Courier.Proofs.Crawl.Ending

/-!
# Every crawl ends

Passes follow each other for as long as the verdict and the batches let them, and nothing counts
them.  They end all the same, on a web without end and with documents that take any time
(`Setting.endsIn_run_iff`): a batch that is not interrupted has something to fetch and records an
outcome of all of it, a failure if need be, and there are no more outcomes than documents may be
fetched.

No document takes longer than its timeout, and while one is waited for it takes a place.  So a crawl
takes no longer than its requests would one after the other, even if it is stopped while some of
them are in flight (`Setting.clock_fetchBatch_le`).
-/

namespace Courier.Crawl.Setting

variable (c : Setting) {seed : Bindings}

/-! ### Passes without a bound on their number -/

/-- Whether a pass that starts in the first state is followed by another that starts in the
second. -/
structure Continues (s t : State) : Prop where
  /-- The crawl does not end after the pass. -/
  verdict_eq : c.verdict (s.evaluate c.plan) (s.evaluate c.plan).pending = none
  /-- It is not stopped during the batch after the pass either. -/
  fetchBatch_eq : c.fetchBatch (s.evaluate c.plan) (c.next (s.evaluate c.plan)) = (t, none)

/-- How passes that start in a state end if they follow each other for as long as they can. -/
inductive EndsIn : State → Resolution → Prop where
  /-- The first pass is the last. -/
  | last {s : State} {r : Resolution} (h : c.EndsAfter s r) : EndsIn s r
  /-- It is followed by others. -/
  | continues {s t : State} {r : Resolution} (h : c.Continues s t) (ht : EndsIn t r) : EndsIn s r

variable {c}

lemma Reaches.of_continues {s t : State} (hs : c.Reaches seed s) (h : c.Continues s t) :
    c.Reaches seed t :=
  .batch hs h.verdict_eq h.fetchBatch_eq

lemma Reaches.endsIn_start {s : State} (hs : c.Reaches seed s) {r : Resolution}
    (h : c.EndsIn s r) : c.EndsIn (.start seed) r := by
  induction hs with
  | start => exact h
  | batch hs hverdict hbatch ih => exact ih (.continues ⟨hverdict, hbatch⟩ h)

lemma EndsIn.run_eq {s : State} {r : Resolution} (h : c.EndsIn s r) (hs : c.Reaches seed s) :
    c.run seed = r := by
  induction h with
  | last h => exact hs.run_eq h
  | continues h ht ih => exact ih (hs.of_continues h)

variable (c) in
/-- Passes that start with the seed end, and in no other way than the crawl, which is computed with
a bound on their number. -/
theorem endsIn_run_iff (seed : Bindings) (r : Resolution) :
    c.EndsIn (.start seed) r ↔ r = c.run seed := by
  constructor
  · exact fun h => (h.run_eq .start).symm
  · rintro rfl
    obtain ⟨s, hs, hends⟩ := c.exists_endsAfter_run seed
    exact hs.endsIn_start (.last hends)

/-! ### The number of passes -/

/-- There are no more passes before a pass than outcomes: every batch records one. -/
theorem Reaches.passes_le {s : State} (hs : c.Reaches seed s) :
    s.passes ≤ s.outcomes.length := by
  induction hs with
  | start => exact Nat.zero_le _
  | @batch s t hs hverdict hbatch ih =>
    obtain ⟨order, -, hrecords⟩ := c.records_of_fetchBatch_eq hbatch
    have hmore := length_outcomes_lt hverdict hbatch
    rw [hrecords.passes, State.passes_evaluate]
    omega

/-- So passes cannot follow each other without end. -/
lemma exists_not_continues {f : ℕ → State} (hstart : f 0 = .start seed) :
    ∃ n ≤ c.limits.maxFetches, ¬ c.Continues (f n) (f (n + 1)) := by
  by_contra hall
  push Not at hall
  have hreached : ∀ n ≤ c.limits.maxFetches + 1, c.Reaches seed (f n) ∧ n ≤ (f n).passes := by
    intro n
    induction n with
    | zero =>
      intro _
      rw [hstart]
      exact ⟨.start, Nat.zero_le _⟩
    | succ n ih =>
      intro hn
      obtain ⟨hreaches, hpasses⟩ := ih (Nat.le_of_succ_le hn)
      have hnext := hall n (Nat.le_of_succ_le_succ hn)
      obtain ⟨order, -, hrecords⟩ := c.records_of_fetchBatch_eq hnext.fetchBatch_eq
      refine ⟨hreaches.of_continues hnext, ?_⟩
      rw [hrecords.passes, State.passes_evaluate]
      omega
  obtain ⟨hreaches, hpasses⟩ := hreached _ le_rfl
  have hle := hreaches.passes_le.trans hreaches.isAccounted.1.length_outcomes_le
  omega

variable (c)

/-- Every pass of a crawl but the last has an outcome of its own. -/
theorem passes_run_le (seed : Bindings) :
    (c.run seed).passes ≤ (c.run seed).outcomes.length + 1 := by
  obtain ⟨s, hs, hends⟩ := c.exists_endsAfter_run seed
  have hpasses := hs.passes_le
  generalize c.run seed = r at hends
  cases hends with
  | verdict hverdict =>
    change (s.evaluate c.plan).passes ≤ (s.evaluate c.plan).outcomes.length + 1
    rw [State.passes_evaluate, State.outcomes_evaluate]
    omega
  | @stopped t status hverdict hbatch =>
    have hrecords := c.records_fetchBatch (s.evaluate c.plan) (c.next (s.evaluate c.plan))
    rw [hbatch] at hrecords
    change t.passes ≤ t.outcomes.length + 1
    rw [hrecords.passes, hrecords.outcomes, List.length_append, State.passes_evaluate,
      State.outcomes_evaluate]
    omega

/-! ### Time -/

variable {c} in
/-- A job of a batch waits at most as long as the jobs before it may take one after the other. -/
lemma le_of_batch_eq {now : Nat} {documents : List Iri} {row rest : List (Span × Iri)}
    {job : Span × Iri} (h : c.batch now documents = row ++ job :: rest) :
    job.1.start ≤ now + row.length * c.limits.fetchTimeout ∧
      job.1.finish ≤ now + (row.length + 1) * c.limits.fetchTimeout := by
  have hlongest : ∀ duration ∈ documents.map c.duration, duration ≤ c.limits.fetchTimeout := by
    intro duration hduration
    obtain ⟨d, -, rfl⟩ := List.mem_map.1 hduration
    exact min_le_right _ _
  have hbound := le_of_schedule_eq hlongest (schedule_eq_of_batch_eq h)
  rw [List.length_map] at hbound
  exact hbound

/-- A batch lasts at most as long as its jobs may take one after the other. -/
lemma lastFinish_le (now : Nat) (documents : List Iri) :
    c.lastFinish now documents ≤
      now + (c.batch now documents).length * c.limits.fetchTimeout := by
  cases documents with
  | nil => exact Nat.le_add_right _ _
  | cons d ds =>
    obtain ⟨job, hjob, hfinish⟩ := c.exists_finish_eq_lastFinish now (List.cons_ne_nil d ds)
    obtain ⟨row, rest, hbatch⟩ := List.append_of_mem hjob
    have hlength : row.length + 1 ≤ (c.batch now (d :: ds)).length := by
      rw [hbatch, List.length_append, List.length_cons]
      omega
    rw [← hfinish]
    exact (le_of_batch_eq hbatch).2.trans
      (Nat.add_le_add_left (Nat.mul_le_mul_right _ hlength) _)

/-- A batch takes at most as long as those of its jobs that are started may take one after the
other, also if the crawl is stopped meanwhile. -/
lemma clock_fetchBatch_le (s : State) (documents : List Iri) :
    (c.fetchBatch s documents).1.clock ≤
      s.clock + (c.started s.clock documents).length * c.limits.fetchTimeout := by
  rcases c.fetchBatch_cases s documents with ⟨hlast, hfetch⟩ | ⟨stop, hstop, hlast, hfetch⟩
  · rw [hfetch, (c.started_and_recorded hlast).1]
    exact c.lastFinish_le s.clock documents
  · rw [hfetch]
    change stop.instant ≤ _
    obtain ⟨rest, hrest, hlate⟩ := c.exists_batch_eq_started_append s.clock documents
    cases rest with
    | nil =>
      -- All jobs are started, and the last of them would have finished after the stop.
      rw [List.append_nil] at hrest
      rw [← hrest]
      exact (Stop.instant_le_of_admits_eq_false hlast).trans (c.lastFinish_le s.clock documents)
    | cons job rest =>
      -- The first job that is not started had to wait until after the stop.
      have hstart := hlate job List.mem_cons_self
      rw [isBeforeStop, hstop] at hstart
      exact (Stop.instant_le_of_admits_eq_false hstart).trans (le_of_batch_eq hrest).1

/-- A crawl takes at most as long as its requests may take one after the other. -/
theorem clock_run_le (seed : Bindings) :
    (c.run seed).clock ≤ (c.run seed).requests.length * c.limits.fetchTimeout := by
  refine c.run_induction
    (motive := fun s => s.clock ≤ s.requests.length * c.limits.fetchTimeout) ?_ ?_ ?_
  · exact Nat.zero_le _
  · intro s hs
    rw [State.clock_evaluate, State.requests_evaluate]
    exact hs
  · intro s documents hs
    have hclock := c.clock_fetchBatch_le s documents
    obtain ⟨clock, hfetch⟩ := c.exists_fst_fetchBatch_eq s documents
    rw [hfetch] at hclock ⊢
    change clock ≤ (c.gather s documents).requests.length * _
    rw [requests_gather, List.length_append, List.length_map, Nat.add_mul]
    exact hclock.trans (Nat.add_le_add_right hs _)

/-- Every crawl ends: passes that follow each other from the seed for as long as they can end as the
crawl does, and there are no more of them than outcomes and one, nor than documents may be fetched
and one.  It takes no longer than its requests may take one after the other, and ends no later than
its deadline. -/
theorem endsIn_run (c : Setting) (seed : Bindings) :
    (∀ r, c.EndsIn (.start seed) r ↔ r = c.run seed) ∧
      (∀ f : ℕ → State, f 0 = .start seed →
        ∃ n ≤ c.limits.maxFetches, ¬ c.Continues (f n) (f (n + 1))) ∧
      (c.run seed).passes ≤ (c.run seed).outcomes.length + 1 ∧
      (c.run seed).passes ≤ c.limits.maxFetches + 1 ∧
      (c.run seed).clock ≤ (c.run seed).requests.length * c.limits.fetchTimeout ∧
      ∀ e ∈ c.limits.deadline, (c.run seed).clock ≤ e := by
  have hpasses := c.passes_run_le seed
  have houtcomes := (c.books_run seed).1.length_outcomes_le
  refine ⟨c.endsIn_run_iff seed, fun f hstart => exists_not_continues hstart, hpasses,
    hpasses.trans (Nat.add_le_add_right houtcomes 1), c.clock_run_le seed, ?_⟩
  exact (c.isKept_clock_le_deadline seed).of_run

/-- Reading three documents of a web without end, in which every document refers to the next one and
takes as long as it may. -/
def endlessCrawl : Setting where
  fetcher :=
    { answer := fun r => .ok (.make 200 [] ("<> <a:see> <" ++ r.iri.text ++ "n> ."))
      delay := fun _ => 10 }
  limits := { maxFetches := 3, fetchTimeout := 10 }
  plan :=
    { steps := [.lookUp { predicate := ⟨"a:see"⟩, target := ⟨"document"⟩ },
        .addResources ⟨"document"⟩] }

/-- The states in which its passes would start if there were always another one. -/
def endlessStates : ℕ → State
  | 0 => .start cardSeed
  | n + 1 =>
    let s := (endlessStates n).evaluate endlessCrawl.plan
    (endlessCrawl.fetchBatch s (endlessCrawl.next s)).1

/-- The crawl of the endless web ends after as many passes as there may be, and takes as long as it
may. -/
theorem endsIn_run_endlessCrawl :
    endlessCrawl.EndsIn (.start cardSeed) (endlessCrawl.run cardSeed) ∧
      (endlessCrawl.run cardSeed).status = .budgetExhausted ∧
      (endlessCrawl.run cardSeed).passes = endlessCrawl.limits.maxFetches + 1 ∧
      (endlessCrawl.run cardSeed).clock = (endlessCrawl.run cardSeed).requests.length * 10 ∧
      (endlessCrawl.run cardSeed).clock ≤ 60000 ∧
      ∃ n ≤ 3, ¬ endlessCrawl.Continues (endlessStates n) (endlessStates (n + 1)) := by
  obtain ⟨hends, hcontinues, -, hpasses, hclock, hdeadline⟩ := endsIn_run endlessCrawl cardSeed
  have hlast : endlessCrawl.limits.maxFetches + 1 ≤ (endlessCrawl.run cardSeed).passes := by
    decide +kernel
  have hlong : (endlessCrawl.run cardSeed).requests.length * 10 ≤
      (endlessCrawl.run cardSeed).clock := by decide +kernel
  exact ⟨(hends _).2 rfl, by decide +kernel, hpasses.antisymm hlast, hclock.antisymm hlong,
    hdeadline 60000 rfl, hcontinues endlessStates rfl⟩

end Courier.Crawl.Setting
