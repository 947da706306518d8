import Courier.Proofs.Crawl.Batch

/-!
# The states of a crawl

`Setting.Reaches` are the states in which the passes of a crawl start, one batch after the other,
and `Setting.EndsAfter` says how the crawl may end with the pass that starts in such a state.  The
bound on the number of passes that a crawl is computed with is never what ends it: every batch
records at least one document, so the budget is used up first (`Setting.exists_endsAfter_run`).

Properties of whole crawls are proved by induction on the states reached.
-/

namespace Courier.Crawl.Setting

variable (c : Setting)

/-- The documents that are fetched next after a pass. -/
def next (s : State) : List Iri :=
  s.pending.take (c.limits.maxFetches - s.outcomes.length)

/-- The states in which a pass of the crawl starts. -/
inductive Reaches (seed : Bindings) : State → Prop where
  /-- The first pass starts with the seed. -/
  | start : Reaches seed (.start seed)
  /-- The next pass starts after a batch that is not interrupted. -/
  | batch {s t : State} (hs : Reaches seed s)
      (hverdict : c.verdict (s.evaluate c.plan) (s.evaluate c.plan).pending = none)
      (hbatch : c.fetchBatch (s.evaluate c.plan) (c.next (s.evaluate c.plan)) = (t, none)) :
      Reaches seed t

/-- How the crawl may end with the pass that starts in a state. -/
inductive EndsAfter (s : State) : Resolution → Prop where
  /-- The crawl ends right after the pass. -/
  | verdict {status : Status}
      (h : c.verdict (s.evaluate c.plan) (s.evaluate c.plan).pending = some status) :
      EndsAfter s { s.evaluate c.plan with status }
  /-- The crawl is stopped during the batch after the pass. -/
  | stopped {t : State} {status : Status}
      (hverdict : c.verdict (s.evaluate c.plan) (s.evaluate c.plan).pending = none)
      (h : c.fetchBatch (s.evaluate c.plan) (c.next (s.evaluate c.plan)) = (t, some status)) :
      EndsAfter s { t with status }

/-! ### The verdict after a pass -/

/-- A crawl goes on only if there is something to fetch and something left of the budget. -/
lemma verdict_eq_none {s : State} {pending : List Iri} (h : c.verdict s pending = none) :
    pending ≠ [] ∧ s.outcomes.length < c.limits.maxFetches := by
  unfold verdict at h
  split_ifs at h with hempty hcancelled hbudget
  refine ⟨by simpa using hempty, ?_⟩
  simp only [Bool.or_eq_true, decide_eq_true_eq, not_or] at hbudget
  omega

/-- A crawl converges after a pass exactly if nothing is pending. -/
lemma verdict_eq_converged_iff {s : State} {pending : List Iri} :
    c.verdict s pending = some .converged ↔ pending = [] := by
  unfold verdict
  constructor
  · intro h
    split_ifs at h with hempty hcancelled hbudget
    · simpa using hempty
    · cases h
    · cases h
  · rintro rfl
    rfl

/-- A crawl that goes on has a document to fetch. -/
lemma next_ne_nil {s : State} (h : c.verdict s s.pending = none) : c.next s ≠ [] := by
  obtain ⟨hpending, hbudget⟩ := c.verdict_eq_none h
  unfold next
  rw [Ne, List.take_eq_nil_iff, not_or]
  exact ⟨by omega, hpending⟩

/-! ### One pass at a time -/

variable {c} in
/-- A crawl that gets a verdict after a pass ends there. -/
lemma passes_of_verdict {s : State} {status : Status} (fuel : Nat)
    (h : c.verdict (s.evaluate c.plan) (s.evaluate c.plan).pending = some status) :
    c.passes fuel s = { s.evaluate c.plan with status } := by
  unfold passes
  simp only [h]

variable {c} in
/-- A crawl that is stopped during a batch ends there. -/
lemma passes_of_stopped {s t : State} {status : Status} (fuel : Nat)
    (hverdict : c.verdict (s.evaluate c.plan) (s.evaluate c.plan).pending = none)
    (h : c.fetchBatch (s.evaluate c.plan) (c.next (s.evaluate c.plan)) = (t, some status)) :
    c.passes (fuel + 1) s = { t with status } := by
  unfold next at h
  unfold passes
  simp only [hverdict, h]

variable {c} in
/-- A crawl goes on after a batch that is not interrupted. -/
lemma passes_of_batch {s t : State} (fuel : Nat)
    (hverdict : c.verdict (s.evaluate c.plan) (s.evaluate c.plan).pending = none)
    (h : c.fetchBatch (s.evaluate c.plan) (c.next (s.evaluate c.plan)) = (t, none)) :
    c.passes (fuel + 1) s = c.passes fuel t := by
  unfold next at h
  rw [passes]
  simp only [hverdict, h]

/-! ### Every crawl ends -/

variable {c} in
/-- A batch that is not interrupted records at least one document. -/
lemma length_outcomes_lt {s t : State}
    (hverdict : c.verdict (s.evaluate c.plan) (s.evaluate c.plan).pending = none)
    (hbatch : c.fetchBatch (s.evaluate c.plan) (c.next (s.evaluate c.plan)) = (t, none)) :
    s.outcomes.length < t.outcomes.length := by
  obtain ⟨order, hperm, hrecords⟩ := c.records_of_fetchBatch_eq hbatch
  have hpos : 0 < order.length := by
    rw [hperm.length_eq, List.length_pos_iff]
    exact c.next_ne_nil hverdict
  rw [hrecords.outcomes, State.outcomes_evaluate, List.length_append, List.length_map]
  omega

/-- Passes that start in a state reached end after a state reached, if there are as many of them as
documents may still be fetched. -/
lemma exists_endsAfter_passes {seed : Bindings} {fuel : Nat} {s : State} (hs : c.Reaches seed s)
    (hfuel : c.limits.maxFetches ≤ s.outcomes.length + fuel) :
    ∃ t, c.Reaches seed t ∧ c.EndsAfter t (c.passes fuel s) := by
  induction fuel generalizing s with
  | zero =>
    cases hverdict : c.verdict (s.evaluate c.plan) (s.evaluate c.plan).pending with
    | some status =>
      rw [passes_of_verdict 0 hverdict]
      exact ⟨s, hs, .verdict hverdict⟩
    | none =>
      have hbudget := (c.verdict_eq_none hverdict).2
      rw [State.outcomes_evaluate] at hbudget
      omega
  | succ fuel ih =>
    cases hverdict : c.verdict (s.evaluate c.plan) (s.evaluate c.plan).pending with
    | some status =>
      rw [passes_of_verdict _ hverdict]
      exact ⟨s, hs, .verdict hverdict⟩
    | none =>
      cases hbatch : c.fetchBatch (s.evaluate c.plan) (c.next (s.evaluate c.plan)) with
      | mk t ending =>
        cases ending with
        | some status =>
          rw [passes_of_stopped fuel hverdict hbatch]
          exact ⟨s, hs, .stopped hverdict hbatch⟩
        | none =>
          rw [passes_of_batch fuel hverdict hbatch]
          refine ih (.batch hs hverdict hbatch) ?_
          have hlength := length_outcomes_lt hverdict hbatch
          omega

/-- A crawl ends with a pass that starts in a state reached. -/
theorem exists_endsAfter_run (seed : Bindings) :
    ∃ s, c.Reaches seed s ∧ c.EndsAfter s (c.run seed) :=
  c.exists_endsAfter_passes .start (Nat.le_add_left _ _)

variable {c} in
/-- What is left of a crawl in a state reached are the passes that start there, and the bound on
their number does not end them. -/
lemma Reaches.exists_run_eq {seed : Bindings} {s : State} (hs : c.Reaches seed s) :
    ∃ fuel, c.run seed = c.passes fuel s ∧ c.limits.maxFetches ≤ s.outcomes.length + fuel := by
  induction hs with
  | start => exact ⟨c.limits.maxFetches, rfl, Nat.le_add_left _ _⟩
  | @batch s t hs hverdict hbatch ih =>
    obtain ⟨fuel, hrun, hfuel⟩ := ih
    have hbudget := (c.verdict_eq_none hverdict).2
    rw [State.outcomes_evaluate] at hbudget
    have hlength := length_outcomes_lt hverdict hbatch
    cases fuel with
    | zero => omega
    | succ fuel =>
      refine ⟨fuel, hrun.trans (passes_of_batch fuel hverdict hbatch), ?_⟩
      omega

variable {c} in
/-- A crawl ends in no other way than after a state reached. -/
theorem Reaches.run_eq {seed : Bindings} {s : State} (hs : c.Reaches seed s) {r : Resolution}
    (h : c.EndsAfter s r) : c.run seed = r := by
  obtain ⟨fuel, hrun, hfuel⟩ := hs.exists_run_eq
  rw [hrun]
  cases h with
  | verdict hverdict => exact passes_of_verdict fuel hverdict
  | stopped hverdict hbatch =>
    have hbudget := (c.verdict_eq_none hverdict).2
    rw [State.outcomes_evaluate] at hbudget
    cases fuel with
    | zero => omega
    | succ fuel => exact passes_of_stopped fuel hverdict hbatch

/-! ### What is kept along a crawl -/

/-- Whether something holds at the start of a crawl and is kept by its passes and by the batches
after them. -/
structure IsKept (seed : Bindings) (motive : State → Prop) : Prop where
  /-- It holds at the start. -/
  start : motive (.start seed)
  /-- Passes keep it. -/
  evaluate : ∀ s, motive s → motive (s.evaluate c.plan)
  /-- The batch after a pass keeps it, whether or not the crawl is stopped meanwhile. -/
  fetchBatch : ∀ s, c.Reaches seed s →
    c.verdict (s.evaluate c.plan) (s.evaluate c.plan).pending = none →
    motive (s.evaluate c.plan) →
    motive (c.fetchBatch (s.evaluate c.plan) (c.next (s.evaluate c.plan))).1

section Kept

variable {c} {seed : Bindings} {motive : State → Prop}

/-- What is kept holds whenever a pass starts. -/
theorem IsKept.of_reaches (h : c.IsKept seed motive) {s : State} (hs : c.Reaches seed s) :
    motive s := by
  induction hs with
  | start => exact h.start
  | @batch s t hs hverdict hfetch ih =>
    have ht := h.fetchBatch s hs hverdict (h.evaluate s ih)
    rw [hfetch] at ht
    exact ht

/-- What is kept holds when a crawl ends. -/
theorem IsKept.of_run (h : c.IsKept seed motive) : motive (c.run seed).toState := by
  obtain ⟨s, hs, hends⟩ := c.exists_endsAfter_run seed
  have hkept := h.evaluate s (h.of_reaches hs)
  generalize c.run seed = r at hends
  cases hends with
  | verdict hverdict => exact hkept
  | stopped hverdict hfetch =>
    have ht := h.fetchBatch s hs hverdict hkept
    rw [hfetch] at ht
    exact ht

variable (c) in
/-- What holds at the start, and is kept by passes and batches, holds when a crawl ends. -/
theorem run_induction (hstart : motive (.start seed))
    (hpass : ∀ s, motive s → motive (s.evaluate c.plan))
    (hbatch : ∀ s documents, motive s → motive (c.fetchBatch s documents).1) :
    motive (c.run seed).toState :=
  IsKept.of_run ⟨hstart, hpass, fun _ _ _ hs => hbatch _ _ hs⟩

end Kept

/-- A crawl that converges does so right after a pass that leaves nothing pending. -/
theorem exists_of_status_run_eq_converged {seed : Bindings}
    (h : (c.run seed).status = .converged) :
    ∃ s, c.Reaches seed s ∧ (c.run seed).toState = s.evaluate c.plan ∧
      (s.evaluate c.plan).pending = [] := by
  obtain ⟨s, hs, hends⟩ := c.exists_endsAfter_run seed
  generalize c.run seed = r at h hends
  cases hends with
  | verdict hverdict =>
    cases h
    exact ⟨s, hs, rfl, c.verdict_eq_converged_iff.1 hverdict⟩
  | stopped hverdict hbatch =>
    cases h
    refine absurd ?_ (c.snd_fetchBatch_ne_converged (s.evaluate c.plan)
      (c.next (s.evaluate c.plan)))
    rw [hbatch]

end Courier.Crawl.Setting
