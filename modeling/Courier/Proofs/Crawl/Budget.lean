import Courier.Proofs.Crawl.Accounting

/-!
# Crawls with a smaller budget

A crawl that may fetch fewer documents goes through the same states as one that may fetch more,
until its budget is less than a batch asks for.  Then it fetches the first documents of that batch,
at the same instants, and ends (`Setting.Reaches.of_withMaxFetches`).  So the smaller budget changes
nothing if it suffices for the requests of the other crawl, and otherwise it is spent to the last
request.
-/

namespace Courier.Crawl

/-! ### Parts of a state -/

/-- Whether a state has only part of what another has: so many requests, which are the other's first
ones, and what came of some of the documents, in the same order. -/
structure State.IsPart (m : Nat) (s t : State) : Prop where
  /-- The other state has more requests. -/
  length_lt : m < t.requests.length
  /-- The requests are the other's first ones. -/
  requests_eq : s.requests = t.requests.take m
  /-- The outcomes are among the other's, in the same order. -/
  outcomes_sublist : s.outcomes.Sublist t.outcomes

namespace State.IsPart

variable {m : Nat} {s t u : State}

/-- A pass changes neither requests nor outcomes. -/
lemma evaluate (h : IsPart m s t) (plan : Plan) : IsPart m (s.evaluate plan) t := by
  refine ⟨h.length_lt, ?_, ?_⟩
  · rw [State.requests_evaluate, h.requests_eq]
  · rw [State.outcomes_evaluate]
    exact h.outcomes_sublist

/-- What is part of a state is part of all that come later. -/
lemma trans_precedes (h : IsPart m s t) (htu : t.Precedes u) : IsPart m s u := by
  obtain ⟨-, houtcomes, -, ⟨later, hrequests, -⟩⟩ := htu
  refine ⟨?_, ?_, h.outcomes_sublist.trans houtcomes.sublist⟩
  · have hlength := h.length_lt
    rw [hrequests, List.length_append]
    omega
  · rw [hrequests, List.take_append_of_le_length h.length_lt.le, h.requests_eq]

/-- A state is part of a later one in which there are more requests. -/
lemma of_precedes (h : s.Precedes t) (hlength : s.requests.length < t.requests.length) :
    IsPart s.requests.length s t := by
  obtain ⟨-, houtcomes, -, ⟨later, hrequests, -⟩⟩ := h
  refine ⟨hlength, ?_, houtcomes.sublist⟩
  rw [hrequests, List.take_left]

end State.IsPart

namespace Setting

variable (c : Setting) {seed : Bindings}

/-- The crawl with another budget. -/
def withMaxFetches (maxFetches : Nat) : Setting :=
  { c with limits := { c.limits with maxFetches } }

/-- Whether another crawl ends as this one would if it might make no more requests than given. -/
structure IsExhaustedAt (seed : Bindings) (m : Nat) (r : Resolution) : Prop where
  /-- It says how it ended. -/
  status_eq : r.status = .budgetExhausted
  /-- It has used up its budget. -/
  length_requests : r.requests.length = m
  /-- It has made the first requests of this crawl. -/
  requests_eq : r.requests = (c.run seed).requests.take m
  /-- All of them have the outcome that they have in this crawl. -/
  outcome_eq : ∀ q ∈ r.requests,
    ∃ o, (q.2.iri, o) ∈ r.outcomes ∧ (q.2.iri, o) ∈ (c.run seed).outcomes
  /-- The outcomes come in the same order. -/
  outcomes_sublist : r.outcomes.Sublist (c.run seed).outcomes

variable {c}

/-! ### Batches that are cut short by the budget -/

/-- The first documents of a batch are fetched in the same way without the others. -/
lemma IsUntimed.isPart_gather (hc : c.IsUntimed) (s : State) {documents : List Iri} {j : Nat}
    (hj : j < documents.length) :
    State.IsPart (s.requests.length + j) (c.gather s (documents.take j))
      (c.gather s documents) := by
  obtain ⟨hstarted, hrecorded⟩ := hc.started_and_recorded s.clock documents
  obtain ⟨hstarted', hrecorded'⟩ := hc.started_and_recorded s.clock (documents.take j)
  have hlength : (c.batch s.clock documents).length = documents.length := by
    rw [← List.length_map Prod.snd, map_snd_batch]
  refine ⟨?_, ?_, ?_⟩
  · rw [requests_gather, hstarted, List.length_append, List.length_map, hlength]
    omega
  · rw [requests_gather, requests_gather, hstarted, hstarted', batch_take, List.map_take,
      List.take_length_add_append]
  · rw [(c.records_gather s _).outcomes, (c.records_gather s _).outcomes, hrecorded, hrecorded',
      batch_take]
    have hfirst := byFinish_sublist (List.take_sublist j (c.batch s.clock documents))
    exact ((hfirst.map Prod.snd).map _).append_left _

/-- If not all documents that are pending are fetched, something is pending after the next pass. -/
lemma pending_evaluate_ne_nil {s t : State} {order : List Iri} {j : Nat}
    (hrecords : c.Records s t order) (horder : ∀ d ∈ order, d ∈ s.pending.take j)
    (hj : j < s.pending.length) : (t.evaluate c.plan).pending ≠ [] := by
  obtain ⟨hresource, hfetched⟩ := State.mem_pending.1 (s.pending.getElem_mem hj)
  have hleft : s.pending[j] ∉ s.pending.take j := by
    rw [List.mem_take_iff_getElem]
    rintro ⟨i, hi, heq⟩
    have hij := s.nodup_pending.getElem_inj_iff.1 heq
    omega
  refine List.ne_nil_of_mem (State.mem_pending.2 ⟨?_, ?_⟩ : s.pending[j] ∈ _)
  · rw [State.resources_evaluate, hrecords.resources]
    exact Or.inl hresource
  · rw [State.fetched_evaluate, hrecords.fetched]
    exact fun hd => hd.elim hfetched fun hd => hleft (horder _ hd)

/-- A smaller budget asks for the same documents after a pass, or for the first of them only. -/
lemma next_withMaxFetches {m : Nat} (hm : m ≤ c.limits.maxFetches) (s : State) :
    (c.withMaxFetches m).next s = c.next s ∨
      (c.withMaxFetches m).next s = (c.next s).take (m - s.outcomes.length) ∧
        m - s.outcomes.length < (c.next s).length := by
  have htake : (c.withMaxFetches m).next s = (c.next s).take (m - s.outcomes.length) := by
    unfold next
    rw [List.take_take, min_eq_left (by omega)]
    rfl
  rcases Nat.lt_or_ge (m - s.outcomes.length) (c.next s).length with hlt | hge
  · exact Or.inr ⟨htake, hlt⟩
  · exact Or.inl (htake.trans (List.take_of_length_le hge))

/-! ### Two budgets in lockstep -/

/-- In the states in which passes start there are as many outcomes as requests. -/
lemma Reaches.length_requests_eq {s : State} (hs : c.Reaches seed s) :
    s.requests.length = s.outcomes.length :=
  hs.isAccounted.1.length_requests_eq hs.isAccounted.2

/-- With a smaller budget the crawl comes to the same states, until it has fetched the first
documents of a batch and is left with others. -/
theorem Reaches.of_withMaxFetches (hc : c.IsUntimed) {m : Nat} (hm : m ≤ c.limits.maxFetches)
    {s : State} (hs : (c.withMaxFetches m).Reaches seed s) :
    c.Reaches seed s ∨
      (s.evaluate c.plan).pending ≠ [] ∧ ∃ t, c.Reaches seed t ∧ State.IsPart m s t := by
  induction hs with
  | start => exact Or.inl .start
  | @batch s t hs hverdict hbatch ih =>
    obtain ⟨hpending, hbudget⟩ := (c.withMaxFetches m).verdict_eq_none hverdict
    change (s.evaluate c.plan).pending ≠ [] at hpending
    change (s.evaluate c.plan).outcomes.length < m at hbudget
    have hcount : (s.evaluate c.plan).requests.length = (s.evaluate c.plan).outcomes.length := by
      rw [State.requests_evaluate, State.outcomes_evaluate]
      exact hs.length_requests_eq
    rcases ih with hs' | ⟨-, u, -, hpart⟩
    · have hgo : c.verdict (s.evaluate c.plan) (s.evaluate c.plan).pending = none := by
        rw [hc.verdict_eq, if_neg hpending, if_neg (by omega)]
      obtain ⟨order, horder, hrecords⟩ := (c.withMaxFetches m).records_of_fetchBatch_eq hbatch
      obtain ⟨-, rfl⟩ := (c.withMaxFetches m).eq_of_fetchBatch_eq_none hbatch
      have ht := hs'.gather hc hgo
      rcases next_withMaxFetches hm (s.evaluate c.plan) with hnext | ⟨htake, hj⟩
      · left
        rw [← hnext] at ht
        exact ht
      · right
        have hpart := hc.isPart_gather (s.evaluate c.plan) hj
        rw [← htake, hcount, Nat.add_sub_cancel' hbudget.le] at hpart
        refine ⟨?_, _, ht, ⟨hpart.length_lt, hpart.requests_eq, hpart.outcomes_sublist⟩⟩
        refine pending_evaluate_ne_nil (c := c.withMaxFetches m) hrecords
          (fun d hd => horder.subset hd) (hj.trans_le ?_)
        rw [next, List.length_take]
        exact min_le_right _ _
    · -- The budget was used up before.
      have hrequests := hs.length_requests_eq
      rw [hpart.requests_eq, List.length_take, min_eq_left hpart.length_lt.le] at hrequests
      rw [State.outcomes_evaluate] at hbudget
      omega

/-- A crawl that goes on after a pass makes more requests. -/
lemma Reaches.length_requests_lt_run (hc : c.IsUntimed) {s : State} (hs : c.Reaches seed s)
    (hverdict : c.verdict (s.evaluate c.plan) (s.evaluate c.plan).pending = none) :
    s.requests.length < (c.run seed).requests.length := by
  have hbatch := c.fetchBatch_eq_of_stop_eq_none hc.stop_eq_none (s.evaluate c.plan)
    (c.next (s.evaluate c.plan))
  have ht := Reaches.batch hs hverdict hbatch
  obtain ⟨-, -, -, ⟨later, hrequests, -⟩⟩ := ht.precedes_run hc.stop_eq_none
  have hmore := length_outcomes_lt hverdict hbatch
  rw [← hs.length_requests_eq, ← ht.length_requests_eq] at hmore
  rw [hrequests, List.length_append]
  omega

/-- A crawl that nothing stops ends while something is pending only if its budget is used up. -/
lemma IsUntimed.eq_of_verdict_eq_some (hc : c.IsUntimed) {s : State} {pending : List Iri}
    {status : Status} (hpending : pending ≠ []) (h : c.verdict s pending = some status) :
    status = .budgetExhausted := by
  rw [hc.verdict_eq, if_neg hpending] at h
  split_ifs at h
  exact (Option.some.inj h).symm

/-- If a crawl ends after a pass with the smaller budget, it ends there with the larger one as well,
or the smaller budget is used up. -/
lemma verdict_withMaxFetches (hc : c.IsUntimed) {m : Nat} {s : State} {pending : List Iri}
    {status : Status}
    (h : (c.withMaxFetches m).verdict s pending = some status) :
    c.verdict s pending = some status ∨
      c.verdict s pending = none ∧ status = .budgetExhausted ∧ m ≤ s.outcomes.length := by
  have hd : (c.withMaxFetches m).IsUntimed := hc
  have hbudget : (c.withMaxFetches m).limits.maxFetches = m := rfl
  rw [hd.verdict_eq, hbudget] at h
  rw [hc.verdict_eq]
  split_ifs at h with hempty hsmaller
  · rw [if_pos hempty]
    exact Or.inl h
  · cases h
    rw [if_neg hempty]
    by_cases hlarger : c.limits.maxFetches ≤ s.outcomes.length
    · exact Or.inl (if_pos hlarger)
    · exact Or.inr ⟨if_neg hlarger, rfl, hsmaller⟩

/-- With a smaller budget a crawl ends in the same way, or it uses up the budget and ends with part
of what it finds otherwise. -/
theorem run_withMaxFetches_cases (hc : c.IsUntimed) {m : Nat} (hm : m ≤ c.limits.maxFetches)
    (seed : Bindings) :
    (c.withMaxFetches m).run seed = c.run seed ∧ (c.run seed).requests.length ≤ m ∨
      ((c.withMaxFetches m).run seed).status = .budgetExhausted ∧
        ((c.withMaxFetches m).run seed).unanswered = [] ∧
        State.IsPart m ((c.withMaxFetches m).run seed).toState (c.run seed).toState := by
  obtain ⟨s, hs, hends⟩ := (c.withMaxFetches m).exists_endsAfter_run seed
  have hlockstep := Reaches.of_withMaxFetches hc hm hs
  have hroom : s.requests.length ≤ m := hs.isAccounted.1.length_requests_le
  have hanswered : (s.evaluate c.plan).unanswered = [] := by
    rw [State.unanswered_evaluate]
    exact hs.isAccounted.2
  generalize (c.withMaxFetches m).run seed = r at hends
  cases hends with
  | stopped hverdict hbatch =>
    have hnone := (c.withMaxFetches m).fetchBatch_eq_of_stop_eq_none hc.stop_eq_none
      (s.evaluate c.plan) ((c.withMaxFetches m).next (s.evaluate c.plan))
    cases hnone.symm.trans hbatch
  | @verdict status hverdict =>
    rcases hlockstep with hs' | ⟨hpending, t, ht, hpart⟩
    · rcases verdict_withMaxFetches hc hverdict with hends | ⟨hgo, rfl, hspent⟩
      · left
        have hrun : c.run seed = { s.evaluate c.plan with status } := hs'.run_eq (.verdict hends)
        refine ⟨hrun.symm, ?_⟩
        rw [hrun]
        exact (congrArg List.length (s.requests_evaluate c.plan)).trans_le hroom
      · right
        have hlength : s.requests.length = m := by
          refine le_antisymm hroom ?_
          rw [hs.length_requests_eq]
          rwa [State.outcomes_evaluate] at hspent
        have hpart := State.IsPart.of_precedes (hs'.precedes_run hc.stop_eq_none)
          (hs'.length_requests_lt_run hc hgo)
        rw [hlength] at hpart
        exact ⟨rfl, hanswered, hpart.evaluate c.plan⟩
    · right
      have hstatus := IsUntimed.eq_of_verdict_eq_some (c := c.withMaxFetches m) hc hpending hverdict
      exact ⟨hstatus, hanswered,
        (hpart.evaluate c.plan).trans_precedes (ht.precedes_run hc.stop_eq_none)⟩

variable (c)

/-- The budget is exact.  A budget that suffices for the requests of a crawl that may make more does
not change it, and a smaller one is used up: the crawl makes the first of these requests and records
what comes of each of them.  So a crawl that converges does so with a budget of as many documents as
it requested, but not with one less. -/
theorem run_withMaxFetches (seed : Bindings) (hc : c.IsUntimed) :
    (∀ m ≤ c.limits.maxFetches,
        ((c.run seed).requests.length ≤ m → (c.withMaxFetches m).run seed = c.run seed) ∧
          (m < (c.run seed).requests.length →
            c.IsExhaustedAt seed m ((c.withMaxFetches m).run seed))) ∧
      ((c.run seed).status = .converged →
        ((c.withMaxFetches (c.run seed).requests.length).run seed).status = .converged ∧
          (0 < (c.run seed).requests.length →
            ((c.withMaxFetches ((c.run seed).requests.length - 1)).run seed).status =
              .budgetExhausted)) := by
  have hexact : ∀ m ≤ c.limits.maxFetches,
      ((c.run seed).requests.length ≤ m → (c.withMaxFetches m).run seed = c.run seed) ∧
        (m < (c.run seed).requests.length →
          c.IsExhaustedAt seed m ((c.withMaxFetches m).run seed)) := by
    intro m hm
    rcases run_withMaxFetches_cases hc hm seed with ⟨hsame, hlength⟩ | ⟨hstatus, hanswered, hpart⟩
    · exact ⟨fun _ => hsame, fun hlt => absurd hlength hlt.not_ge⟩
    · obtain ⟨hlt, hrequests, houtcomes⟩ := hpart
      refine ⟨fun hle => absurd hlt hle.not_gt, fun _ => ⟨hstatus, ?_, hrequests, ?_, houtcomes⟩⟩
      · rw [hrequests, List.length_take, min_eq_left hlt.le]
      · intro q hq
        obtain ⟨⟨d, o⟩, ho, hd⟩ := List.mem_map.1
          (State.unanswered_eq_nil_iff.1 hanswered _ (List.mem_map_of_mem hq))
        obtain rfl : d = q.2.iri := hd
        exact ⟨o, ho, houtcomes.subset ho⟩
  have hroom := (c.books_run seed).1.length_requests_le
  refine ⟨hexact, fun hconverged => ⟨?_, fun hpos => ?_⟩⟩
  · rw [(hexact _ hroom).1 le_rfl, hconverged]
  · exact ((hexact _ ((Nat.sub_le _ _).trans hroom)).2 (Nat.sub_one_lt hpos.ne')).status_eq

/-- What the card refers to is read with a budget of three documents, but not with a smaller one. -/
theorem run_withMaxFetches_cardCrawl :
    cardCrawl.IsUntimed ∧ (cardCrawl.run cardSeed).requests.length = 3 ∧
      (cardCrawl.run cardSeed).status = .converged ∧
      (cardCrawl.withMaxFetches 3).run cardSeed = cardCrawl.run cardSeed ∧
      cardCrawl.IsExhaustedAt cardSeed 2 ((cardCrawl.withMaxFetches 2).run cardSeed) ∧
      ((cardCrawl.withMaxFetches 2).run cardSeed).status = .budgetExhausted := by
  have hc : cardCrawl.IsUntimed := ⟨rfl, rfl⟩
  have hlength : (cardCrawl.run cardSeed).requests.length = 3 := by decide +kernel
  obtain ⟨hexact, hconverged⟩ := run_withMaxFetches cardCrawl cardSeed hc
  have hfew := (hconverged status_run_cardCrawl).2 (hlength ▸ Nat.succ_pos 2)
  rw [hlength] at hfew
  exact ⟨hc, hlength, status_run_cardCrawl, (hexact 3 (by decide)).1 hlength.le,
    (hexact 2 (by decide)).2 (hlength ▸ Nat.lt_succ_self 2), hfew⟩

end Setting

end Courier.Crawl
