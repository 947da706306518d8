import Courier.Proofs.Crawl.Accounting

/-!
# The order of requests

Requests are made pass by pass.  When the first request of a pass is made, every request of the
passes before it has an outcome, and the plan was evaluated on what all of these documents assert.
Within a pass requests are made in the order in which their documents were discovered
(`Setting.exists_isMadeAfter_run`).

When a request is made, fewer of those before it are without an outcome than may be in flight
(`Setting.countP_isOpenAt_run_lt`).  This holds also among requests that are made and answered at
one instant.  So there are at no instant more than may be in flight
(`Setting.length_inFlightAt_run_le`).
-/

namespace Courier.Crawl

namespace State

/-- Whether no outcome of a request is noted up to the instant.  What is noted at the instant counts
as well: it makes room for what is requested then. -/
def IsOpenAt (s : State) (t : Nat) (entry : Nat × Request) : Prop :=
  ∀ e ∈ s.heard, e.document = entry.2.iri → t < e.instant

instance (s : State) (t : Nat) (entry : Nat × Request) : Decidable (s.IsOpenAt t entry) :=
  inferInstanceAs (Decidable (∀ e ∈ s.heard, e.document = entry.2.iri → t < e.instant))

/-- The requests made up to the instant of which no outcome is noted up to it. -/
def inFlightAt (s : State) (t : Nat) : List (Nat × Request) :=
  s.requests.filter fun entry => entry.1 ≤ t ∧ s.IsOpenAt t entry

/-- A request that is open at an instant was open before. -/
lemma IsOpenAt.mono {s : State} {t u : Nat} {entry : Nat × Request} (h : s.IsOpenAt u entry)
    (htu : t ≤ u) : s.IsOpenAt t entry :=
  fun e he hentry => htu.trans_lt (h e he hentry)

end State

namespace Setting

variable (c : Setting) {seed : Bindings}

/-! ### The pass in which a request is made -/

variable {c} in
/-- A request made by the end of a batch was made before the batch, or it is made for a job started,
after the requests for those started before it. -/
lemma requests_gather_eq_append_cons {s : State} {documents : List Iri}
    {earlier later : List (Nat × Request)} {entry : Nat × Request}
    (h : (c.gather s documents).requests = earlier ++ entry :: later) :
    (∃ later, s.requests = earlier ++ entry :: later) ∨
      ∃ row job rest, c.started s.clock documents = row ++ job :: rest ∧ entry = request job ∧
        earlier = s.requests ++ row.map request := by
  have hnew : ∀ made, (c.started s.clock documents).map request = made ++ entry :: later →
      ∃ row job rest, c.started s.clock documents = row ++ job :: rest ∧ entry = request job ∧
        made = row.map request := by
    intro made hmade
    obtain ⟨row, jobs, hsplit, rfl, hjobs⟩ := List.map_eq_append_iff.1 hmade
    obtain ⟨job, rest, rfl, rfl, -⟩ := List.map_eq_cons_iff.1 hjobs
    exact ⟨row, job, rest, hsplit, rfl, rfl⟩
  rw [requests_gather] at h
  rcases List.append_eq_append_iff.1 h with ⟨made, rfl, hstarted⟩ | ⟨_ | ⟨first, old⟩, hold, hrest⟩
  · obtain ⟨row, job, rest, hsplit, hentry, rfl⟩ := hnew made hstarted
    exact Or.inr ⟨row, job, rest, hsplit, hentry, rfl⟩
  · obtain ⟨row, job, rest, hsplit, hentry, hrow⟩ := hnew [] hrest.symm
    refine Or.inr ⟨row, job, rest, hsplit, hentry, ?_⟩
    rw [hold, ← hrow]
    simp
  · obtain ⟨rfl, -⟩ := List.cons.inj hrest
    exact Or.inl ⟨old, hold⟩

/-- Whether a request is made for a job in the batch after the pass that starts in a state, after
the given jobs of the batch. -/
structure IsMadeIn (s : State) (row : List (Span × Iri)) (job : Span × Iri) : Prop where
  /-- The crawl goes on after the pass. -/
  verdict_eq : c.verdict (s.evaluate c.plan) (s.evaluate c.plan).pending = none
  /-- The given jobs are started first, then this one. -/
  started_eq : ∃ rest,
    c.started (s.evaluate c.plan).clock (c.next (s.evaluate c.plan)) = row ++ job :: rest

/-- Whether every request of a state is made in the batch after some pass, after the requests of the
batches before it, and the outcomes of its batch are noted. -/
def IsMadeInPasses (seed : Bindings) (u : State) : Prop :=
  ∀ earlier entry later, u.requests = earlier ++ entry :: later →
    ∃ s row job, c.Reaches seed s ∧ c.IsMadeIn s row job ∧ entry = request job ∧
      earlier = s.requests ++ row.map request ∧
        (c.gather (s.evaluate c.plan) (c.next (s.evaluate c.plan))).heard <+: u.heard

/-- Along a crawl this is so: a batch adds the requests of the jobs started, in order. -/
lemma isKept_isMadeInPasses (seed : Bindings) : c.IsKept seed (c.IsMadeInPasses seed) where
  start earlier entry later h := by
    change [] = _ at h
    simp at h
  evaluate s hs := by
    unfold IsMadeInPasses
    rw [State.requests_evaluate, State.heard_evaluate]
    exact hs
  fetchBatch s hs hverdict hpasses := by
    obtain ⟨clock, hfetch⟩ := c.exists_fst_fetchBatch_eq (s.evaluate c.plan)
      (c.next (s.evaluate c.plan))
    rw [hfetch]
    intro earlier entry later h
    change (c.gather _ _).requests = _ at h
    change ∃ s row job, _ ∧ _ ∧ _ ∧ _ ∧ _ <+: (c.gather _ _).heard
    rcases requests_gather_eq_append_cons h with
      ⟨later, hold⟩ | ⟨row, job, rest, hstarted, hentry, hearlier⟩
    · obtain ⟨t, row, job, ht, hmade, hentry, hearlier, hheard⟩ := hpasses _ _ _ hold
      exact ⟨t, row, job, ht, hmade, hentry, hearlier,
        hheard.trans (c.prefix_heard_gather (s.evaluate c.plan) _)⟩
    · rw [State.requests_evaluate] at hearlier
      exact ⟨s, row, job, hs, ⟨hverdict, rest, hstarted⟩, hentry, hearlier, List.prefix_rfl⟩

/-! ### What is open when a request is made -/

variable {c}

/-- When a pass starts, every request made before it has an outcome, which was noted. -/
lemma Reaches.exists_heard {s : State} (hs : c.Reaches seed s) {entry : Nat × Request}
    (h : entry ∈ s.requests) : ∃ e ∈ s.heard,
      e.document = entry.2.iri ∧ e.entry ∈ s.outcomes ∧ e.instant ≤ s.clock := by
  have houtcomes := (c.isKept_outcomes_eq seed).of_reaches hs
  have hanswered := State.unanswered_eq_nil_iff.1 hs.isAccounted.2
  have hmem := hanswered _ (List.mem_map_of_mem h)
  rw [houtcomes, List.map_map] at hmem
  obtain ⟨e, he, hdocument⟩ := List.mem_map.1 hmem
  refine ⟨e, he, hdocument, ?_, hs.isDated.heard e he⟩
  rw [houtcomes]
  exact List.mem_map_of_mem he

/-- So the documents fetched by then are those requested. -/
lemma Reaches.fetched_eq_requested {s : State} (hs : c.Reaches seed s) :
    s.fetched = {d | d ∈ s.requested} := by
  obtain ⟨hbooks, hanswered⟩ := hs.isAccounted
  ext d
  exact ⟨hbooks.requested_of_mem d, State.unanswered_eq_nil_iff.1 hanswered d⟩

namespace IsMadeIn

variable {s : State} {row : List (Span × Iri)} {job : Span × Iri}

/-- The job comes after the given ones in its batch, and starts before the crawl is stopped. -/
lemma batch_eq (h : c.IsMadeIn s row job) :
    c.isBeforeStop job.1.start = true ∧ ∃ rest,
      c.batch (s.evaluate c.plan).clock (c.next (s.evaluate c.plan)) = row ++ job :: rest := by
  obtain ⟨rest, hstarted⟩ := h.started_eq
  obtain ⟨late, hbatch, -⟩ := c.exists_batch_eq_started_append (s.evaluate c.plan).clock
    (c.next (s.evaluate c.plan))
  refine ⟨?_, rest ++ late, ?_⟩
  · have hjob : job ∈ c.started (s.evaluate c.plan).clock (c.next (s.evaluate c.plan)) := by
      rw [hstarted]
      simp
    exact (List.mem_filter.1 hjob).2
  · rw [hbatch, hstarted, List.append_assoc, List.cons_append]

/-- It starts after the pass, and after the given ones. -/
lemma le_start (h : c.IsMadeIn s row job) :
    s.clock ≤ job.1.start ∧ ∀ other ∈ row, other.1.start ≤ job.1.start := by
  obtain ⟨-, rest, hbatch⟩ := h.batch_eq
  have hjob : job ∈ c.batch (s.evaluate c.plan).clock (c.next (s.evaluate c.plan)) := by
    rw [hbatch]
    simp
  have hstart := (le_start_of_mem_batch hjob).1
  rw [State.clock_evaluate] at hstart
  refine ⟨hstart, fun other hother => ?_⟩
  have hpairwise := c.pairwise_start_batch (s.evaluate c.plan).clock (c.next (s.evaluate c.plan))
  rw [hbatch] at hpairwise
  exact (List.pairwise_append.1 hpairwise).2.2 other hother job List.mem_cons_self

/-- When it starts, fewer of the given ones are unfinished than may be in flight. -/
lemma countP_lt_finish_lt (h : c.IsMadeIn s row job) :
    row.countP (fun other => job.1.start < other.1.finish) < max 1 c.limits.concurrency := by
  obtain ⟨-, rest, hbatch⟩ := h.batch_eq
  have hlt := countP_lt_finish_schedule_lt (schedule_eq_of_batch_eq hbatch)
  rw [List.countP_map] at hlt
  exact hlt

/-- A given job whose request is open then is unfinished: otherwise its outcome is noted. -/
lemma lt_finish_of_isOpenAt (h : c.IsMadeIn s row job) (hs : c.Reaches seed s) {u : State}
    (hheard : (c.gather (s.evaluate c.plan) (c.next (s.evaluate c.plan))).heard <+: u.heard)
    {other : Span × Iri} (hother : other ∈ row) (hopen : u.IsOpenAt job.1.start (request other)) :
    job.1.start < other.1.finish := by
  by_contra hfinish
  rw [not_lt] at hfinish
  obtain ⟨hbefore, rest, hbatch⟩ := h.batch_eq
  have hmem : other ∈ c.batch (s.evaluate c.plan).clock (c.next (s.evaluate c.plan)) := by
    rw [hbatch]
    exact List.mem_append_left _ hother
  have hrecorded := c.mem_recorded.2 ⟨hmem, c.isBeforeStop_of_le hfinish hbefore⟩
  have hnoted : c.event other ∈ u.heard := by
    refine hheard.subset ?_
    rw [heard_gather]
    exact List.mem_append_right _ (List.mem_map_of_mem hrecorded)
  have hdiscovered := hs.resources_subset_discovered.2 (c.next_subset _ (snd_mem_of_mem_batch hmem))
  exact (hopen _ hnoted (iri_documentRequest_of_mem_discovered hdiscovered).symm).not_ge hfinish

/-- The given jobs and this one are for the first documents pending. -/
lemma prefix_pending (h : c.IsMadeIn s row job) (hs : c.Reaches seed s) :
    (row.map request ++ [request job]).map (·.2.iri) <+: (s.evaluate c.plan).pending := by
  obtain ⟨-, rest, hbatch⟩ := h.batch_eq
  have hnext : (row ++ [job]).map Prod.snd <+: c.next (s.evaluate c.plan) := by
    refine ⟨rest.map Prod.snd, ?_⟩
    rw [← c.map_snd_batch (s.evaluate c.plan).clock (c.next (s.evaluate c.plan)), hbatch]
    simp
  have hiri : (row.map request ++ [request job]).map (·.2.iri) = (row ++ [job]).map Prod.snd := by
    rw [← List.map_singleton, ← List.map_append, List.map_map]
    refine List.map_congr_left fun other hother => ?_
    have hdocument := c.next_subset _ (hnext.subset (List.mem_map_of_mem hother))
    exact iri_documentRequest_of_mem_discovered (hs.resources_subset_discovered.2 hdocument)
  rw [hiri]
  exact hnext.trans (List.take_prefix _ _)

end IsMadeIn

/-! ### Every request in its turn -/

variable (c)

/-- Whether the request `entry`, before which a crawl makes the requests `earlier`, is made in the
batch after the pass that starts in the state `s`.  In the end the crawl is in the state `u`. -/
structure IsMadeAfter (s u : State) (earlier : List (Nat × Request)) (entry : Nat × Request) :
    Prop where
  /-- The batch comes after all batches before the pass, and asks for what is pending after it, in
  order. -/
  exists_row : ∃ row, earlier = s.requests ++ row ∧
    (row ++ [entry]).map (·.2.iri) <+: (s.evaluate c.plan).pending
  /-- When the pass starts, every request of the batches before it has an outcome. -/
  exists_heard : ∀ other ∈ s.requests, ∃ e ∈ s.heard,
    e.document = other.2.iri ∧ e.entry ∈ s.outcomes ∧ e.instant ≤ s.clock
  /-- The notes of these outcomes are among those of the crawl. -/
  prefix_heard : s.heard <+: u.heard
  /-- The pass evaluates the plan on all that the documents of these requests assert. -/
  facts_eq : s.store.quads.toSet = c.assertions {d | d ∈ s.requested}
  /-- The request is made after the pass. -/
  clock_le : s.clock ≤ entry.1

/-- Every request of a crawl is made after some pass, which has all documents requested before it,
and in the order in which documents were discovered. -/
theorem exists_isMadeAfter_run {earlier later : List (Nat × Request)} {entry : Nat × Request}
    (h : (c.run seed).requests = earlier ++ entry :: later) :
    ∃ s, c.Reaches seed s ∧ c.IsMadeAfter s (c.run seed).toState earlier entry := by
  obtain ⟨s, row, job, hs, hmade, rfl, rfl, hheard⟩ := (c.isKept_isMadeInPasses seed).of_run _ _ _ h
  have hnoted : s.heard <+: (c.run seed).heard := by
    rw [← s.heard_evaluate c.plan]
    exact (c.prefix_heard_gather _ _).trans hheard
  have hfacts : s.store.quads.toSet = c.assertions {d | d ∈ s.requested} := by
    rw [← hs.fetched_eq_requested]
    exact hs.invariant.facts_eq
  exact ⟨s, hs, ⟨row.map request, rfl, hmade.prefix_pending hs⟩,
    fun other hother => hs.exists_heard hother, hnoted, hfacts, hmade.le_start.1⟩

/-- Requests are made in order, and when one is made, fewer of those before it are without an
outcome than may be in flight. -/
theorem countP_isOpenAt_run_lt {earlier later : List (Nat × Request)} {entry : Nat × Request}
    (h : (c.run seed).requests = earlier ++ entry :: later) :
    (∀ other ∈ earlier, other.1 ≤ entry.1) ∧
      earlier.countP (fun other => (c.run seed).IsOpenAt entry.1 other) <
        max 1 c.limits.concurrency := by
  obtain ⟨s, row, job, hs, hmade, rfl, rfl, hheard⟩ := (c.isKept_isMadeInPasses seed).of_run _ _ _ h
  obtain ⟨hclock, hrow⟩ := hmade.le_start
  constructor
  · intro other hother
    rcases List.mem_append.1 hother with hother | hother
    · exact (hs.isDated.requests other hother).trans hclock
    · obtain ⟨before, hbefore, rfl⟩ := List.mem_map.1 hother
      exact hrow before hbefore
  · have hold : s.requests.countP
        (fun other => (c.run seed).IsOpenAt job.1.start other) = 0 := by
      rw [List.countP_eq_zero]
      intro other hother hopen
      obtain ⟨e, he, hdocument, -, hinstant⟩ := hs.exists_heard hother
      rw [← s.heard_evaluate c.plan] at he
      have hnoted := hheard.subset ((c.prefix_heard_gather _ _).subset he)
      exact (of_decide_eq_true hopen e hnoted hdocument).not_ge (hinstant.trans hclock)
    have hnew : (row.map request).countP
        (fun other => (c.run seed).IsOpenAt job.1.start other) ≤
          row.countP (fun other => job.1.start < other.1.finish) := by
      rw [List.countP_map]
      refine List.countP_mono_left fun other hother hopen => decide_eq_true ?_
      exact hmade.lt_finish_of_isOpenAt hs hheard hother (of_decide_eq_true hopen)
    have hlt := hmade.countP_lt_finish_lt
    change (s.requests ++ row.map request).countP
      (fun other => (c.run seed).IsOpenAt job.1.start other) < _
    rw [List.countP_append, hold, Nat.zero_add]
    exact hnew.trans_lt hlt

/-- At no instant are more requests in flight than may be. -/
theorem length_inFlightAt_run_le (seed : Bindings) (t : Nat) :
    ((c.run seed).inFlightAt t).length ≤ max 1 c.limits.concurrency := by
  -- The last one was made when the others were in flight.
  rcases List.eq_nil_or_concat ((c.run seed).inFlightAt t) with hnil | ⟨others, last, hlast⟩
  · rw [hnil]
    exact Nat.zero_le _
  · rw [List.concat_eq_append] at hlast
    rw [hlast, List.length_append, List.length_singleton]
    unfold State.inFlightAt at hlast
    obtain ⟨first, rest, hsplit, hothers, hrest⟩ := List.filter_eq_append_iff.1 hlast
    obtain ⟨closed, later, rfl, -, hopen, -⟩ := List.filter_eq_cons_iff.1 hrest
    rw [← List.append_assoc] at hsplit
    have hlt := (c.countP_isOpenAt_run_lt hsplit).2
    have hmade := (of_decide_eq_true hopen).1
    have hle : others.length ≤ (first ++ closed).countP
        (fun other => (c.run seed).IsOpenAt last.1 other) := by
      rw [← hothers, ← List.countP_eq_length_filter, List.countP_append]
      refine Nat.le_add_right_of_le (List.countP_mono_left fun other _ hother => decide_eq_true ?_)
      exact (of_decide_eq_true hother).2.mono hmade
    omega

/-- At no instant of a crawl are more requests without an outcome than may be in flight, and each is
made while there is room for it.  A request is made only after every request of the passes before
has its outcome and the plan was evaluated on all that they brought; requests of one pass are made
in the order in which their documents were discovered. -/
theorem inFlightAt_run (c : Setting) (seed : Bindings) :
    (∀ t, ((c.run seed).inFlightAt t).length ≤ max 1 c.limits.concurrency) ∧
      ∀ earlier entry later, (c.run seed).requests = earlier ++ entry :: later →
        earlier.countP (fun other => (c.run seed).IsOpenAt entry.1 other) <
            max 1 c.limits.concurrency ∧
          (∀ other ∈ earlier, other.1 ≤ entry.1) ∧
          ∃ s, c.Reaches seed s ∧ c.IsMadeAfter s (c.run seed).toState earlier entry := by
  refine ⟨c.length_inFlightAt_run_le seed, fun earlier entry later h => ?_⟩
  obtain ⟨horder, hroom⟩ := c.countP_isOpenAt_run_lt h
  exact ⟨hroom, horder, c.exists_isMadeAfter_run h⟩

/-- Reading the card and what it refers to with no document in flight at a time, which counts as
one. -/
def narrowCardCrawl : Setting :=
  { hurriedCardCrawl with limits := { concurrency := 0 } }

/-- While the second document is waited for it is in flight alone, which is as many as there may be.
The third one is requested after a pass that starts when this one has come. -/
theorem inFlightAt_run_narrowCardCrawl :
    ((narrowCardCrawl.run cardSeed).inFlightAt 6).length =
        max 1 narrowCardCrawl.limits.concurrency ∧
      (narrowCardCrawl.run cardSeed).requested = [⟨"a:card"⟩, ⟨"a:more"⟩, ⟨"a:gone"⟩] ∧
      ∃ s, narrowCardCrawl.Reaches cardSeed s ∧ s.requested <+: [⟨"a:card"⟩, ⟨"a:more"⟩] ∧
        (∀ other ∈ s.requests, ∃ e ∈ s.heard,
          e.document = other.2.iri ∧ e.entry ∈ s.outcomes ∧ e.instant ≤ s.clock) ∧
        s.store.quads.toSet = narrowCardCrawl.assertions {d | d ∈ s.requested} := by
  obtain ⟨hroom, hturn⟩ := inFlightAt_run narrowCardCrawl cardSeed
  have hopen : max 1 narrowCardCrawl.limits.concurrency ≤
      ((narrowCardCrawl.run cardSeed).inFlightAt 6).length := by decide +kernel
  have hrequests : (narrowCardCrawl.run cardSeed).requests =
      [(0, Iri.documentRequest ⟨"a:card"⟩), (0, Iri.documentRequest ⟨"a:more"⟩)] ++
        (7, Iri.documentRequest ⟨"a:gone"⟩) :: [] := by
    decide +kernel
  obtain ⟨-, -, s, hs, ⟨row, hrow, -⟩, hheard, -, hfacts, -⟩ := hturn _ _ _ hrequests
  refine ⟨(hroom 6).antisymm hopen, by decide +kernel, s, hs, ⟨row.map (·.2.iri), ?_⟩, hheard,
    hfacts⟩
  have hrequested := congrArg (List.map (·.2.iri)) hrow
  rw [List.map_append] at hrequested
  exact hrequested.symm

end Setting

end Courier.Crawl
