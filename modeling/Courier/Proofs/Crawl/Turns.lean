import Courier.Proofs.Crawl.Convergence
import Courier.Proofs.Http.Document
import Mathlib.Data.List.Forall2
import Mathlib.Data.List.Induction

/-!
# Turns of a batch

When the documents of a batch have their turn.  A job starts at the first instant at which fewer of
the jobs before it are unfinished than there is room for (`isLeast_start_schedule`).  That says all
about schedules: each start is determined by the jobs before it, and where there is more room the
jobs before it finish no later, so an instant that would do with less room will do
(`schedule_mono`).  No order on the places that jobs take is needed for this.

What came of the documents is recorded in the order in which they finish, and of those that finish
together in the order in which they started (`exists_perm_byFinish`).
-/

namespace Courier.Crawl

/-! ### The first instant with room -/

/-- A job finishes when its duration has passed. -/
lemma finish_eq_of_mem_zip {room now : Nat} (hroom : 0 < room) {busy durations : List Nat}
    {entry : Span × Nat} (h : entry ∈ (spans room now busy durations).zip durations) :
    entry.1.finish = entry.1.start + entry.2 := by
  induction durations generalizing busy with
  | nil => simp at h
  | cons duration rest ih =>
    obtain ⟨start, left, hspans, -⟩ := exists_spans_cons hroom now busy duration
    rw [hspans rest, List.zip_cons_cons] at h
    rcases List.mem_cons.1 h with rfl | h
    · rfl
    · exact ih h

/-- As long as a job waits, at least as many of the jobs before it are unfinished as there is room
for. -/
lemma le_countP_lt_finish_spans {room now : Nat} (hroom : 0 < room) {busy durations : List Nat}
    (hsorted : busy.Pairwise (· ≤ ·)) {earlier later : List Span} {span : Span}
    (h : spans room now busy durations = earlier ++ span :: later) {t : Nat} (hnow : now ≤ t)
    (ht : t < span.start) :
    room ≤ earlier.countP (t < ·.finish) + busy.countP (t < ·) := by
  induction durations generalizing busy earlier with
  | nil =>
    rw [spans] at h
    simp at h
  | cons duration rest ih =>
    obtain ⟨start, left, hspans, hplace⟩ := exists_spans_cons hroom now busy duration
    have hsorted' : left.Pairwise (· ≤ ·) := by
      rcases hplace with ⟨-, rfl, -⟩ | ⟨rfl, -⟩
      · exact hsorted
      · exact hsorted.of_cons
    rw [hspans rest] at h
    cases earlier with
    | nil =>
      obtain ⟨rfl, -⟩ := List.cons.inj h
      rcases hplace with ⟨rfl, -, -⟩ | ⟨rfl, hfull⟩
      · exact absurd hnow (Nat.not_le.2 ht)
      · -- Every place is taken at least until the one that the job takes is free.
        have htaken : ∀ u ∈ start :: left, decide (t < u) = true := by
          intro u hu
          rcases List.mem_cons.1 hu with rfl | hu
          · exact decide_eq_true ht
          · exact decide_eq_true (ht.trans_le ((List.pairwise_cons.1 hsorted).1 u hu))
        rw [List.countP_nil, Nat.zero_add, List.countP_eq_length.2 htaken]
        exact hfull
    | cons first earlier =>
      obtain ⟨rfl, hrest⟩ := List.cons.inj h
      have hrec := ih (pairwise_insertInstant hsorted') hrest
      have hleft : left.countP (t < ·) ≤ busy.countP (t < ·) := by
        rcases hplace with ⟨-, rfl, -⟩ | ⟨rfl, -⟩
        · exact le_rfl
        · exact (List.sublist_cons_self _ _).countP_le
      rw [(insertInstant_perm _ _).countP_eq, List.countP_cons] at hrec
      rw [List.countP_cons]
      dsimp only
      omega

/-- A job of a batch starts at the first instant at which fewer of the jobs before it are unfinished
than there is room for. -/
theorem isLeast_start_schedule {room now : Nat} {durations : List Nat} {earlier later : List Span}
    {span : Span} (h : schedule room now durations = earlier ++ span :: later) :
    IsLeast {t | now ≤ t ∧ earlier.countP (t < ·.finish) < max 1 room} span.start := by
  have hmem : span ∈ schedule room now durations := by
    rw [h]
    exact List.mem_append_right _ List.mem_cons_self
  refine ⟨⟨le_start_of_mem_schedule hmem, countP_lt_finish_schedule_lt h⟩, ?_⟩
  rintro t ⟨hnow, hroom⟩
  by_contra hlate
  have hfull := le_countP_lt_finish_spans (le_max_left 1 room) .nil h hnow (Nat.not_le.1 hlate)
  rw [List.countP_nil, Nat.add_zero] at hfull
  exact hfull.not_gt hroom

/-- One more job at the end of a batch starts at the first instant with room for it. -/
lemma exists_schedule_append (room now : Nat) (durations : List Nat) (duration : Nat) :
    ∃ start, schedule room now (durations ++ [duration]) =
        schedule room now durations ++ [⟨start, start + duration⟩] ∧
      IsLeast {t | now ≤ t ∧ (schedule room now durations).countP (t < ·.finish) < max 1 room}
        start := by
  have hlength : ∀ durations, (schedule room now durations).length = durations.length :=
    length_spans _ _ _
  have htake := schedule_take room now (durations ++ [duration]) durations.length
  rw [List.take_left] at htake
  obtain ⟨last, hlast⟩ : ∃ last,
      (schedule room now (durations ++ [duration])).drop durations.length = [last] := by
    rw [← List.length_eq_one_iff, List.length_drop, hlength, List.length_append]
    simp
  have hsplit := List.take_append_drop durations.length
    (schedule room now (durations ++ [duration]))
  rw [← htake, hlast] at hsplit
  have hfinish : last.finish = last.start + duration := by
    have hmem : (last, duration) ∈
        (schedule room now (durations ++ [duration])).zip (durations ++ [duration]) := by
      rw [← hsplit, List.zip_append (hlength durations)]
      exact List.mem_append_right _ List.mem_cons_self
    exact finish_eq_of_mem_zip (le_max_left 1 room) hmem
  refine ⟨last.start, ?_, isLeast_start_schedule hsplit.symm⟩
  rw [← hsplit, ← hfinish]

/-! ### More room -/

/-- Whether a job neither starts nor finishes later than another. -/
structure Span.IsNoLater (a b : Span) : Prop where
  /-- It starts no later. -/
  start : a.start ≤ b.start
  /-- It finishes no later. -/
  finish : a.finish ≤ b.finish

/-- Of jobs that finish no later, no more are unfinished at an instant. -/
lemma countP_lt_finish_le {row row' : List Span} (h : List.Forall₂ Span.IsNoLater row row')
    (t : Nat) :
    row.countP (t < ·.finish) ≤ row'.countP (t < ·.finish) := by
  induction h with
  | nil => exact le_rfl
  | @cons a b row row' hab _ ih =>
    have hfirst : t < a.finish → t < b.finish := fun ha => ha.trans_le hab.finish
    rw [List.countP_cons, List.countP_cons]
    refine Nat.add_le_add ih ?_
    by_cases ha : t < a.finish
    · simp [ha, hfirst ha]
    · simp [ha]

/-- Of jobs that finish no later, the last one finishes no later. -/
lemma foldl_max_finish_mono {row row' : List Span} (h : List.Forall₂ Span.IsNoLater row row')
    {t t' : Nat} (ht : t ≤ t') :
    row.foldl (fun t span => max t span.finish) t ≤
      row'.foldl (fun t span => max t span.finish) t' := by
  induction h generalizing t t' with
  | nil => exact ht
  | @cons a b row row' hab _ ih =>
    refine ih ?_
    have hfinish := hab.finish
    dsimp only
    omega

/-- With more room no job starts or finishes later. -/
theorem schedule_mono {room room' : Nat} (h : room ≤ room') (now : Nat) (durations : List Nat) :
    List.Forall₂ Span.IsNoLater (schedule room' now durations) (schedule room now durations) := by
  induction durations using List.reverseRecOn with
  | nil => exact .nil
  | append_singleton durations duration ih =>
    obtain ⟨start, hrow, ⟨hnow, hfree⟩, -⟩ := exists_schedule_append room now durations duration
    obtain ⟨start', hrow', -, hleast⟩ := exists_schedule_append room' now durations duration
    -- The jobs before have finished no later, so there is room for the job when it starts.
    have hstart : start' ≤ start := by
      refine hleast ⟨hnow, ?_⟩
      calc (schedule room' now durations).countP (start < ·.finish)
          ≤ (schedule room now durations).countP (start < ·.finish) := countP_lt_finish_le ih start
        _ < max 1 room := hfree
        _ ≤ max 1 room' := by omega
    rw [hrow, hrow']
    exact List.rel_append ih (.cons ⟨hstart, Nat.add_le_add_right hstart duration⟩ .nil)

/-! ### The order of recording -/

/-- Whether a job with its place in a batch comes before another where jobs are listed in the order
in which they finish, and in the order in which they started if they finish together. -/
def IsSooner {α : Type} (a b : (Span × α) × Nat) : Prop :=
  a.1.1.finish < b.1.1.finish ∨ a.1.1.finish = b.1.1.finish ∧ a.2 < b.2

/-- Jobs are listed by when they finish and then by their places, each once. -/
theorem exists_perm_byFinish {α : Type} (jobs : List (Span × α)) :
    ∃ order : List ((Span × α) × Nat), order.Perm jobs.zipIdx ∧ order.Pairwise IsSooner ∧
      byFinish jobs = order.map Prod.fst := by
  let le := List.zipIdxLE fun a b : Span × α => decide (a.1.finish ≤ b.1.finish)
  have hperm : (jobs.zipIdx.mergeSort le).Perm jobs.zipIdx := List.mergeSort_perm _ _
  have hplaces : (jobs.zipIdx.mergeSort le).Pairwise fun a b => a.2 ≠ b.2 := by
    have hnodup : (jobs.zipIdx.map Prod.snd).Nodup := by
      rw [List.zipIdx_map_snd]
      exact List.nodup_range'
    exact List.pairwise_map.1 ((hperm.map Prod.snd).nodup_iff.2 hnodup)
  have hsorted : (jobs.zipIdx.mergeSort le).Pairwise fun a b => le a b = true :=
    List.pairwise_mergeSort (List.zipIdxLE_trans finish_le_trans)
      (List.zipIdxLE_total finish_le_total) _
  refine ⟨jobs.zipIdx.mergeSort le, hperm, ?_, List.mergeSort_zipIdx.symm⟩
  refine (hsorted.and hplaces).imp ?_
  rintro a b ⟨hle, hne⟩
  simp only [le, List.zipIdxLE, decide_eq_true_eq] at hle
  unfold IsSooner
  split at hle
  · split at hle
    · have hplace : a.2 ≤ b.2 := of_decide_eq_true hle
      omega
    · omega
  · cases hle

/-! ### Batches -/

/-- Whether an outcome is that the document took too long. -/
def Outcome.isTimeout : Outcome → Bool
  | .failed (.timeout _) => true
  | _ => false

lemma Outcome.isTimeout_ofResult {result : Except FetchError (List Triple)} :
    (Outcome.ofResult result).isTimeout = true ↔ ∃ i, result = .error (.timeout i) := by
  cases result with
  | ok ts => simp [ofResult, isTimeout]
  | error e => cases e <;> simp [ofResult, isTimeout]

namespace Setting

variable (c : Setting)

/-- The crawl with another number of documents in flight. -/
def withConcurrency (concurrency : Nat) : Setting :=
  { c with limits := { c.limits with concurrency } }

/-- Whether a batch of the documents turns the state `s` into `t` as it does if it is not
interrupted. -/
structure CarriesOut (s : State) (documents : List Iri) (t : State) : Prop where
  /-- There is a job for each document, in order. -/
  documents_eq : (c.batch s.clock documents).map Prod.snd = documents
  /-- A job starts at the first instant of the batch at which fewer of the jobs before it are
  unfinished than there is room for. -/
  isLeast_start : ∀ earlier job later, c.batch s.clock documents = earlier ++ job :: later →
    IsLeast {u | s.clock ≤ u ∧
      earlier.countP (u < ·.1.finish) < max 1 c.limits.concurrency} job.1.start
  /-- It finishes when the document has come, or when this has taken as long as it may. -/
  finish_eq : ∀ job ∈ c.batch s.clock documents,
    job.1.finish = job.1.start + min (c.fetcher.delay job.2.documentRequest) c.limits.fetchTimeout
  /-- The document is requested when its job starts. -/
  requests_eq : t.requests = s.requests ++
    (c.batch s.clock documents).map fun job => (job.1.start, job.2.documentRequest)
  /-- What came of the documents is recorded, of each once, in the order in which the jobs finish,
  and of those that finish together in the order in which they started. -/
  exists_order : ∃ order : List ((Span × Iri) × Nat),
    order.Perm (c.batch s.clock documents).zipIdx ∧ order.Pairwise IsSooner ∧
      t = { c.recordAll { s with requests := t.requests } (order.map Prod.fst) with
        clock := c.lastFinish s.clock documents } ∧
      t.heard = s.heard ++
        order.map fun entry => ⟨entry.1.1.finish, entry.1.2, c.outcome entry.1.2⟩
  /-- A document that takes longer than it may fails for this reason, and of any other one there is
  recorded what the fetcher brings. -/
  outcome_eq : ∀ d ∈ documents, c.outcome d =
    if c.limits.fetchTimeout < c.fetcher.delay d.documentRequest then .failed (.timeout d)
    else .ofResult (c.fetcher.document c.reading d)
  /-- So a document is recorded as taking too long exactly if it does, unless this is the fetcher's
  own answer. -/
  isTimeout_iff : ∀ d ∈ documents, (c.outcome d).isTimeout = true ↔
    c.limits.fetchTimeout < c.fetcher.delay d.documentRequest ∨
      ∃ i, c.fetcher.answer d.documentRequest = .error (.timeout i)

variable {c}

lemma finish_eq_of_mem_batch {now : Nat} {documents : List Iri} {job : Span × Iri}
    (h : job ∈ c.batch now documents) :
    job.1.finish =
      job.1.start + min (c.fetcher.delay job.2.documentRequest) c.limits.fetchTimeout := by
  have hmem : (job.1, c.duration job.2) ∈
      (schedule c.limits.concurrency now (documents.map c.duration)).zip
        (documents.map c.duration) := by
    rw [List.zip_map_right]
    exact List.mem_map_of_mem h
  exact finish_eq_of_mem_zip (le_max_left 1 _) hmem

lemma isLeast_start_batch {now : Nat} {documents : List Iri} {earlier later : List (Span × Iri)}
    {job : Span × Iri} (h : c.batch now documents = earlier ++ job :: later) :
    IsLeast {t | now ≤ t ∧ earlier.countP (t < ·.1.finish) < max 1 c.limits.concurrency}
      job.1.start := by
  have hleast := isLeast_start_schedule (schedule_eq_of_batch_eq h)
  simp only [List.countP_map] at hleast
  exact hleast

variable (c)

lemma outcome_eq_ite (d : Iri) :
    c.outcome d =
      if c.limits.fetchTimeout < c.fetcher.delay d.documentRequest then .failed (.timeout d)
      else .ofResult (c.fetcher.document c.reading d) := by
  unfold outcome load
  by_cases hlate : c.limits.fetchTimeout < c.fetcher.delay d.documentRequest
  · rw [if_pos hlate, if_neg (Nat.not_le.2 hlate)]
    rfl
  · rw [if_neg hlate, if_pos (Nat.not_lt.1 hlate)]

lemma isTimeout_outcome_iff (d : Iri) :
    (c.outcome d).isTimeout = true ↔
      c.limits.fetchTimeout < c.fetcher.delay d.documentRequest ∨
        ∃ i, c.fetcher.answer d.documentRequest = .error (.timeout i) := by
  rw [outcome_eq_ite]
  split
  next hlate => exact iff_of_true rfl (Or.inl hlate)
  next hlate =>
    rw [or_iff_right hlate, Outcome.isTimeout_ofResult]
    exact exists_congr fun i => Fetcher.document_eq_timeout_iff

/-- A batch is not interrupted exactly if its last job finishes before the crawl is stopped. -/
lemma snd_fetchBatch_eq_none_iff (s : State) (documents : List Iri) :
    (c.fetchBatch s documents).2 = none ↔
      c.isBeforeStop (c.lastFinish s.clock documents) = true := by
  rcases c.fetchBatch_cases s documents with ⟨hlast, hfetch⟩ | ⟨stop, hstop, hlast, hfetch⟩
  · rw [hfetch]
    exact iff_of_true rfl hlast
  · rw [hfetch, isBeforeStop, hstop]
    exact iff_of_false (Option.some_ne_none _) (Bool.eq_false_iff.1 hlast)

section Uninterrupted

variable {c} {s : State} {documents : List Iri} (h : (c.fetchBatch s documents).2 = none)

include h

/-- A batch that is not interrupted notes all its jobs in the order in which they finish. -/
lemma heard_fetchBatch :
    (c.fetchBatch s documents).1.heard =
      s.heard ++ (byFinish (c.batch s.clock documents)).map c.event := by
  have hfetch : c.fetchBatch s documents = ((c.fetchBatch s documents).1, none) := Prod.ext rfl h
  obtain ⟨hlast, ht⟩ := c.eq_of_fetchBatch_eq_none hfetch
  rw [ht, ← (c.started_and_recorded hlast).2]
  exact c.heard_gather s documents

lemma carriesOut_fetchBatch : c.CarriesOut s documents (c.fetchBatch s documents).1 := by
  have hfetch : c.fetchBatch s documents = ((c.fetchBatch s documents).1, none) := Prod.ext rfl h
  obtain ⟨hlast, ht⟩ := c.eq_of_fetchBatch_eq_none hfetch
  obtain ⟨hstarted, hrecorded⟩ := c.started_and_recorded hlast
  obtain ⟨order, hperm, hsorted, horder⟩ := exists_perm_byFinish (c.batch s.clock documents)
  have hrequests : (c.fetchBatch s documents).1.requests =
      s.requests ++ (c.batch s.clock documents).map request := by
    rw [ht, ← hstarted]
    exact c.requests_gather s documents
  refine ⟨c.map_snd_batch _ _, fun _ _ _ => isLeast_start_batch, fun _ => finish_eq_of_mem_batch,
    hrequests, ⟨order, hperm, hsorted, ?_, ?_⟩, fun d _ => c.outcome_eq_ite d,
    fun d _ => c.isTimeout_outcome_iff d⟩
  · rw [hrequests, ← horder, ht, gather, hstarted, hrecorded]
  · rw [heard_fetchBatch h, horder, List.map_map]
    rfl

end Uninterrupted

/-! ### More documents in flight -/

section Concurrency

variable {room : Nat} (h : c.limits.concurrency ≤ room)

include h

/-- With more documents in flight no job of a batch starts or finishes later. -/
lemma forall₂_batch_withConcurrency (now : Nat) (documents : List Iri) :
    List.Forall₂ Span.IsNoLater (((c.withConcurrency room).batch now documents).map Prod.fst)
      ((c.batch now documents).map Prod.fst) := by
  rw [map_fst_batch, map_fst_batch]
  exact schedule_mono h now (documents.map c.duration)

/-- With more documents in flight a batch ends no later. -/
lemma lastFinish_withConcurrency_le (now : Nat) (documents : List Iri) :
    (c.withConcurrency room).lastFinish now documents ≤ c.lastFinish now documents := by
  have hlast : ∀ (e : Setting), e.lastFinish now documents =
      ((e.batch now documents).map Prod.fst).foldl (fun t span => max t span.finish) now := by
    intro e
    rw [List.foldl_map]
    rfl
  rw [hlast, hlast]
  exact foldl_max_finish_mono (c.forall₂_batch_withConcurrency h now documents) le_rfl

end Concurrency

/-- A batch that is not interrupted starts each document at the first instant with room for it,
waits for it no longer than it may take, and records what came of the documents in the order in
which they finish, those that finish together in the order in which they started.  When the first
documents of a batch start and finish does not depend on the others.  With more documents in flight
no document starts or finishes later, and a batch that was not interrupted is not interrupted. -/
theorem fetchBatch_turns (c : Setting) (s : State) (documents : List Iri) :
    ((c.fetchBatch s documents).2 = none →
        c.CarriesOut s documents (c.fetchBatch s documents).1) ∧
      (∀ k others, others.take k = documents.take k →
        (c.batch s.clock others).take k = (c.batch s.clock documents).take k) ∧
      ∀ room, c.limits.concurrency ≤ room →
        List.Forall₂ Span.IsNoLater
            (((c.withConcurrency room).batch s.clock documents).map Prod.fst)
            ((c.batch s.clock documents).map Prod.fst) ∧
          ((c.fetchBatch s documents).2 = none →
            ((c.withConcurrency room).fetchBatch s documents).2 = none) := by
  refine ⟨fun h => carriesOut_fetchBatch h, fun k others hothers => ?_,
    fun room hroom => ⟨c.forall₂_batch_withConcurrency hroom _ _, fun h => ?_⟩⟩
  · rw [← batch_take, ← batch_take, hothers]
  · rw [snd_fetchBatch_eq_none_iff] at h ⊢
    exact c.isBeforeStop_of_le (c.lastFinish_withConcurrency_le hroom _ _) h

/-- Four documents, of which the second takes longer than it may. -/
def unevenDocuments : List Iri :=
  [⟨"a:card"⟩, ⟨"a:more"⟩, ⟨"a:gone"⟩, ⟨"a:next"⟩]

/-- Fetching them two at a time. -/
def unevenCrawl : Setting :=
  { cardCrawl with
    fetcher := (((cardWeb.setDelay "a:card" 4).setDelay "a:more" 9).setDelay "a:next" 2).fetcher
    limits := { deadline := none, fetchTimeout := 6, concurrency := 2 } }

/-- The third document and the fourth wait for the first one.  The third, which is answered at once,
is recorded right after it; the fourth finishes when the second has taken as long as it may, and is
recorded after it.  Three at a time are fetched no later. -/
theorem fetchBatch_unevenCrawl :
    (unevenCrawl.fetchBatch {} unevenDocuments).2 = none ∧
      unevenCrawl.CarriesOut {} unevenDocuments (unevenCrawl.fetchBatch {} unevenDocuments).1 ∧
      (unevenCrawl.fetchBatch {} unevenDocuments).1.heard =
        [⟨4, ⟨"a:card"⟩, .loaded 1⟩, ⟨4, ⟨"a:gone"⟩, .failed (.status ⟨"a:gone"⟩ 404)⟩,
          ⟨6, ⟨"a:more"⟩, .failed (.timeout ⟨"a:more"⟩)⟩,
          ⟨6, ⟨"a:next"⟩, .failed (.status ⟨"a:next"⟩ 404)⟩] ∧
      (unevenCrawl.batch 0 (unevenDocuments.take 2 ++ [⟨"a:next"⟩])).take 2 =
        (unevenCrawl.batch 0 unevenDocuments).take 2 ∧
      List.Forall₂ Span.IsNoLater
        (((unevenCrawl.withConcurrency 3).batch 0 unevenDocuments).map Prod.fst)
        ((unevenCrawl.batch 0 unevenDocuments).map Prod.fst) ∧
      ((unevenCrawl.withConcurrency 3).fetchBatch {} unevenDocuments).2 = none := by
  obtain ⟨hdone, hfirst, hmore⟩ := fetchBatch_turns unevenCrawl {} unevenDocuments
  obtain ⟨hlater, hstill⟩ := hmore 3 (by decide)
  have hnone : (unevenCrawl.fetchBatch {} unevenDocuments).2 = none := by decide +kernel
  have hbatch : unevenCrawl.batch 0 unevenDocuments =
      [(⟨0, 4⟩, ⟨"a:card"⟩), (⟨0, 6⟩, ⟨"a:more"⟩), (⟨4, 4⟩, ⟨"a:gone"⟩), (⟨4, 6⟩, ⟨"a:next"⟩)] := by
    decide +kernel
  have horder : byFinish (unevenCrawl.batch 0 unevenDocuments) =
      [(⟨0, 4⟩, ⟨"a:card"⟩), (⟨4, 4⟩, ⟨"a:gone"⟩), (⟨0, 6⟩, ⟨"a:more"⟩), (⟨4, 6⟩, ⟨"a:next"⟩)] := by
    rw [hbatch]
    simp [byFinish, List.mergeSort, List.MergeSort.Internal.splitInTwo]
  refine ⟨hnone, hdone hnone, ?_, hfirst 2 _ rfl, hlater, hstill hnone⟩
  rw [heard_fetchBatch hnone]
  change [] ++ (byFinish (unevenCrawl.batch 0 unevenDocuments)).map unevenCrawl.event = _
  rw [horder]
  decide +kernel

end Setting

end Courier.Crawl
