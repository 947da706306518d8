import Courier.Proofs.Crawl.Pass
import Courier.Proofs.Crawl.Schedule

/-!
# Batches of a crawl

What a batch does to the state of a crawl.  The documents of a batch finish in some order, and those
that finish before the crawl is stopped are recorded in that order (`Setting.recorded`).  What is
recorded of a document never depends on when it finishes.  A batch that is not interrupted records
every one of its documents.
-/

namespace Courier.Crawl

/-- What is recorded of a document that was fetched with the given result. -/
def Outcome.ofResult : Except FetchError (List Triple) → Outcome
  | .ok ts => .loaded ts.length
  | .error e => .failed e

namespace Setting

/-- What comes of a document whenever it is fetched. -/
def outcome (c : Setting) (document : Iri) : Outcome :=
  .ofResult (c.load document)

/-- The quads that the documents assert, as far as they can be loaded. -/
def assertions (c : Setting) (documents : Set Iri) : Set Quad :=
  {q | ∃ d ∈ documents, ∃ ts, c.load d = .ok ts ∧ ∃ t ∈ ts, (t.inGraph d == q) = true}

lemma assertions_mono (c : Setting) {x y : Set Iri} (h : x ⊆ y) :
    c.assertions x ⊆ c.assertions y := by
  rintro q ⟨d, hd, hq⟩
  exact ⟨d, h hd, hq⟩

lemma assertions_union (c : Setting) (x y : Set Iri) :
    c.assertions (x ∪ y) = c.assertions x ∪ c.assertions y := by
  ext q
  constructor
  · rintro ⟨d, hd | hd, hq⟩
    · exact Or.inl ⟨d, hd, hq⟩
    · exact Or.inr ⟨d, hd, hq⟩
  · rintro (⟨d, hd, hq⟩ | ⟨d, hd, hq⟩)
    · exact ⟨d, Or.inl hd, hq⟩
    · exact ⟨d, Or.inr hd, hq⟩

end Setting

/-! ### Recording -/

namespace State

variable (s : State) (instant : Nat) (document : Iri) (result : Except FetchError (List Triple))

lemma outcomes_record :
    (s.record instant document result).outcomes =
      s.outcomes ++ [(document, Outcome.ofResult result)] := by
  cases result <;> rfl

lemma heard_record :
    (s.record instant document result).heard =
      s.heard ++ [⟨instant, document, Outcome.ofResult result⟩] := by
  cases result <;> rfl

lemma facts_record (c : Setting) :
    (s.record instant document (c.load document)).store.quads.toSet =
      s.store.quads.toSet ∪ c.assertions {document} := by
  ext q
  unfold record
  cases hload : c.load document with
  | ok ts =>
    change q ∈ (s.store.addGraph document ts).quads.toSet ↔ _
    rw [Store.mem_toSet_addGraph]
    refine or_congr_right ?_
    simp [Setting.assertions, hload]
  | error e =>
    change q ∈ s.store.quads.toSet ↔ _
    refine (or_iff_left ?_).symm
    simp [Setting.assertions, hload]

end State

namespace Setting

variable (c : Setting)

/-- The state in which jobs were recorded one after the other. -/
def recordAll (s : State) (jobs : List (Span × Iri)) : State :=
  jobs.foldl (fun s job => s.record job.1.finish job.2 (c.load job.2)) s

/-- What recording leaves as it is, and what it adds. -/
structure Records (s t : State) (documents : List Iri) : Prop where
  /-- Outcomes are added in order. -/
  outcomes : t.outcomes = s.outcomes ++ documents.map fun d => (d, c.outcome d)
  /-- What the documents assert is added. -/
  facts : t.store.quads.toSet = s.store.quads.toSet ∪ c.assertions {d | d ∈ documents}
  /-- The bindings stay. -/
  bindings : t.bindings = s.bindings
  /-- The documents discovered stay. -/
  resources : t.resources = s.resources
  /-- The number of passes stays. -/
  passes : t.passes = s.passes

lemma records_recordAll (s : State) (jobs : List (Span × Iri)) :
    c.Records s (c.recordAll s jobs) (jobs.map Prod.snd) := by
  induction jobs generalizing s with
  | nil => exact ⟨by simp [recordAll], by simp [recordAll, assertions], rfl, rfl, rfl⟩
  | cons job jobs ih =>
    have hrest := ih (s.record job.1.finish job.2 (c.load job.2))
    refine ⟨?_, ?_, hrest.bindings, hrest.resources, hrest.passes⟩
    · refine hrest.outcomes.trans ?_
      rw [State.outcomes_record, List.append_assoc]
      rfl
    · refine hrest.facts.trans ?_
      rw [State.facts_record, Set.union_assoc, ← assertions_union]
      congr 2
      ext d
      simp

/-- The note that is left of a job's outcome. -/
def event (job : Span × Iri) : Event :=
  ⟨job.1.finish, job.2, c.outcome job.2⟩

lemma heard_recordAll (s : State) (jobs : List (Span × Iri)) :
    (c.recordAll s jobs).heard = s.heard ++ jobs.map c.event := by
  induction jobs generalizing s with
  | nil => simp [recordAll]
  | cons job jobs ih =>
    refine (ih (s.record job.1.finish job.2 (c.load job.2))).trans ?_
    rw [State.heard_record, List.append_assoc]
    rfl

/-- Recording leaves the requests and the clock as they are. -/
lemma recordAll_eq (s : State) (jobs : List (Span × Iri)) :
    (c.recordAll s jobs).requests = s.requests ∧ (c.recordAll s jobs).clock = s.clock := by
  induction jobs generalizing s with
  | nil => exact ⟨rfl, rfl⟩
  | cons job jobs ih => exact ih (s.record job.1.finish job.2 (c.load job.2))

/-! ### Batches -/

/-- The jobs of a batch that are started: those that start before the crawl is stopped. -/
def started (now : Nat) (documents : List Iri) : List (Span × Iri) :=
  (c.batch now documents).filter fun job => c.isBeforeStop job.1.start

/-- The jobs of a batch that are recorded: those that finish before the crawl is stopped. -/
def recorded (now : Nat) (documents : List Iri) : List (Span × Iri) :=
  (byFinish (c.batch now documents)).filter fun job => c.isBeforeStop job.1.finish

/-- The instant at which the last job of a batch finishes. -/
def lastFinish (now : Nat) (documents : List Iri) : Nat :=
  (c.batch now documents).foldl (fun t job => max t job.1.finish) now

/-- The request that a job makes, and when it makes it. -/
def request (job : Span × Iri) : Nat × Request :=
  (job.1.start, job.2.documentRequest)

/-- The state after a batch but for its clock: jobs that were started have made their requests, and
jobs that finished are recorded. -/
def gather (s : State) (documents : List Iri) : State :=
  c.recordAll { s with requests := s.requests ++ (c.started s.clock documents).map request }
    (c.recorded s.clock documents)

lemma records_gather (s : State) (documents : List Iri) :
    c.Records s (c.gather s documents) ((c.recorded s.clock documents).map Prod.snd) := by
  obtain ⟨ho, hf, hb, hr, hp⟩ := c.records_recordAll
    { s with requests := s.requests ++ (c.started s.clock documents).map request }
    (c.recorded s.clock documents)
  exact ⟨ho, hf, hb, hr, hp⟩

lemma heard_gather (s : State) (documents : List Iri) :
    (c.gather s documents).heard = s.heard ++ (c.recorded s.clock documents).map c.event :=
  c.heard_recordAll _ _

lemma prefix_heard_gather (s : State) (documents : List Iri) :
    s.heard <+: (c.gather s documents).heard := by
  rw [heard_gather]
  exact List.prefix_append _ _

lemma requests_gather (s : State) (documents : List Iri) :
    (c.gather s documents).requests =
      s.requests ++ (c.started s.clock documents).map request :=
  (c.recordAll_eq _ _).1

/-- A batch gathers what it does before the crawl is stopped, and lasts until its last job finishes
or until then. -/
lemma fetchBatch_eq (s : State) (documents : List Iri) :
    c.fetchBatch s documents =
      match c.stop with
      | some stop =>
        if stop.admits (c.lastFinish s.clock documents) then
          ({ c.gather s documents with clock := c.lastFinish s.clock documents }, none)
        else ({ c.gather s documents with clock := stop.instant }, some stop.status)
      | none => ({ c.gather s documents with clock := c.lastFinish s.clock documents }, none) := by
  -- The last instant is reckoned from a clock that recording leaves as it is.
  have hlast : c.lastFinish s.clock documents = (c.batch s.clock documents).foldl
      (fun t job => max t job.1.finish) (c.gather s documents).clock := by
    rw [gather, (c.recordAll_eq _ _).2]
    rfl
  rw [hlast]
  rfl

/-- A batch goes on until its last job finishes, unless the crawl is stopped before. -/
theorem fetchBatch_cases (s : State) (documents : List Iri) :
    (c.isBeforeStop (c.lastFinish s.clock documents) = true ∧
        c.fetchBatch s documents =
          ({ c.gather s documents with clock := c.lastFinish s.clock documents }, none)) ∨
      ∃ stop, c.stop = some stop ∧ stop.admits (c.lastFinish s.clock documents) = false ∧
        c.fetchBatch s documents =
          ({ c.gather s documents with clock := stop.instant }, some stop.status) := by
  rw [fetchBatch_eq, isBeforeStop]
  cases c.stop with
  | none => exact Or.inl ⟨rfl, rfl⟩
  | some stop =>
    dsimp only
    split
    next hadmits => exact Or.inl ⟨hadmits, rfl⟩
    next hadmits => exact Or.inr ⟨stop, rfl, Bool.eq_false_iff.2 hadmits, rfl⟩

/-- When a batch ends makes a difference for the clock only. -/
lemma exists_fst_fetchBatch_eq (s : State) (documents : List Iri) :
    ∃ clock, (c.fetchBatch s documents).1 = { c.gather s documents with clock } := by
  rcases c.fetchBatch_cases s documents with ⟨-, hfetch⟩ | ⟨stop, -, -, hfetch⟩
  · exact ⟨_, congrArg Prod.fst hfetch⟩
  · exact ⟨_, congrArg Prod.fst hfetch⟩

/-- A batch records the jobs that finish before the crawl is stopped, and nothing else. -/
theorem records_fetchBatch (s : State) (documents : List Iri) :
    c.Records s (c.fetchBatch s documents).1
      ((c.recorded s.clock documents).map Prod.snd) := by
  obtain ⟨ho, hf, hb, hr, hp⟩ := c.records_gather s documents
  obtain ⟨clock, hfetch⟩ := c.exists_fst_fetchBatch_eq s documents
  rw [hfetch]
  exact ⟨ho, hf, hb, hr, hp⟩

/-! ### The jobs of a batch -/

lemma map_snd_batch (now : Nat) (documents : List Iri) :
    (c.batch now documents).map Prod.snd = documents := by
  unfold batch
  refine List.map_snd_zip ?_
  rw [schedule, length_spans, List.length_map]

lemma map_fst_batch (now : Nat) (documents : List Iri) :
    (c.batch now documents).map Prod.fst =
      schedule c.limits.concurrency now (documents.map c.duration) := by
  unfold batch
  refine List.map_fst_zip ?_
  rw [schedule, length_spans, List.length_map]

/-- The first jobs of a batch are the same whatever documents come after theirs. -/
lemma batch_take (now : Nat) (documents : List Iri) (k : Nat) :
    c.batch now (documents.take k) = (c.batch now documents).take k := by
  unfold batch
  rw [List.map_take, schedule_take]
  exact List.take_zipWith.symm

section Job

variable {c} {now : Nat} {documents : List Iri} {job : Span × Iri}

lemma fst_mem_of_mem_batch (h : job ∈ c.batch now documents) :
    job.1 ∈ schedule c.limits.concurrency now (documents.map c.duration) := by
  rw [← map_fst_batch]
  exact List.mem_map_of_mem h

lemma snd_mem_of_mem_batch (h : job ∈ c.batch now documents) : job.2 ∈ documents := by
  rw [← c.map_snd_batch now documents]
  exact List.mem_map_of_mem h

/-- A job of a batch starts after the batch does, and finishes after that. -/
lemma le_start_of_mem_batch (h : job ∈ c.batch now documents) :
    now ≤ job.1.start ∧ job.1.start ≤ job.1.finish :=
  ⟨le_start_of_mem_schedule (fst_mem_of_mem_batch h),
    start_le_finish_of_mem_schedule (fst_mem_of_mem_batch h)⟩

/-- The schedule of a batch is divided where its jobs are. -/
lemma schedule_eq_of_batch_eq {row rest : List (Span × Iri)}
    (h : c.batch now documents = row ++ job :: rest) :
    schedule c.limits.concurrency now (documents.map c.duration) =
      row.map Prod.fst ++ job.1 :: rest.map Prod.fst := by
  rw [← map_fst_batch, h, List.map_append, List.map_cons]

end Job

/-- The jobs of a batch start in order. -/
lemma pairwise_start_batch (now : Nat) (documents : List Iri) :
    (c.batch now documents).Pairwise fun a b => a.1.start ≤ b.1.start := by
  have hstart := pairwise_start_schedule c.limits.concurrency now (documents.map c.duration)
  rw [← map_fst_batch, List.pairwise_map] at hstart
  exact hstart

/-- The last instant of a batch is no earlier than its start and the end of any of its jobs. -/
lemma le_foldl_max_finish (jobs : List (Span × Iri)) (start : Nat) :
    start ≤ jobs.foldl (fun t job => max t job.1.finish) start ∧
      ∀ job ∈ jobs, job.1.finish ≤ jobs.foldl (fun t job => max t job.1.finish) start := by
  induction jobs generalizing start with
  | nil => exact ⟨le_rfl, by simp⟩
  | cons first rest ih =>
    obtain ⟨hstart, hrest⟩ := ih (max start first.1.finish)
    refine ⟨(le_max_left _ _).trans hstart, List.forall_mem_cons.2 ⟨?_, hrest⟩⟩
    exact (le_max_right _ _).trans hstart

lemma le_lastFinish (now : Nat) (documents : List Iri) : now ≤ c.lastFinish now documents :=
  (le_foldl_max_finish _ _).1

lemma finish_le_lastFinish {now : Nat} {documents : List Iri} {job : Span × Iri}
    (h : job ∈ c.batch now documents) : job.1.finish ≤ c.lastFinish now documents :=
  (le_foldl_max_finish _ _).2 job h

/-- Some job of a batch finishes at its last instant. -/
lemma exists_finish_eq_lastFinish (now : Nat) {documents : List Iri} (h : documents ≠ []) :
    ∃ job ∈ c.batch now documents, job.1.finish = c.lastFinish now documents := by
  have hmax : ∀ (jobs : List (Span × Iri)) (start : Nat),
      jobs.foldl (fun t job => max t job.1.finish) start = start ∨
        ∃ job ∈ jobs, job.1.finish = jobs.foldl (fun t job => max t job.1.finish) start := by
    intro jobs
    induction jobs with
    | nil => exact fun start => Or.inl rfl
    | cons first rest ih =>
      intro start
      rcases ih (max start first.1.finish) with heq | ⟨job, hjob, heq⟩
      · rw [List.foldl_cons, heq]
        rcases Nat.le_total first.1.finish start with hle | hle
        · exact Or.inl (max_eq_left hle)
        · exact Or.inr ⟨first, List.mem_cons_self, (max_eq_right hle).symm⟩
      · exact Or.inr ⟨job, List.mem_cons_of_mem _ hjob, heq⟩
  rcases hmax (c.batch now documents) now with heq | hjob
  · -- Nothing finishes before the batch starts.
    have hne : c.batch now documents ≠ [] := by
      intro hnil
      rw [← c.map_snd_batch now documents, hnil] at h
      exact h rfl
    obtain ⟨job, hjob⟩ := List.exists_mem_of_ne_nil _ hne
    obtain ⟨hstart, hfinish⟩ := le_start_of_mem_batch hjob
    refine ⟨job, hjob, le_antisymm (c.finish_le_lastFinish hjob) ?_⟩
    rw [lastFinish, heq]
    exact hstart.trans hfinish
  · exact hjob

lemma mem_recorded {now : Nat} {documents : List Iri} {job : Span × Iri} :
    job ∈ c.recorded now documents ↔
      job ∈ c.batch now documents ∧ c.isBeforeStop job.1.finish = true := by
  rw [recorded, List.mem_filter, (byFinish_perm _).mem_iff]

end Setting

/-! ### Batches that are not interrupted -/

/-- What comes before a stop is no later than the stop. -/
lemma Stop.le_of_admits {stop : Stop} {t : Nat} (h : stop.admits t = true) : t ≤ stop.instant := by
  simp only [Stop.admits, Bool.or_eq_true, decide_eq_true_eq, Bool.and_eq_true, beq_iff_eq] at h
  omega

/-- What does not come before a stop is no earlier than the stop. -/
lemma Stop.instant_le_of_admits_eq_false {stop : Stop} {t : Nat} (h : stop.admits t = false) :
    stop.instant ≤ t := by
  simp only [Stop.admits, Bool.or_eq_false_iff, decide_eq_false_iff_not, not_lt] at h
  exact h.1

/-- What comes before something that comes before a stop comes before the stop. -/
lemma Stop.admits_of_le {stop : Stop} {t u : Nat} (h : t ≤ u) (hu : stop.admits u = true) :
    stop.admits t = true := by
  simp only [Stop.admits, Bool.or_eq_true, decide_eq_true_eq, Bool.and_eq_true, beq_iff_eq] at *
  rcases hu with hu | ⟨hlast, hu⟩
  · exact Or.inl (by omega)
  · rcases Nat.lt_or_ge t stop.instant with ht | ht
    · exact Or.inl ht
    · exact Or.inr ⟨hlast, by omega⟩

namespace Setting

variable (c : Setting)

lemma isBeforeStop_of_le {t u : Nat} (h : t ≤ u) (hu : c.isBeforeStop u = true) :
    c.isBeforeStop t = true := by
  unfold isBeforeStop at *
  cases hstop : c.stop with
  | none => rfl
  | some stop =>
    rw [hstop] at hu
    exact Stop.admits_of_le h hu

/-- The jobs started are the first ones of a batch.  The others would start too late. -/
lemma exists_batch_eq_started_append (now : Nat) (documents : List Iri) :
    ∃ rest, c.batch now documents = c.started now documents ++ rest ∧
      ∀ job ∈ rest, c.isBeforeStop job.1.start = false := by
  have hpairwise := c.pairwise_start_batch now documents
  unfold started
  generalize c.batch now documents = jobs at hpairwise
  induction jobs with
  | nil => exact ⟨[], rfl, by simp⟩
  | cons job jobs ih =>
    obtain ⟨hjob, hjobs⟩ := List.pairwise_cons.1 hpairwise
    by_cases hstart : c.isBeforeStop job.1.start = true
    · obtain ⟨rest, hrest, hlate⟩ := ih hjobs
      refine ⟨rest, ?_, hlate⟩
      rw [List.filter_cons, if_pos hstart, List.cons_append, ← hrest]
    · -- The jobs after one that is too late are too late as well.
      have hlate : ∀ other ∈ job :: jobs, ¬ c.isBeforeStop other.1.start = true := by
        intro other hother hbefore
        rcases List.mem_cons.1 hother with rfl | hother
        · exact hstart hbefore
        · exact hstart (c.isBeforeStop_of_le (hjob other hother) hbefore)
      refine ⟨job :: jobs, ?_, fun other hother => Bool.eq_false_iff.2 (hlate other hother)⟩
      rw [List.filter_eq_nil_iff.2 hlate, List.nil_append]

/-- A batch whose last job finishes before the crawl is stopped starts and records all jobs. -/
lemma started_and_recorded {now : Nat} {documents : List Iri}
    (h : c.isBeforeStop (c.lastFinish now documents) = true) :
    c.started now documents = c.batch now documents ∧
      c.recorded now documents = byFinish (c.batch now documents) := by
  constructor
  · refine List.filter_eq_self.2 fun job hjob => c.isBeforeStop_of_le ?_ h
    exact (le_start_of_mem_batch hjob).2.trans (c.finish_le_lastFinish hjob)
  · refine List.filter_eq_self.2 fun job hjob => c.isBeforeStop_of_le ?_ h
    exact c.finish_le_lastFinish ((byFinish_perm _).mem_iff.1 hjob)

/-- What a batch that is not interrupted comes to. -/
lemma eq_of_fetchBatch_eq_none {s t : State} {documents : List Iri}
    (h : c.fetchBatch s documents = (t, none)) :
    c.isBeforeStop (c.lastFinish s.clock documents) = true ∧
      t = { c.gather s documents with clock := c.lastFinish s.clock documents } := by
  rcases c.fetchBatch_cases s documents with ⟨hlast, hfetch⟩ | ⟨stop, -, -, hfetch⟩
  · rw [hfetch] at h
    cases h
    exact ⟨hlast, rfl⟩
  · rw [hfetch] at h
    cases h

/-- What a batch comes to during which the crawl is stopped. -/
lemma eq_of_fetchBatch_eq_some {s t : State} {documents : List Iri} {status : Status}
    (h : c.fetchBatch s documents = (t, some status)) :
    ∃ stop, c.stop = some stop ∧ stop.admits (c.lastFinish s.clock documents) = false ∧
      t = { c.gather s documents with clock := stop.instant } ∧ status = stop.status := by
  rcases c.fetchBatch_cases s documents with ⟨-, hfetch⟩ | ⟨stop, hstop, hlast, hfetch⟩
  · rw [hfetch] at h
    cases h
  · rw [hfetch] at h
    cases h
    exact ⟨stop, hstop, hlast, rfl, rfl⟩

/-- A batch that is not interrupted records all of its documents. -/
theorem recorded_perm {s t : State} {documents : List Iri}
    (h : c.fetchBatch s documents = (t, none)) :
    ((c.recorded s.clock documents).map Prod.snd).Perm documents := by
  rw [(c.started_and_recorded (c.eq_of_fetchBatch_eq_none h).1).2]
  refine ((byFinish_perm _).map Prod.snd).trans ?_
  rw [map_snd_batch]

/-- A batch that is not interrupted fetches each of its documents. -/
theorem records_of_fetchBatch_eq {s t : State} {documents : List Iri}
    (h : c.fetchBatch s documents = (t, none)) :
    ∃ order : List Iri, order.Perm documents ∧ c.Records s t order := by
  refine ⟨_, c.recorded_perm h, ?_⟩
  have hrecords := c.records_fetchBatch s documents
  rw [h] at hrecords
  exact hrecords

/-- A crawl that nothing stops carries out all batches. -/
lemma fetchBatch_eq_of_stop_eq_none (h : c.stop = none) (s : State) (documents : List Iri) :
    c.fetchBatch s documents = ((c.fetchBatch s documents).1, none) := by
  unfold fetchBatch
  rw [h]

/-- A crawl is stopped when it is cancelled or when its deadline comes. -/
lemma cause_of_stop {stop : Stop} (h : c.stop = some stop) :
    stop.status = .cancelled ∧ c.cancelled = some stop.instant ∨
      stop.status = .budgetExhausted ∧ c.limits.deadline = some stop.instant := by
  unfold Setting.stop at h
  cases hcancelled : c.cancelled with
  | none =>
    rw [hcancelled] at h
    obtain ⟨d, hd, rfl⟩ := Option.map_eq_some_iff.1 (h : c.limits.deadline.map _ = some stop)
    exact Or.inr ⟨rfl, hd⟩
  | some t =>
    cases hdeadline : c.limits.deadline with
    | none =>
      rw [hcancelled, hdeadline] at h
      cases h
      exact Or.inl ⟨rfl, rfl⟩
    | some d =>
      simp only [hcancelled, hdeadline, Option.map_some] at h
      split at h
      · cases h
        exact Or.inl ⟨rfl, rfl⟩
      · cases h
        exact Or.inr ⟨rfl, rfl⟩

/-- A crawl is stopped no later than it is cancelled and than its deadline comes. -/
lemma instant_le_of_stop {stop : Stop} (h : c.stop = some stop) :
    (∀ t ∈ c.cancelled, stop.instant ≤ t) ∧ ∀ e ∈ c.limits.deadline, stop.instant ≤ e := by
  unfold Setting.stop at h
  cases hcancelled : c.cancelled with
  | none =>
    cases hdeadline : c.limits.deadline with
    | none =>
      rw [hcancelled, hdeadline] at h
      cases h
    | some e =>
      rw [hcancelled, hdeadline] at h
      cases h
      simp
  | some t =>
    cases hdeadline : c.limits.deadline with
    | none =>
      rw [hcancelled, hdeadline] at h
      cases h
      simp
    | some e =>
      simp only [hcancelled, hdeadline, Option.map_some] at h
      split at h
      · cases h
        simp only [Option.mem_some_iff, forall_eq', le_refl, true_and]
        omega
      · cases h
        simp only [Option.mem_some_iff, forall_eq', le_refl, and_true]
        omega

/-- What comes before a crawl is stopped is no later than its deadline. -/
lemma le_deadline_of_isBeforeStop {t : Nat} (h : c.isBeforeStop t = true) :
    ∀ e ∈ c.limits.deadline, t ≤ e := by
  intro e he
  unfold isBeforeStop at h
  cases hstop : c.stop with
  | none =>
    -- A crawl that nothing stops has no deadline.
    unfold Setting.stop at hstop
    rw [Option.mem_def.1 he] at hstop
    cases hcancelled : c.cancelled with
    | none =>
      rw [hcancelled] at hstop
      cases hstop
    | some u =>
      simp only [hcancelled, Option.map_some] at hstop
      split at hstop
      · cases hstop
      · cases hstop
  | some stop =>
    rw [hstop] at h
    exact (Stop.le_of_admits h).trans ((c.instant_le_of_stop hstop).2 e he)

lemma status_of_stop {stop : Stop} (h : c.stop = some stop) : stop.status ≠ .converged := by
  rcases c.cause_of_stop h with ⟨hstatus, -⟩ | ⟨hstatus, -⟩ <;> simp [hstatus]

/-- A batch in the middle of which a crawl is stopped does not make it converge. -/
lemma snd_fetchBatch_ne_converged (s : State) (documents : List Iri) :
    (c.fetchBatch s documents).2 ≠ some .converged := by
  unfold fetchBatch
  cases hstop : c.stop with
  | none => simp
  | some stop =>
    dsimp only
    split
    · simp
    · simpa using c.status_of_stop hstop

end Setting

end Courier.Crawl
