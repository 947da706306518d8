import Courier.Crawl.Schedule
import Mathlib.Data.List.Perm.Basic
import Mathlib.Order.Lattice

/-!
# What a schedule keeps

A job that is about to start takes the next place: one that was never taken, or the one that is free
first (`exists_spans_cons`).  Everything else about schedules follows by induction on the jobs.  No
job starts before the batch does, and jobs start in order (`pairwise_start_schedule`); when a job
starts and finishes depends on the jobs before it only (`schedule_take`), and bounds on how long
they take bound how long it waits (`le_of_schedule_eq`).  At no instant are more jobs in flight than
there is room for (`countP_isInFlight_schedule_le`), not even among those that start and finish at
the same instant (`countP_lt_finish_schedule_lt`).

Finished jobs are listed in the order in which they finish, jobs that finish together in the order
in which they started.  Leaving out jobs leaves the order of the others as it is
(`byFinish_sublist`).
-/

namespace Courier.Crawl

/-! ### One job after the other -/

lemma insertInstant_perm (t : Nat) (busy : List Nat) : (insertInstant t busy).Perm (t :: busy) := by
  induction busy with
  | nil => exact .refl _
  | cons u us ih =>
    unfold insertInstant
    split
    · exact .refl _
    · exact (ih.cons u).trans (.swap t u us)

/-- A job starts at once if there is room, and otherwise at the instant at which a place is free
first.  What comes after does not matter for it. -/
lemma exists_spans_cons {room : Nat} (hroom : 0 < room) (now : Nat) (busy : List Nat)
    (duration : Nat) :
    ∃ start left, (∀ rest, spans room now busy (duration :: rest) =
        ⟨start, start + duration⟩ :: spans room now (insertInstant (start + duration) left) rest) ∧
      (start = now ∧ left = busy ∧ busy.length < room ∨
        busy = start :: left ∧ room ≤ busy.length) := by
  by_cases hlength : busy.length < room
  · refine ⟨now, busy, fun rest => ?_, Or.inl ⟨rfl, rfl, hlength⟩⟩
    rw [spans.eq_def]
    exact if_pos hlength
  · cases busy with
    | nil => exact absurd hroom hlength
    | cons free busy =>
      refine ⟨free, busy, fun rest => ?_, Or.inr ⟨rfl, Nat.not_lt.1 hlength⟩⟩
      rw [spans.eq_def]
      exact if_neg hlength

/-- Every job gets a span. -/
lemma length_spans (room now : Nat) (busy durations : List Nat) :
    (spans room now busy durations).length = durations.length := by
  induction durations generalizing busy with
  | nil => rfl
  | cons duration rest ih =>
    unfold spans
    split
    · simp [ih]
    · split <;> simp [ih]

/-- No job finishes before it starts. -/
lemma start_le_finish_of_mem_spans {room now : Nat} (hroom : 0 < room) {busy durations : List Nat}
    {span : Span} (h : span ∈ spans room now busy durations) : span.start ≤ span.finish := by
  induction durations generalizing busy with
  | nil => cases h
  | cons duration rest ih =>
    obtain ⟨start, left, hspans, -⟩ := exists_spans_cons hroom now busy duration
    rw [hspans rest] at h
    rcases List.mem_cons.1 h with rfl | h
    · exact Nat.le_add_right _ _
    · exact ih h

/-- No job starts before an instant if no place is free earlier. -/
lemma le_start_of_mem_spans {room now first : Nat} (hroom : 0 < room) {busy durations : List Nat}
    (hbusy : ∀ t ∈ busy, first ≤ t) (hnow : busy.length < room → first ≤ now) {span : Span}
    (h : span ∈ spans room now busy durations) : first ≤ span.start := by
  induction durations generalizing busy with
  | nil => cases h
  | cons duration rest ih =>
    obtain ⟨start, left, hspans, hplace⟩ := exists_spans_cons hroom now busy duration
    have hstart : first ≤ start ∧ ∀ t ∈ left, first ≤ t := by
      rcases hplace with ⟨rfl, rfl, hlength⟩ | ⟨rfl, -⟩
      · exact ⟨hnow hlength, hbusy⟩
      · exact List.forall_mem_cons.1 hbusy
    have hperm := insertInstant_perm (start + duration) left
    rw [hspans rest] at h
    rcases List.mem_cons.1 h with rfl | h
    · exact hstart.1
    · refine ih (fun t ht => ?_) (fun hlength => ?_) h
      · rcases List.mem_cons.1 (hperm.mem_iff.1 ht) with rfl | ht
        · exact hstart.1.trans (Nat.le_add_right _ _)
        · exact hstart.2 t ht
      · -- No fewer places are taken than before.
        rw [hperm.length_eq, List.length_cons] at hlength
        refine hnow ?_
        rcases hplace with ⟨-, rfl, hroom⟩ | ⟨rfl, -⟩
        · exact hroom
        · exact hlength

/-- The first jobs have the same spans whatever jobs come after them. -/
lemma spans_take {room : Nat} (hroom : 0 < room) (now : Nat) (busy durations : List Nat) (k : Nat) :
    spans room now busy (durations.take k) = (spans room now busy durations).take k := by
  induction durations generalizing busy k with
  | nil => simp [spans]
  | cons duration rest ih =>
    cases k with
    | zero => rfl
    | succ k =>
      obtain ⟨start, left, hspans, -⟩ := exists_spans_cons hroom now busy duration
      rw [List.take_succ_cons, hspans, hspans, List.take_succ_cons, ih]

/-! ### The order of starting -/

lemma pairwise_insertInstant {t : Nat} {busy : List Nat} (h : busy.Pairwise (· ≤ ·)) :
    (insertInstant t busy).Pairwise (· ≤ ·) := by
  induction busy with
  | nil => exact List.pairwise_singleton _ _
  | cons u us ih =>
    obtain ⟨hu, hus⟩ := List.pairwise_cons.1 h
    unfold insertInstant
    split
    next htu =>
      refine List.pairwise_cons.2 ⟨fun x hx => ?_, h⟩
      rcases List.mem_cons.1 hx with rfl | hx
      · exact htu
      · exact htu.trans (hu x hx)
    next hut =>
      refine List.pairwise_cons.2 ⟨fun x hx => ?_, ih hus⟩
      rcases List.mem_cons.1 ((insertInstant_perm t us).mem_iff.1 hx) with rfl | hx
      · exact (Nat.lt_of_not_le hut).le
      · exact hu x hx

/-- Jobs start in order: the places that are free first are taken first. -/
lemma pairwise_start_spans {room now : Nat} (hroom : 0 < room) {busy : List Nat}
    (hsorted : busy.Pairwise (· ≤ ·)) (hbusy : ∀ t ∈ busy, now ≤ t) (durations : List Nat) :
    (spans room now busy durations).Pairwise fun a b => a.start ≤ b.start := by
  induction durations generalizing busy with
  | nil => exact .nil
  | cons duration rest ih =>
    obtain ⟨start, left, hspans, hplace⟩ := exists_spans_cons hroom now busy duration
    have hperm := insertInstant_perm (start + duration) left
    have hleft : left.Pairwise (· ≤ ·) ∧ now ≤ start ∧ ∀ t ∈ left, start ≤ t := by
      rcases hplace with ⟨rfl, rfl, -⟩ | ⟨rfl, -⟩
      · exact ⟨hsorted, le_rfl, hbusy⟩
      · obtain ⟨hstart, hsorted⟩ := List.pairwise_cons.1 hsorted
        exact ⟨hsorted, hbusy start List.mem_cons_self, hstart⟩
    have htaken : ∀ t ∈ insertInstant (start + duration) left, start ≤ t := by
      intro t ht
      rcases List.mem_cons.1 (hperm.mem_iff.1 ht) with rfl | ht
      · exact Nat.le_add_right _ _
      · exact hleft.2.2 t ht
    rw [hspans rest]
    refine List.pairwise_cons.2 ⟨fun span hspan => ?_, ?_⟩
    · refine le_start_of_mem_spans hroom htaken (fun hlength => ?_) hspan
      -- If a place was never taken, the job took one like it and started at once.
      rw [hperm.length_eq, List.length_cons] at hlength
      rcases hplace with ⟨rfl, -, -⟩ | ⟨rfl, hfull⟩
      · exact le_rfl
      · rw [List.length_cons] at hfull
        omega
    · exact ih (pairwise_insertInstant hleft.1) fun t ht => hleft.2.1.trans (htaken t ht)

/-- When a job starts, fewer of the jobs before it are unfinished than there is room for. -/
lemma countP_lt_finish_spans_lt {room now : Nat} (hroom : 0 < room) {busy durations : List Nat}
    (hsorted : busy.Pairwise (· ≤ ·)) (hbusy : ∀ t ∈ busy, now ≤ t) (hlength : busy.length ≤ room)
    {earlier later : List Span} {span : Span}
    (h : spans room now busy durations = earlier ++ span :: later) :
    earlier.countP (span.start < ·.finish) + busy.countP (span.start < ·) < room := by
  induction durations generalizing busy earlier with
  | nil =>
    rw [spans] at h
    simp at h
  | cons duration rest ih =>
    have hpairwise := pairwise_start_spans hroom hsorted hbusy (duration :: rest)
    obtain ⟨start, left, hspans, hplace⟩ := exists_spans_cons hroom now busy duration
    rw [h] at hpairwise
    rw [hspans rest] at h
    cases earlier with
    | nil =>
      obtain ⟨rfl, -⟩ := List.cons.inj h
      rw [List.countP_nil, Nat.zero_add]
      rcases hplace with ⟨-, -, hfree⟩ | ⟨rfl, -⟩
      · exact List.countP_le_length.trans_lt hfree
      · -- The place that the job takes is free.
        rw [List.countP_cons_of_neg (by simp)]
        exact List.countP_le_length.trans_lt hlength
    | cons first earlier =>
      obtain ⟨rfl, hrest⟩ := List.cons.inj h
      have hperm := insertInstant_perm (start + duration) left
      have hstart : start ≤ span.start := by
        rw [List.cons_append] at hpairwise
        exact (List.pairwise_cons.1 hpairwise).1 span (by simp)
      have hleft : left.Pairwise (· ≤ ·) ∧ now ≤ start ∧ (∀ t ∈ left, now ≤ t) ∧
          left.length < room ∧
            busy.countP (span.start < ·) = left.countP (span.start < ·) := by
        rcases hplace with ⟨rfl, rfl, hfree⟩ | ⟨rfl, -⟩
        · exact ⟨hsorted, le_rfl, hbusy, hfree, rfl⟩
        · obtain ⟨hnow, hbusy⟩ := List.forall_mem_cons.1 hbusy
          refine ⟨(List.pairwise_cons.1 hsorted).2, hnow, hbusy, hlength, ?_⟩
          exact List.countP_cons_of_neg (by simpa using hstart)
      obtain ⟨hsorted', hnow, hbusy', hlength', hcount⟩ := hleft
      have hrec := ih (pairwise_insertInstant hsorted') (fun t ht => ?_) ?_ hrest
      · rw [hperm.countP_eq, List.countP_cons] at hrec
        rw [List.countP_cons, hcount]
        dsimp only
        omega
      · rcases List.mem_cons.1 (hperm.mem_iff.1 ht) with rfl | ht
        · exact hnow.trans (Nat.le_add_right _ _)
        · exact hbusy' t ht
      · rw [hperm.length_eq, List.length_cons]
        exact hlength'

/-- If no job takes longer than given, a job waits at most for so many times that as there are jobs
before it. -/
lemma le_of_spans_eq {room now latest longest : Nat} (hroom : 0 < room) {busy durations : List Nat}
    (hnow : now ≤ latest) (hbusy : ∀ t ∈ busy, t ≤ latest)
    (hlongest : ∀ duration ∈ durations, duration ≤ longest) {earlier later : List Span}
    {span : Span} (h : spans room now busy durations = earlier ++ span :: later) :
    span.start ≤ latest + earlier.length * longest ∧
      span.finish ≤ latest + (earlier.length + 1) * longest := by
  induction durations generalizing busy earlier latest with
  | nil =>
    rw [spans] at h
    simp at h
  | cons duration rest ih =>
    obtain ⟨start, left, hspans, hplace⟩ := exists_spans_cons hroom now busy duration
    obtain ⟨hduration, hrest⟩ := List.forall_mem_cons.1 hlongest
    have hstart : start ≤ latest ∧ ∀ t ∈ left, t ≤ latest := by
      rcases hplace with ⟨rfl, rfl, -⟩ | ⟨rfl, -⟩
      · exact ⟨hnow, hbusy⟩
      · exact List.forall_mem_cons.1 hbusy
    rw [hspans rest] at h
    cases earlier with
    | nil =>
      obtain ⟨rfl, -⟩ := List.cons.inj h
      simp only [List.length_nil]
      omega
    | cons first earlier =>
      obtain ⟨-, htail⟩ := List.cons.inj h
      have hnow' : now ≤ latest + longest := hnow.trans (Nat.le_add_right _ _)
      have hlater := ih hnow' (fun t ht => ?_) hrest htail
      · rw [List.length_cons]
        simp only [Nat.add_one_mul] at hlater ⊢
        omega
      · rcases List.mem_cons.1 ((insertInstant_perm _ _).mem_iff.1 ht) with rfl | ht
        · omega
        · exact (hstart.2 t ht).trans (Nat.le_add_right _ _)

/-! ### Jobs in flight -/

/-- Whether a job has started but not finished when so much time has passed. -/
def Span.isInFlight (before : Nat → Bool) (span : Span) : Bool :=
  before span.start && !before span.finish

/-- The places that are taken and the jobs in flight among those to come are together no more than
there is room for. -/
lemma countP_isInFlight_spans_le {room : Nat} (hroom : 0 < room) (now : Nat)
    (before : Nat → Bool) (hbefore : ∀ t u, t ≤ u → before u = true → before t = true)
    (durations busy : List Nat) (hbusy : busy.length ≤ room) :
    (spans room now busy durations).countP (·.isInFlight before) +
      busy.countP (fun t => !before t) ≤ room := by
  induction durations generalizing busy with
  | nil =>
    rw [spans, List.countP_nil, Nat.zero_add]
    exact List.countP_le_length.trans hbusy
  | cons duration rest ih =>
    obtain ⟨start, left, hspans, hplace⟩ := exists_spans_cons hroom now busy duration
    have hperm := insertInstant_perm (start + duration) left
    have hlength : (insertInstant (start + duration) left).length ≤ room := by
      rw [hperm.length_eq, List.length_cons]
      rcases hplace with ⟨-, rfl, hlt⟩ | ⟨rfl, -⟩
      · exact hlt
      · exact hbusy
    have hrest := ih _ hlength
    rw [hperm.countP_eq, List.countP_cons] at hrest
    have htaken : busy.countP (fun t => !before t) ≤
        left.countP (fun t => !before t) + if before start then 0 else 1 := by
      rcases hplace with ⟨-, rfl, -⟩ | ⟨rfl, -⟩
      · exact Nat.le_add_right _ _
      · rw [List.countP_cons]
        cases before start <;> simp
    -- A job that has not finished is in flight, or its place was already taken.
    have hjob : ((if Span.isInFlight before ⟨start, start + duration⟩ = true then 1 else 0) +
        if before start = true then 0 else 1) =
          if (!before (start + duration)) = true then 1 else 0 := by
      have hmono := hbefore start (start + duration) (Nat.le_add_right _ _)
      cases hfinish : before (start + duration) with
      | true => simp [Span.isInFlight, hfinish, hmono hfinish]
      | false => cases hstart : before start <;> simp [Span.isInFlight, hfinish, hstart]
    rw [hspans, List.countP_cons]
    omega

/-! ### Schedules -/

section Schedule

variable {room now : Nat} {durations : List Nat}

lemma start_le_finish_of_mem_schedule {span : Span} (h : span ∈ schedule room now durations) :
    span.start ≤ span.finish :=
  start_le_finish_of_mem_spans (le_max_left 1 _) h

/-- No job of a batch starts before the batch does. -/
lemma le_start_of_mem_schedule {span : Span} (h : span ∈ schedule room now durations) :
    now ≤ span.start :=
  le_start_of_mem_spans (le_max_left 1 _) (by simp) (fun _ => le_rfl) h

/-- The jobs of a batch start in order. -/
theorem pairwise_start_schedule (room now : Nat) (durations : List Nat) :
    (schedule room now durations).Pairwise fun a b => a.start ≤ b.start :=
  pairwise_start_spans (le_max_left 1 _) .nil (by simp) durations

/-- When a job of a batch starts, fewer of the jobs before it are unfinished than there is room
for. -/
theorem countP_lt_finish_schedule_lt {earlier later : List Span} {span : Span}
    (h : schedule room now durations = earlier ++ span :: later) :
    earlier.countP (span.start < ·.finish) < max 1 room :=
  countP_lt_finish_spans_lt (le_max_left 1 _) .nil (by simp) (Nat.zero_le _) h

/-- If no job takes longer than given, a job of a batch waits at most for so many times that as
there are jobs before it. -/
theorem le_of_schedule_eq {longest : Nat} (hlongest : ∀ duration ∈ durations, duration ≤ longest)
    {earlier later : List Span} {span : Span}
    (h : schedule room now durations = earlier ++ span :: later) :
    span.start ≤ now + earlier.length * longest ∧
      span.finish ≤ now + (earlier.length + 1) * longest :=
  le_of_spans_eq (le_max_left 1 _) le_rfl (by simp) hlongest h

/-- The first jobs of a batch have the same spans whatever jobs come after them. -/
theorem schedule_take (room now : Nat) (durations : List Nat) (k : Nat) :
    schedule room now (durations.take k) = (schedule room now durations).take k :=
  spans_take (le_max_left 1 _) now [] durations k

/-- At no instant are more jobs in flight than there is room for. -/
theorem countP_isInFlight_schedule_le (room now : Nat) (durations : List Nat)
    (before : Nat → Bool) (hbefore : ∀ t u, t ≤ u → before u = true → before t = true) :
    (schedule room now durations).countP (·.isInFlight before) ≤ max 1 room :=
  countP_isInFlight_spans_le (le_max_left 1 _) now before hbefore durations []
    (Nat.zero_le _)

end Schedule

/-! ### The order of finishing -/

section Order

variable {α : Type}

lemma byFinish_perm (jobs : List (Span × α)) : (byFinish jobs).Perm jobs :=
  List.mergeSort_perm _ _

lemma finish_le_trans (a b c : Span × α) : decide (a.1.finish ≤ b.1.finish) = true →
    decide (b.1.finish ≤ c.1.finish) = true → decide (a.1.finish ≤ c.1.finish) = true := by
  simp only [decide_eq_true_eq]
  exact Nat.le_trans

lemma finish_le_total (a b : Span × α) :
    (decide (a.1.finish ≤ b.1.finish) || decide (b.1.finish ≤ a.1.finish)) = true := by
  simp only [Bool.or_eq_true, decide_eq_true_eq]
  exact Nat.le_total _ _

/-- A first job comes right after those that finish before it. -/
lemma exists_byFinish_cons (job : Span × α) (jobs : List (Span × α)) :
    ∃ earlier later, byFinish (job :: jobs) = earlier ++ job :: later ∧
      byFinish jobs = earlier ++ later ∧ (∀ other ∈ earlier, other.1.finish < job.1.finish) ∧
      ∀ other ∈ later, job.1.finish ≤ other.1.finish := by
  obtain ⟨earlier, later, hcons, hjobs, hearlier⟩ :=
    List.mergeSort_cons finish_le_trans finish_le_total job jobs
  have hsorted := List.pairwise_mergeSort finish_le_trans finish_le_total (job :: jobs)
  rw [hcons] at hsorted
  refine ⟨earlier, later, hcons, hjobs, fun other hother => ?_, fun other hother => ?_⟩
  · simpa using hearlier other hother
  · simpa using (List.pairwise_cons.1 (List.pairwise_append.1 hsorted).2.1).1 other hother

/-- The two parts of a list that the instant divides. -/
lemma filter_finish_append {t : Nat} {earlier later : List (Span × α)}
    (hearlier : ∀ job ∈ earlier, job.1.finish < t) (hlater : ∀ job ∈ later, t ≤ job.1.finish) :
    (earlier ++ later).filter (fun job => job.1.finish < t) = earlier ∧
      (earlier ++ later).filter (fun job => t ≤ job.1.finish) = later := by
  constructor
  · rw [List.filter_append, List.filter_eq_self.2 (by simpa using hearlier),
      List.filter_eq_nil_iff.2 (by simpa using hlater), List.append_nil]
  · rw [List.filter_append, List.filter_eq_nil_iff.2 (by simpa using hearlier),
      List.filter_eq_self.2 (by simpa using hlater), List.nil_append]

/-- Leaving out jobs leaves the order in which the others finish as it is. -/
theorem byFinish_sublist {jobs jobs' : List (Span × α)} (h : jobs.Sublist jobs') :
    (byFinish jobs).Sublist (byFinish jobs') := by
  induction h with
  | slnil => exact .refl _
  | @cons jobs jobs' job h ih =>
    obtain ⟨earlier, later, hcons, hjobs, -, -⟩ := exists_byFinish_cons job jobs'
    rw [hcons]
    rw [hjobs] at ih
    exact ih.trans ((List.sublist_cons_self job later).append_left earlier)
  | @cons_cons jobs jobs' job h ih =>
    obtain ⟨earlier, later, hcons, hjobs, hearlier, hlater⟩ := exists_byFinish_cons job jobs
    obtain ⟨earlier', later', hcons', hjobs', hearlier', hlater'⟩ := exists_byFinish_cons job jobs'
    -- The job divides both lists at the instant at which it finishes.
    obtain ⟨hbefore, hafter⟩ := filter_finish_append hearlier hlater
    obtain ⟨hbefore', hafter'⟩ := filter_finish_append hearlier' hlater'
    rw [hjobs, hjobs'] at ih
    have hfirst := ih.filter fun other => decide (other.1.finish < job.1.finish)
    have hsecond := ih.filter fun other => decide (job.1.finish ≤ other.1.finish)
    rw [hbefore, hbefore'] at hfirst
    rw [hafter, hafter'] at hsecond
    rw [hcons, hcons']
    exact hfirst.append (hsecond.cons_cons job)

end Order

end Courier.Crawl
