/-!
# Schedules

When the jobs of a batch start and finish.  At most so many jobs run at once; jobs start in order,
each as soon as there is room for it.  A job's room is free again at the instant at which the job
finishes.
-/

namespace Courier.Crawl

/-- The instants at which a job starts and finishes. -/
structure Span where
  /-- When the job starts. -/
  start : Nat
  /-- When the job finishes. -/
  finish : Nat
  deriving DecidableEq

/-- The instants in order with one more. -/
def insertInstant (t : Nat) : List Nat → List Nat
  | [] => [t]
  | u :: us => if t ≤ u then t :: u :: us else u :: insertInstant t us

/-- The spans of jobs of the given durations.  `busy` has the instants, in order, at which running
jobs finish; a job that starts takes one of at most `room` places, or the place that is free
first. -/
def spans (room now : Nat) (busy : List Nat) : List Nat → List Span
  | [] => []
  | duration :: rest =>
    if busy.length < room then
      ⟨now, now + duration⟩ :: spans room now (insertInstant (now + duration) busy) rest
    else
      match busy with
      | [] => ⟨now, now + duration⟩ :: spans room now [] rest
      | free :: busy =>
        ⟨free, free + duration⟩ :: spans room now (insertInstant (free + duration) busy) rest

/-- The spans of a batch that starts now with nothing running. -/
def schedule (room now : Nat) (durations : List Nat) : List Span :=
  spans (max 1 room) now [] durations

/-- Jobs with their spans in the order in which they finish; jobs that finish at the same instant
stay in order. -/
def byFinish {α : Type} (jobs : List (Span × α)) : List (Span × α) :=
  jobs.mergeSort fun a b => a.1.finish ≤ b.1.finish

end Courier.Crawl
