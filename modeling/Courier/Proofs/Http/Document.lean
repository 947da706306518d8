import Courier.Http.Fetcher

/-!
# What it takes to read a document

A document is read if the request for it is answered, with success, by a text that is understood
(`Fetcher.Loads`).  Everything else that may come of the request leaves the document unread.
-/

namespace Courier.Fetcher

/-- Whether the document of the resource is answered with success by a text that reads as the
triples. -/
def Loads (f : Fetcher) (reading : Nat) (iri : Iri) (ts : List Triple) : Prop :=
  ∃ response, f.answer iri.documentRequest = .ok response ∧
    (200 ≤ response.status ∧ response.status < 300) ∧
    Turtle.read reading iri.document response.body = .ok ts

variable {f : Fetcher} {reading : Nat} {iri : Iri} {ts : List Triple}

theorem isSuccess_iff {response : Response} :
    response.isSuccess = true ↔ 200 ≤ response.status ∧ response.status < 300 := by
  unfold Response.isSuccess
  rw [Bool.and_eq_true, decide_eq_true_eq, decide_eq_true_eq]

/-- Exactly the documents that load are read, as what they load as. -/
theorem document_eq_ok_iff : f.document reading iri = .ok ts ↔ f.Loads reading iri ts := by
  unfold document Loads
  cases f.answer iri.documentRequest with
  | error e =>
    constructor
    · intro h
      cases h
    · rintro ⟨response, hanswer, -⟩
      cases hanswer
  | ok response =>
    change (if response.isSuccess = true then
      (Turtle.read reading iri.document response.body).mapError FetchError.unreadable
        else .error (.status iri.document response.status)) = .ok ts ↔ _
    constructor
    · intro h
      split at h
      next hsuccess =>
        refine ⟨response, rfl, isSuccess_iff.1 hsuccess, ?_⟩
        cases hread : Turtle.read reading iri.document response.body with
        | ok us =>
          rw [hread] at h
          cases h
          rfl
        | error cause =>
          rw [hread] at h
          cases h
      next => cases h
    · rintro ⟨other, hanswer, hsuccess, hread⟩
      obtain rfl : response = other := Except.ok.inj hanswer
      rw [if_pos (isSuccess_iff.2 hsuccess), hread]
      rfl

/-- A document is given up as too late exactly if the request for it is. -/
theorem document_eq_timeout_iff {i : Iri} :
    f.document reading iri = .error (.timeout i) ↔
      f.answer iri.documentRequest = .error (.timeout i) := by
  unfold document
  cases f.answer iri.documentRequest with
  | error e =>
    change Except.error e = _ ↔ _
    rw [Except.error.injEq, Except.error.injEq]
  | ok response =>
    refine iff_of_false ?_ fun h => nomatch h
    change ¬(if response.isSuccess = true then
      (Turtle.read reading iri.document response.body).mapError FetchError.unreadable
        else .error (.status iri.document response.status)) = _
    split
    · cases Turtle.read reading iri.document response.body <;> exact fun h => nomatch h
    · exact fun h => nomatch h

/-- What a document loads as depends on the answer to its request only. -/
theorem loads_congr {g : Fetcher}
    (h : g.answer iri.documentRequest = f.answer iri.documentRequest) :
    g.Loads reading iri ts ↔ f.Loads reading iri ts := by
  unfold Loads
  rw [h]

end Courier.Fetcher
