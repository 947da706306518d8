import Courier.Access.Writable
import Courier.Proofs.Http.Document
import Mathlib.Logic.Basic

/-!
# What makes a resource writable

A resource counts as writable if the server, asked for its headers, answers with success and tells
permissions by which who asks may write or append (`Fetcher.GrantsWriting`).  Whatever else comes of
the question, a failure, another status, no such header or a malformed one, the resource does not
count.
-/

namespace Courier

/-- Who asks may add to a resource by writing or by appending. -/
lemma Permissions.userCanWrite_iff {p : Permissions} :
    p.userCanWrite = true ↔ .write ∈ p.user ∨ .append ∈ p.user := by
  unfold userCanWrite
  rw [List.any_eq_true]
  constructor
  · rintro ⟨mode, hmode, hwrites⟩
    rw [Bool.or_eq_true, decide_eq_true_eq, decide_eq_true_eq] at hwrites
    rcases hwrites with rfl | rfl
    · exact Or.inl hmode
    · exact Or.inr hmode
  · rintro (hmode | hmode)
    · exact ⟨_, hmode, rfl⟩
    · exact ⟨_, hmode, rfl⟩

namespace Fetcher

variable {f : Fetcher} {iri : Iri}

/-- Whether the server of the resource, asked for its headers, answers with success and tells in the
first header for permissions that who asks may write or append. -/
def GrantsWriting (f : Fetcher) (iri : Iri) : Prop :=
  ∃ response header p, f.answer (.head iri) = .ok response ∧
    200 ≤ response.status ∧ response.status < 300 ∧
    response.header? Permissions.headerName = some header ∧
    Permissions.parse header = .ok p ∧ (.write ∈ p.user ∨ .append ∈ p.user)

/-- When the permissions of a resource are known. -/
lemma permissions_eq_ok_iff {p : Permissions} :
    f.permissions iri = .ok p ↔
      ∃ response header, f.answer (.head iri) = .ok response ∧ response.isSuccess = true ∧
        response.header? Permissions.headerName = some header ∧
        Permissions.parse header = .ok p := by
  constructor
  · intro h
    unfold permissions at h
    split at h
    next => cases h
    next response hanswer =>
      split at h
      next hsuccess =>
        split at h
        next => cases h
        next header hheader =>
          cases hparse : Permissions.parse header with
          | error e =>
            rw [hparse] at h
            cases h
          | ok q =>
            rw [hparse] at h
            cases h
            exact ⟨response, header, hanswer, hsuccess, hheader, hparse⟩
      next => cases h
  · rintro ⟨response, header, hanswer, hsuccess, hheader, hparse⟩
    unfold permissions
    simp only [hanswer, hsuccess, hheader, hparse, if_true]
    rfl

/-- Exactly the resources whose server grants writing are writable. -/
theorem isWritable_iff : f.isWritable iri = true ↔ f.GrantsWriting iri := by
  constructor
  · intro h
    unfold isWritable at h
    split at h
    next p hp =>
      obtain ⟨response, header, hanswer, hsuccess, hheader, hparse⟩ := permissions_eq_ok_iff.1 hp
      obtain ⟨hlow, hhigh⟩ := isSuccess_iff.1 hsuccess
      exact ⟨response, header, p, hanswer, hlow, hhigh, hheader, hparse,
        Permissions.userCanWrite_iff.1 h⟩
    next => cases h
  · rintro ⟨response, header, p, hanswer, hlow, hhigh, hheader, hparse, hmode⟩
    have hp : f.permissions iri = .ok p :=
      permissions_eq_ok_iff.2
        ⟨response, header, hanswer, isSuccess_iff.2 ⟨hlow, hhigh⟩, hheader, hparse⟩
    unfold isWritable
    rw [hp]
    exact Permissions.userCanWrite_iff.2 hmode

instance : DecidablePred f.GrantsWriting := fun _ =>
  decidable_of_iff _ isWritable_iff

lemma decide_grantsWriting : decide (f.GrantsWriting iri) = f.isWritable iri := by
  rw [Bool.eq_iff_iff, decide_eq_true_eq]
  exact isWritable_iff.symm

/-- The resources found to be writable are those of the candidates whose server grants writing, in
order. -/
lemma value_findWritable (f : Fetcher) (candidates : List Iri) :
    (f.findWritable candidates).value = candidates.filter f.GrantsWriting := by
  change candidates.filter f.isWritable = _
  exact List.filter_congr fun iri _ => decide_grantsWriting.symm

end Fetcher

end Courier
