import Courier.Access.Error
import Courier.Http.Traced

/-!
# Writable resources

Which of some candidates may be written to.  Each candidate is asked for its permissions once, in
order; one that does not tell them is not writable.
-/

namespace Courier.Fetcher

/-- The permissions that a resource tells. -/
def permissions (f : Fetcher) (iri : Iri) : Except AccessError Permissions :=
  match f.answer (.head iri) with
  | .error e => .error (.unreachable e)
  | .ok response =>
    if response.isSuccess then
      match response.header? Permissions.headerName with
      | none => .error (.missingHeader iri)
      | some header => (Permissions.parse header).mapError .permissions
    else .error (.unreachable (.status iri response.status))

/-- Whether the resource tells that who asks may add to it. -/
def isWritable (f : Fetcher) (iri : Iri) : Bool :=
  match f.permissions iri with
  | .ok p => p.userCanWrite
  | .error _ => false

/-- The candidates that may be written to, in order. -/
def findWritable (f : Fetcher) (candidates : List Iri) : Traced (List Iri) where
  value := candidates.filter f.isWritable
  requests := candidates.map Request.head

end Courier.Fetcher
