import Courier.Access.Permission
import Courier.Http.Fetcher

/-!
# Refusals

Why access to a resource or to the service is not granted.
-/

namespace Courier

/-- Why access is not granted. -/
inductive AccessError where
  /-- The resource could not be reached. -/
  | unreachable (cause : FetchError)
  /-- The server does not tell the resource's permissions. -/
  | missingHeader (iri : Iri)
  /-- The header that tells permissions is malformed. -/
  | permissions (cause : PermissionsError)
  /-- The person is in none of the groups. -/
  | notMember (person : Iri) (groups : List Iri)
  deriving DecidableEq

namespace AccessError

/-- What happened. -/
def message : AccessError → String
  | unreachable cause => cause.message
  | missingHeader iri => "WAC-Allow header not found for resource <" ++ iri.text ++ ">"
  | permissions cause => cause.message
  | notMember .. => "Person is not a member of any allowed group"

end AccessError

end Courier
