import Courier.Access.Membership
import Courier.Access.Writable
import Courier.Key.PrivateKey
import Courier.Service.Activity
import Courier.Service.Error
import Courier.Service.SearchPlan

/-!
# The service

The service finds out how people can be reached.  It keeps nothing itself: who may be written to at
which address stands, signed by the service, in the pods of the people themselves.  So all it needs
are its settings, a fetcher for pods and a way of signing.
-/

namespace Courier

/-- The service with all that it needs. -/
structure Service where
  /-- What it was told. -/
  config : Config
  /-- What it reads and writes pods with. -/
  fetcher : Fetcher
  /-- How it signs. -/
  scheme : SignatureScheme
  /-- Whom it signs as. -/
  issuer : String

namespace Service

/-- The codec of tokens in links. -/
def linkCodec (s : Service) : TokenCodec :=
  { scheme := s.scheme, issuer := s.issuer, lifetime := s.config.linkLifetime }

/-- The codec of tokens kept in pods. -/
def keptCodec (s : Service) : TokenCodec :=
  { scheme := s.scheme, issuer := s.issuer, lifetime := s.config.tokenLifetime }

/-- The service that a configuration describes, where `keyText` is what its key file holds, if the
file can be read.  The key is looked at before the client. -/
def ofConfig (config : Config) (keyText : Option String) (fetcher : Fetcher) :
    Except ServiceError Service := do
  match keyText.map fun text => PrivateKey.ofText text with
  | some (.ok key) =>
    let _ ← config.client.check.mapError ServiceError.fetch
    return { config, fetcher, scheme := key.scheme, issuer := config.mailerWebId.text }
  | _ => throw (.config .key)

/-! ### Searching pods -/

/-- The search of a person's pod. -/
def search (s : Service) (reading : Nat) : Crawl.Setting :=
  { fetcher := s.fetcher, reading, limits := s.config.limits
    plan := SearchPlan.plan s.config.discoveryType }

/-- Everything found in a person's pod. -/
def resolve (s : Service) (reading : Nat) (webId : Iri) : Traced Crawl.Resolution :=
  let seed := Bindings.empty.insert SearchPlan.person (.iri webId)
  let r := (s.search reading).run seed
  { value := r, requests := r.requests.map (·.2) }

/-- The tokens among what was found: the literals that the person's own property has. -/
def keptTokens (s : Service) (webId : Iri) (r : Crawl.Resolution) : List String :=
  (r.store.objects (.iri webId) s.config.tokenPredicate).toList.filterMap fun
    | .literal l => some l.value
    | _ => none

/-- The tokens that a person keeps.  That there are none is certain only if the search was
finished. -/
def findTokens (s : Service) (reading : Nat) (webId : Iri) :
    Traced (Except ServiceError (List String)) := do
  let r ← s.resolve reading webId
  let tokens := s.keptTokens webId r
  if tokens.isEmpty && !r.isConverged then return .error (.incomplete webId r.status)
  else return .ok tokens

/-- The person's settings among what was found. -/
def settings (r : Crawl.Resolution) : List Iri :=
  (r.termsOf SearchPlan.settings).toList.filterMap Term.iri?

/-- The person's settings that may be written to. -/
def findWritableSettings (s : Service) (reading : Nat) (webId : Iri) : Traced (List Iri) := do
  let r ← s.resolve reading webId
  s.fetcher.findWritable (settings r)

/-! ### Who may use the service -/

/-- Whether the person may use the service. -/
def authorize (s : Service) (person : Iri) : Traced (Except ServiceError Unit) := do
  return (← s.fetcher.authorize person s.config.allowedGroups).mapError .ofAccess

end Service

end Courier
