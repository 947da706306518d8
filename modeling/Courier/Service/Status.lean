import Courier.Service.Basic

/-!
# Verified addresses

At which addresses a person can be reached, going by the tokens in their pod.  A token counts if it
holds, says that the address was shown, and is about that very person: one copied from somebody
else's pod shows nothing.
-/

namespace Courier

namespace TokenCodec

/-- The address that a token shows for the person. -/
def verifiedEmail? (codec : TokenCodec) (now : UInt64) (webId : Iri) (token : String) :
    Option String :=
  match codec.verify token now with
  | .ok g => if g.claim.isVerified ∧ g.claim.webId = webId then some g.claim.email else none
  | .error _ => none

/-- The addresses that the tokens show for the person, each once. -/
def verifiedEmails (codec : TokenCodec) (now : UInt64) (webId : Iri) (tokens : List String) :
    OrderedSet String :=
  .ofList (tokens.filterMap (codec.verifiedEmail? now webId))

end TokenCodec

namespace Service

/-- The addresses at which the person can be reached. -/
def verifiedEmails (s : Service) (reading : Nat) (now : UInt64) (webId : Iri) :
    Traced (Except ServiceError (OrderedSet String)) := do
  return (← s.findTokens reading webId).map (s.keptCodec.verifiedEmails now webId)

/-- Whether the person can be reached. -/
def status (s : Service) (reading : Nat) (now : UInt64) (webId : Iri) :
    Traced (Except ServiceError Bool) := do
  return (← s.verifiedEmails reading now webId).map (!·.isEmpty)

/-- The written form of a status. -/
def statusJson (isVerified : Bool) : Json :=
  .record [("emailVerified", .bool isVerified)]

end Service

end Courier
