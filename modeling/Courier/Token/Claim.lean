import Courier.Iri.Basic
import Courier.Json.Reader
import Courier.Json.Record
import Courier.Json.Writer

/-!
# Claims and grants

A claim says that a person uses an address.  A grant is a claim that somebody stands for, from one
instant to another; instants are seconds since the start of 1970 and stay below 2⁶⁴.
-/

namespace Courier

/-- That a person uses an address. -/
structure Claim where
  /-- The person. -/
  webId : Iri
  /-- The address. -/
  email : String
  /-- Whether the person has shown that messages to the address reach them. -/
  isVerified : Bool
  deriving DecidableEq

/-- A claim that somebody stands for. -/
structure Grant where
  /-- What is claimed. -/
  claim : Claim
  /-- Who stands for it. -/
  issuer : String
  /-- When the grant was made. -/
  issuedAt : UInt64
  /-- From when on the grant is void. -/
  expiresAt : UInt64
  deriving DecidableEq

/-- Whether the grant is void at the instant. -/
def Grant.isExpired (g : Grant) (now : UInt64) : Bool :=
  g.expiresAt ≤ now

/-! ### Written claims -/

namespace Claim

/-- The claim that a person uses an address, not shown yet. -/
def unverified (webId : Iri) (email : String) : Claim := ⟨webId, email, false⟩

/-- The claim that a person has shown to use an address. -/
def verified (webId : Iri) (email : String) : Claim := ⟨webId, email, true⟩

/-- The fields of a written claim. -/
def members (c : Claim) : List (String × Json) :=
  [("webId", .text c.webId.text), ("email", .text c.email), ("emailVerified", .bool c.isVerified)]

/-- The written form of a claim. -/
def toJson (c : Claim) : Json := .record c.members

/-- The claim that a record describes. -/
def ofJson? (record : Json) : Option Claim :=
  match Json.fields? ["webId", "email", "emailVerified"] 0 record with
  | some [webId, email, verified] => do
    let webId ← (Json.requiredText? webId).bind Iri.ofString?
    let email ← Json.requiredText? email
    let verified ← Json.requiredBool? verified
    return ⟨webId, email, verified⟩
  | _ => none

end Claim

namespace Grant

/-- The written form of a grant: the fields of its claim and its own in one record. -/
def toJson (g : Grant) : Json :=
  .record <| g.claim.members ++
    [("iss", .text g.issuer), ("iat", .word g.issuedAt), ("exp", .word g.expiresAt)]

/-- The grant that an object describes.  All of the object must be such that it can be kept, since
the fields of the claim are picked out of it only after it has been read. -/
def ofJson? (record : Json) : Option Grant :=
  match record with
  | .object _ =>
    if record.isKeepable Json.maxDepth then
      match Json.fields? ["iss", "iat", "exp"] 0 record with
      | some [issuer, issuedAt, expiresAt] => do
        let claim ← Claim.ofJson? record
        let issuer ← Json.requiredText? issuer
        let issuedAt ← Json.requiredWord? issuedAt
        let expiresAt ← Json.requiredWord? expiresAt
        return ⟨claim, issuer, issuedAt, expiresAt⟩
      | _ => none
    else none
  | _ => none

end Grant

end Courier
