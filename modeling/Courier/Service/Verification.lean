import Courier.Service.Basic
import Courier.Service.Patch

/-!
# Verifying an address

A person who wants to be reached at an address is sent a link there.  Following the link shows that
the address is theirs; the service then writes a token to that effect into the person's settings,
wherever it may write.
-/

namespace Courier

/-- What came of following a link. -/
structure Verified where
  /-- The token that was written. -/
  token : String
  /-- How many resources it was written to. -/
  saved : Nat
  /-- What to tell the person. -/
  message : String
  deriving DecidableEq

namespace Service

/-- The path that links lead to. -/
def linkPath : String := "/verify-email"

/-- The link with a token. -/
def link (s : Service) (token : String) : String :=
  Text.dropTrailing '/' s.config.baseUrl ++ linkPath ++ "?token=" ++ token

/-- The message with a link. -/
def linkMessage (s : Service) (email link : String) : Message where
  sender := ⟨s.config.appName ++ " notifications", s.config.emailSender⟩
  recipient := ⟨"", email⟩
  subject := "Verify your email for " ++ s.config.appName ++ " notifications"
  text := "Please verify your email " ++ link
  template := .verification

/-- Sends the person a link at the address. -/
def sendLink (s : Service) (mailer : Mailer) (now : UInt64) (actor : Iri) (email : String) :
    Activity (Except ServiceError String) := do
  let link := s.link (s.linkCodec.issue (.unverified actor email) now)
  match ← Activity.send mailer (s.linkMessage email link) with
  | .ok () => return .ok link
  | .error e => return .error (.mail e)

/-- What the token of a link claims. -/
def checkLink (s : Service) (now : UInt64) (token : Option String) : Except ServiceError Claim :=
  match (token.map Text.trim).filter (!·.isEmpty) with
  | none => .error .missingLink
  | some token =>
    match s.linkCodec.verify token now with
    | .ok g => .ok g.claim
    | .error .expired => .error .linkExpired
    | .error _ => .error .linkInvalid

/-- The token that says that the claim has been shown. -/
def keptToken (s : Service) (now : UInt64) (claim : Claim) : String :=
  s.keptCodec.issue (.verified claim.webId claim.email) now

/-- The request that adds the token to a resource. -/
def patchRequest (s : Service) (webId : Iri) (token : String) (target : Iri) : Request :=
  .patch target patchType (tokenPatch webId s.config.tokenPredicate token)

/-- Whether the request is answered and goes well. -/
def succeeds (s : Service) (r : Request) : Bool :=
  match s.fetcher.answer r with
  | .ok response => response.isSuccess
  | .error _ => false

/-- What to tell the person whose address has been shown. -/
def verifiedMessage (s : Service) : String :=
  "Your email was successfully verified." ++
    match s.config.appUrl with
    | some url => " You can go back to " ++ s.config.appName ++ " at " ++ url ++ " now."
    | none => ""

/-- Writes a token for the claim into the person's settings. -/
def finish (s : Service) (reading : Nat) (now : UInt64) (claim : Claim) :
    Traced (Except ServiceError Verified) := do
  let token := s.keptToken now claim
  let writable ← s.findWritableSettings reading claim.webId
  let patches := writable.map (s.patchRequest claim.webId token)
  let saved := patches.countP s.succeeds
  let value :=
    if saved = 0 then .error (.noWritableLocation token)
    else .ok { token, saved, message := s.verifiedMessage }
  { value, requests := patches }

/-- Does what following a link is meant to do. -/
def verifyEmail (s : Service) (reading : Nat) (now : UInt64) (token : Option String) :
    Traced (Except ServiceError Verified) :=
  match s.checkLink now token with
  | .error e => return .error e
  | .ok claim => s.finish reading now claim

end Service

end Courier
