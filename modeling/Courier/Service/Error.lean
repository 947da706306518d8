import Courier.Access.Error
import Courier.Service.Config
import Courier.Service.Mail

/-!
# Failures of the service

Why the service does not do what it is asked to, and the number by which a web server tells its
caller.
-/

namespace Courier

/-- Why the service fails. -/
inductive ServiceError where
  /-- The caller is not who they write as. -/
  | forbidden
  /-- The person has shown no address. -/
  | noEmail (person : Iri)
  /-- Nothing was found, but the search was not finished. -/
  | incomplete (person : Iri) (status : Crawl.Status)
  /-- The link has no token. -/
  | missingLink
  /-- The link is void by now. -/
  | linkExpired
  /-- The link is none of the service's. -/
  | linkInvalid
  /-- There was nowhere to keep the token. -/
  | noWritableLocation (token : String)
  /-- The person is in none of the groups. -/
  | notMember (person : Iri) (groups : List Iri)
  /-- A document could not be obtained. -/
  | fetch (cause : FetchError)
  /-- Access is not granted. -/
  | access (cause : AccessError)
  /-- A message was refused. -/
  | mail (cause : MailError)
  /-- The configuration cannot be used. -/
  | config (cause : ConfigError)

namespace ServiceError

/-- The failure that a refused access is. -/
def ofAccess : AccessError → ServiceError
  | .notMember person groups => notMember person groups
  | cause => access cause

/-- What happened. -/
def message : ServiceError → String
  | forbidden => "You can't send notification as somebody else"
  | noEmail _ => "Receiving person doesn't have available email address"
  | incomplete person status =>
    "Could not finish searching the pod of <" ++ person.text ++ "> (" ++ status.word ++ ")"
  | missingLink =>
    "This is not a valid verification link. Have you received the link in your email?"
  | linkExpired => "Verification link is expired"
  | linkInvalid => "Verification link is invalid"
  | noWritableLocation _ =>
    "We couldn't find any writeable location on your Pod to save the email verification token. " ++
      "You can write it manually."
  | notMember person groups => (AccessError.notMember person groups).message
  | fetch cause => cause.message
  | access cause => cause.message
  | mail cause => cause.message
  | config cause => cause.message

/-- The number for a web server to answer with. -/
def statusCode : ServiceError → Nat
  | forbidden => 403
  | noEmail _ => 404
  | incomplete .. => 503
  | missingLink | linkExpired | linkInvalid | noWritableLocation _ | notMember .. => 400
  | fetch _ | access _ => 502
  | mail _ | config _ => 500

end ServiceError

end Courier
