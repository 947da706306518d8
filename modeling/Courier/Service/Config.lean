import Courier.Crawl.Run
import Courier.Http.Client
import Courier.Rdf.Error
import Courier.Text.Blank
import Courier.Text.Word
import Courier.Token.Codec

/-!
# Configuration

What a service can be told from outside.  Settings are read from named variables; one that is unset
or blank keeps its default.  Variables are read in a fixed order and the first bad one is reported.
-/

namespace Courier

/-- Why a configuration cannot be used. -/
inductive ConfigError where
  /-- The value does not suit the variable.  A reason is known for numbers. -/
  | invalid (name value : String) (reason : Option String)
  /-- There is no key to sign with. -/
  | key
  deriving DecidableEq

namespace ConfigError

/-- What was refused. -/
def summary : ConfigError → String
  | invalid name value _ => "Invalid value " ++ Text.quoted value ++ " for " ++ name
  | key => "Could not read signing key"

/-- Why it was refused. -/
def detail : ConfigError → String
  | invalid _ _ (some reason) => reason
  | invalid _ value none => (DataError.invalidIri value).message
  | key => TokenError.key.message

/-- The whole description. -/
def message (e : ConfigError) : String :=
  e.summary ++ ": " ++ e.detail

end ConfigError

/-- What a service can be told. -/
structure Config where
  /-- Where the service is found, for links. -/
  baseUrl : String := "http://localhost:3005"
  /-- The name of the application that the service works for. -/
  appName : String := "Sleepy.Bike"
  /-- Where the application is found. -/
  appUrl : Option String := none
  /-- The address that messages come from. -/
  emailSender : String := "noreply@example"
  /-- Who the service is when it reads and writes pods. -/
  mailerWebId : Iri := ⟨"http://localhost:3456/bot/profile/card#me"⟩
  /-- The secret that proves it. -/
  mailerToken : Option String := none
  /-- Where the key is to sign with. -/
  keyPath : String := "./ecdsa-p256-private.pem"
  /-- The class of data through which settings are found. -/
  discoveryType : Iri := ⟨"http://w3id.org/hospex/ns#PersonalHospexDocument"⟩
  /-- The property under which tokens are kept. -/
  tokenPredicate : Iri := ⟨"https://example.com/emailVerificationToken"⟩
  /-- The groups whose members may use the service; without groups everybody may. -/
  allowedGroups : List Iri := []
  /-- For how many seconds a link holds. -/
  linkLifetime : UInt64 := 3600
  /-- For how many seconds a token kept in a pod holds. -/
  tokenLifetime : UInt64 := 315360000
  /-- How many seconds one request may take. -/
  fetchTimeout : UInt64 := 30
  /-- How many documents a search may read. -/
  maxFetches : UInt64 := 256
  /-- How many seconds a search may take. -/
  deadline : UInt64 := 60
  /-- How many documents a search may read at once. -/
  concurrency : UInt64 := 8

namespace Config

/-! ### Reading settings -/

/-- The variables that are looked at. -/
def settingNames : List String :=
  ["BASE_URL", "APP_NAME", "APP_URL", "EMAIL_SENDER", "MAILER_IDENTITY_WEBID",
    "MAILER_IDENTITY_TOKEN", "JWT_KEY", "EMAIL_DISCOVERY_TYPE", "VERIFICATION_TOKEN_PREDICATE",
    "ALLOWED_GROUPS", "EMAIL_VERIFICATION_TTL", "VERIFIED_TOKEN_TTL", "FETCH_TIMEOUT",
    "RESOLVE_MAX_FETCHES", "RESOLVE_DEADLINE", "RESOLVE_CONCURRENCY"]

/-- The resource that a variable must name. -/
def readIri (name value : String) : Except ConfigError Iri :=
  match Iri.ofString? value with
  | some iri => .ok iri
  | none => .error (.invalid name value none)

/-- The number that a variable must give, whatever the blanks around it. -/
def readNumber (name value : String) : Except ConfigError UInt64 :=
  (Text.readWord (Text.trim value)).mapError fun fault => .invalid name value (some fault.reason)

/-- The resources that a variable names, with commas between them. -/
def readIris (name value : String) : Except ConfigError (List Iri) :=
  (((Text.split ',' value).map Text.trim).filter (!·.isEmpty)).mapM (readIri name)

/-- The value of a variable, unless it is blank. -/
def setting? (lookup : String → Option String) (name : String) : Option String :=
  (lookup name).filter (!Text.isBlankText ·)

/-- What the value of a variable means, or the default if it has none. -/
def setting {α : Type} (lookup : String → Option String)
    (read : String → String → Except ConfigError α) (name : String) (default : α) :
    Except ConfigError α :=
  match setting? lookup name with
  | some value => read name value
  | none => .ok default

/-- The configuration that the variables describe, or the first bad one. -/
def ofLookup (lookup : String → Option String) : Except ConfigError Config := do
  let standard : Config := {}
  let text name default := (setting? lookup name).getD default
  let iri := setting lookup readIri
  let number := setting lookup readNumber
  let mailerWebId ← iri "MAILER_IDENTITY_WEBID" standard.mailerWebId
  let discoveryType ← iri "EMAIL_DISCOVERY_TYPE" standard.discoveryType
  let tokenPredicate ← iri "VERIFICATION_TOKEN_PREDICATE" standard.tokenPredicate
  let allowedGroups ← setting lookup readIris "ALLOWED_GROUPS" standard.allowedGroups
  let linkLifetime ← number "EMAIL_VERIFICATION_TTL" standard.linkLifetime
  let tokenLifetime ← number "VERIFIED_TOKEN_TTL" standard.tokenLifetime
  let fetchTimeout ← number "FETCH_TIMEOUT" standard.fetchTimeout
  let maxFetches ← number "RESOLVE_MAX_FETCHES" standard.maxFetches
  let deadline ← number "RESOLVE_DEADLINE" standard.deadline
  let concurrency ← number "RESOLVE_CONCURRENCY" standard.concurrency
  return {
    baseUrl := ((setting? lookup "BASE_URL").map (Text.dropTrailing '/')).getD standard.baseUrl
    appName := text "APP_NAME" standard.appName
    appUrl := setting? lookup "APP_URL"
    emailSender := text "EMAIL_SENDER" standard.emailSender
    mailerToken := setting? lookup "MAILER_IDENTITY_TOKEN"
    keyPath := text "JWT_KEY" standard.keyPath
    mailerWebId, discoveryType, tokenPredicate, allowedGroups, linkLifetime, tokenLifetime
    fetchTimeout, maxFetches, deadline, concurrency }

/-! ### What follows from the settings -/

/-- The client that reads and writes pods. -/
def client (c : Config) : Client :=
  { bearer := c.mailerToken, timeout := 1000 * c.fetchTimeout.toNat }

/-- How far a search may go. -/
def limits (c : Config) : Crawl.Limits :=
  { maxFetches := c.maxFetches.toNat
    deadline := some (1000 * c.deadline.toNat)
    fetchTimeout := 1000 * c.fetchTimeout.toNat
    concurrency := max 1 c.concurrency.toNat }

end Config

end Courier
