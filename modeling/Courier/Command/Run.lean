import Courier.Command.Arguments
import Courier.Command.Report
import Courier.Query.Plan.Wire
import Courier.Service.Status

/-!
# Running commands

What each command prints, given the settings, what files hold, and something that answers requests.
-/

namespace Courier

/-- Why a command prints nothing. -/
inductive CommandError where
  /-- The configuration cannot be used. -/
  | config (cause : ConfigError)
  /-- The client cannot be set up. -/
  | client (cause : FetchError)
  /-- The service fails. -/
  | service (cause : ServiceError)
  /-- The header is malformed. -/
  | permissions (cause : PermissionsError)
  /-- The file that should hold a plan cannot be read. -/
  | noPlan (path : String)
  /-- The file holds no plan. -/
  | badPlan (cause : PlanError)

/-- What happened. -/
def CommandError.message : CommandError → String
  | config cause => cause.message
  | client cause => cause.message
  | service cause => cause.message
  | permissions cause => cause.message
  | noPlan path => "Could not read plan " ++ path
  | badPlan cause => cause.message .empty

/-- The text of a file, if it can be read. -/
abbrev Files := String → Option String

namespace Command

/-- The plan of a search. -/
def searchPlan (config : Config) (files : Files) : Option String → Except CommandError Plan
  | none => .ok (SearchPlan.plan config.discoveryType)
  | some path =>
    match files path with
    | none => .error (.noPlan path)
    | some text => (Plan.load text).mapError .badPlan

/-- The search of a person's pod by a plan. -/
def search (config : Config) (fetcher : Fetcher) (webId : Iri) (plan : Plan) : Crawl.Resolution :=
  ({ fetcher, limits := config.limits, plan } : Crawl.Setting).run
    (Bindings.empty.insert SearchPlan.person (.iri webId))

/-- The lines on groups, and whether a person who is in none of them is let in. -/
def memberReport (fetcher : Fetcher) (person : Iri) (groups : List Iri) : String :=
  let line (g : Iri) :=
    g.text ++ "\t" ++ (if fetcher.isMember person g then "member" else "not a member")
  let verdict := if groups.any (fetcher.isMember person) then "allowed" else "denied"
  String.intercalate "\n" (groups.map line ++ [verdict])

/-- The lines on permissions. -/
def permissionsReport (p : Permissions) : String :=
  let row (modes : List Permission) := String.intercalate " " (modes.map Permission.word)
  "user\t" ++ row p.user ++ "\npublic\t" ++ row p.everybody ++
    "\nwritable\t" ++ (if p.userCanWrite then "true" else "false")

/-- The text that a command prints, or why it prints none. -/
def run (config : Config) (files : Files) (fetcher : Fetcher) (now : UInt64) :
    Command → Except CommandError String
  | status webId =>
    match (files config.keyPath).map PrivateKey.ofText with
    | some (.ok key) =>
      let service : Service :=
        { config, fetcher, scheme := key.scheme, issuer := config.mailerWebId.text }
      match (service.status 0 now webId).value with
      | .ok isVerified => .ok (Service.statusJson isVerified).pretty
      | .error e => .error (.service e)
    | _ => .error (.config .key)
  | resolve webId plan =>
    (searchPlan config files plan).map fun plan => (search config fetcher webId plan).report
  | member person groups => .ok (memberReport fetcher person groups)
  | capability header =>
    match Permissions.parse header with
    | .ok p => .ok (permissionsReport p)
    | .error e => .error (.permissions e)
  | writable webId =>
    let r := search config fetcher webId (SearchPlan.plan config.discoveryType)
    let found := (fetcher.findWritable (Service.settings r)).value
    .ok (String.intercalate "\n" (found.map Iri.text))

/-- The text that a command prints if requests go through the client that the configuration
describes, which is set up first. -/
def runWithClient (config : Config) (files : Files) (fetcher : Fetcher) (now : UInt64)
    (command : Command) : Except CommandError String :=
  match config.client.check with
  | .error e => .error (.client e)
  | .ok _ => command.run config files fetcher now

end Command

end Courier
