import Courier.Command.Run
import Std.Time.DateTime.Timestamp

/-!
# The program

Settings come from the environment, the command from the arguments, the key and the plan from files.
The program has no way to reach a server, so it answers as it does when no request gets through.
-/

namespace Courier

/-- A fetcher that gets nothing through. -/
def offline : Fetcher where
  answer r := .error (.network r.iri "no connection")
  delay _ := 0

/-- The text of a file, if it can be read. -/
def readText (path : String) : IO (Option String) := do
  try return some (← IO.FS.readFile path) catch _ => return none

/-- Reads the variables that are set. -/
def readSettings : IO (List (String × String)) :=
  Config.settingNames.filterMapM fun name => return (← IO.getEnv name).map (name, ·)

/-- Reads the files that the command needs. -/
def readFiles (config : Config) (command : Command) : IO Files := do
  let key ← readText config.keyPath
  match command with
  | .resolve _ (some path) =>
    let plan ← readText path
    return fun name => if name = path then plan else if name = config.keyPath then key else none
  | _ => return fun name => if name = config.keyPath then key else none

/-- The number of whole seconds since the start of 1970. -/
def now : IO UInt64 :=
  return (← Std.Time.Timestamp.now).toSecondsSinceUnixEpoch.val.toNat.toUInt64

/-- Does what the arguments ask and tells whether that went well. -/
def runArguments (arguments : List String) : IO UInt32 := do
  match Command.parse arguments with
  | .error .help => IO.println UsageError.help.message; return UsageError.help.exitStatus
  | .error e => IO.eprintln e.message; return e.exitStatus
  | .ok command =>
    let settings ← readSettings
    match Config.ofLookup (List.lookup · settings) with
    | .error e => IO.eprintln e.message; return 1
    | .ok config =>
      match command.runWithClient config (← readFiles config command) offline (← now) with
      | .ok text => IO.println text; return 0
      | .error e => IO.eprintln e.message; return 1

end Courier

/-- Runs the program. -/
def main (arguments : List String) : IO UInt32 :=
  Courier.runArguments arguments
