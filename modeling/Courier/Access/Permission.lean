import Courier.Text.Blank
import Courier.Text.Quoted

/-!
# Permissions

Servers tell in a header what may be done with a resource.  The header is a row of groups separated
by commas, each a key, an equals sign and a quoted row of modes.  Two keys matter: `user` is who
asks, `public` is everybody.  Groups of other keys must be well formed too, but are passed over.
-/

namespace Courier

/-- What may be done with a resource. -/
inductive Permission where
  /-- Read it. -/
  | read
  /-- Change it. -/
  | write
  /-- Add to it. -/
  | append
  /-- Change its permissions. -/
  | control
  deriving DecidableEq

namespace Permission

/-- The word for a mode. -/
def word : Permission → String
  | read => "read"
  | write => "write"
  | append => "append"
  | control => "control"

/-- The mode that a word stands for. -/
def ofWord? (text : String) : Option Permission :=
  [read, write, append, control].find? (·.word == text)

end Permission

/-- What may be done with a resource, and by whom. -/
structure Permissions where
  /-- What who asks may do. -/
  user : List Permission := []
  /-- What everybody may do. -/
  everybody : List Permission := []
  deriving DecidableEq

/-- Whether who asks may add to the resource. -/
def Permissions.userCanWrite (p : Permissions) : Bool :=
  p.user.any fun mode => mode = .write || mode = .append

/-- What is wrong with a header that should tell permissions. -/
inductive PermissionsFault where
  /-- The group has no equals sign. -/
  | noModes (group : String)
  /-- The modes of the key are not in quotes. -/
  | notQuoted (key : String)
  /-- The word is no mode. -/
  | unknownMode (word : String)
  deriving DecidableEq

namespace PermissionsFault

/-- What is wrong. -/
def reason : PermissionsFault → String
  | noModes group => "expected key=\"modes\" in " ++ Text.quoted group
  | notQuoted key => "modes of " ++ Text.quoted key ++ " are not quoted"
  | unknownMode word => "unknown access mode " ++ Text.quoted word

end PermissionsFault

/-- A header that should tell permissions, and what is wrong with it. -/
structure PermissionsError where
  /-- The refused header. -/
  header : String
  /-- What is wrong with it. -/
  fault : PermissionsFault
  deriving DecidableEq

/-- What was refused, and why. -/
def PermissionsError.message (e : PermissionsError) : String :=
  "Malformed WAC-Allow header " ++ Text.quoted e.header ++ ": " ++ e.fault.reason

namespace Permissions

/-- The name of the header. -/
def headerName : String := "wac-allow"

/-- The text between two quotes. -/
def unquote? (text : String) : Option String :=
  match text.toList with
  | '"' :: rest => if rest.getLast? = some '"' then some (.ofList rest.dropLast) else none
  | _ => none

/-- The modes of a row of words, each where it came first. -/
def modes : List String → Except PermissionsFault (List Permission)
  | [] => .ok []
  | word :: rest =>
    match Permission.ofWord? word with
    | none => .error (.unknownMode word)
    | some mode => (modes rest).map fun later => mode :: later.filter (· != mode)

/-- The key and the modes of a group. -/
def group (text : String) : Except PermissionsFault (String × List Permission) :=
  match Text.splitOnce '=' text with
  | none => .error (.noModes text)
  | some (key, value) =>
    match unquote? (Text.trim value) with
    | none => .error (.notQuoted (Text.trim key))
    | some row => (modes (Text.words row)).map (Text.trim key, ·)

/-- The permissions with those of one more group; the last group of a key counts. -/
def add (p : Permissions) : String × List Permission → Permissions
  | ("user", granted) => { p with user := granted }
  | ("public", granted) => { p with everybody := granted }
  | _ => p

/-- The groups of a header. -/
def groups (header : String) : List String :=
  ((Text.split ',' header).map Text.trim).filter (!·.isEmpty)

/-- The permissions that a header tells, or what is wrong with its first bad group. -/
def parse (header : String) : Except PermissionsError Permissions :=
  match (groups header).mapM group with
  | .ok gs => .ok (gs.foldl add {})
  | .error fault => .error ⟨header, fault⟩

end Permissions

end Courier
