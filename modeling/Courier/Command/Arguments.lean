import Courier.Iri.Basic

/-!
# Command lines

What the program is asked to do, and how that is read from its arguments.  A command has a fixed row
of values, of which the last may be repeated, and possibly the option to name a plan.

A value is looked at only when something else follows it, or at the end.  So of two faults it is not
always the first one that is reported: an argument that is not known at all is reported before a
bad value in front of it.
-/

namespace Courier

/-- What the program is asked to do. -/
inductive Command where
  /-- Tell whether a person can be reached. -/
  | status (webId : Iri)
  /-- Search a person's pod, by a plan of one's own if one is named. -/
  | resolve (webId : Iri) (plan : Option String)
  /-- Tell of which groups a person is a member. -/
  | member (person : Iri) (groups : List Iri)
  /-- Tell what a header permits. -/
  | capability (header : String)
  /-- Tell which of a person's settings may be written to. -/
  | writable (webId : Iri)
  deriving DecidableEq

/-- Why arguments are no command. -/
inductive UsageError where
  /-- There is no command. -/
  | noCommand
  /-- Help was asked for. -/
  | help
  /-- The command is not known. -/
  | unknownCommand
  /-- A value is missing. -/
  | missingArgument
  /-- A value should name a resource, but does not. -/
  | badValue
  /-- There is an argument too many, or an option that is not known. -/
  | unknownArgument
  /-- An option has no value. -/
  | missingValue
  /-- An option has a value that it should not have. -/
  | unwantedValue
  /-- An option is given twice. -/
  | repeatedOption
  deriving DecidableEq

namespace UsageError

/-- What is wrong with the arguments, or how to use the program if help was asked for. -/
def message : UsageError → String
  | noCommand | help => String.intercalate "\n  " ["Usage:", "status WEB_ID",
      "resolve WEB_ID [--plan FILE]", "member PERSON GROUP...", "capability HEADER",
      "writable WEB_ID"]
  | unknownCommand => "There is no such command"
  | missingArgument => "An argument is missing"
  | badValue => "An argument is no absolute IRI"
  | unknownArgument => "There is an argument that is not known"
  | missingValue => "An option has no value"
  | unwantedValue => "An option takes no value"
  | repeatedOption => "An option is given twice"

/-- The status with which the program ends: help that was asked for is no failure. -/
def exitStatus : UsageError → UInt32
  | help => 0
  | _ => 2

end UsageError

namespace Command

/-- The commands by name. -/
inductive Name where
  /-- See `Command.status`. -/
  | status
  /-- See `Command.resolve`. -/
  | resolve
  /-- See `Command.member`. -/
  | member
  /-- See `Command.capability`. -/
  | capability
  /-- See `Command.writable`. -/
  | writable
  deriving DecidableEq

namespace Name

/-- The word for a command. -/
def word : Name → String
  | status => "status"
  | resolve => "resolve"
  | member => "member"
  | capability => "capability"
  | writable => "writable"

/-- The command that a word stands for. -/
def ofWord? (text : String) : Option Name :=
  [status, resolve, member, capability, writable].find? (·.word == text)

/-- Whether the values of the command name resources. -/
def namesResources : Name → Bool
  | capability => false
  | _ => true

/-- How many places the command has for values. -/
def places : Name → Nat
  | member => 2
  | _ => 1

/-- Whether the place may hold more than one value. -/
def isRepeated (name : Name) (place : Nat) : Bool :=
  name = member && place = 1

/-- Whether the command has the option to name a plan. -/
def hasPlan (name : Name) : Bool :=
  name = resolve

end Name

/-! ### Reading the arguments of a command -/

/-- What has been read, but not looked at. -/
inductive Pending where
  /-- Nothing. -/
  | nothing
  /-- The values of a place. -/
  | values (place : Nat) (texts : List String)
  /-- The option to name a plan, and its value if it has come. -/
  | plan (value : Option String)

/-- How far the reading of a command's arguments has come. -/
structure Progress where
  /-- The command. -/
  name : Name
  /-- The values that have been looked at, in order. -/
  settled : List String := []
  /-- The place of the next value. -/
  place : Nat := 0
  /-- What has been read last. -/
  pending : Pending := .nothing
  /-- The plan that has been named. -/
  plan : Option String := none
  /-- Whether options have come to an end. -/
  valuesOnly : Bool := false

namespace Progress

/-- Names a plan. -/
def setPlan (p : Progress) (value : String) : Except UsageError Progress :=
  if p.plan.isSome then .error .repeatedOption
  else if value.isEmpty then .error .missingValue
  else .ok { p with plan := some value }

/-- Looks at what has been read last. -/
def settle (p : Progress) : Except UsageError Progress :=
  let rest := { p with pending := .nothing }
  match p.pending with
  | .nothing => .ok rest
  | .values _ texts =>
    if p.name.namesResources && !texts.all Iri.isAbsolute then .error .badValue
    else .ok { rest with settled := p.settled ++ texts }
  | .plan none => .error .missingValue
  | .plan (some value) => rest.setPlan value

/-- Reads a value. -/
def addValue (p : Progress) (text : String) : Except UsageError Progress :=
  if p.name.places ≤ p.place then .error .unknownArgument
  else if p.name.isRepeated p.place then
    match p.pending with
    | .values place texts =>
      if place = p.place then .ok { p with pending := .values place (texts ++ [text]) }
      else (settle p).map ({ · with pending := .values p.place [text] })
    | _ => (settle p).map ({ · with pending := .values p.place [text] })
  else (settle p).map ({ · with pending := .values p.place [text], place := p.place + 1 })

/-- Reads an option of two dashes, given without them. -/
def addLong (p : Progress) (option : List Char) : Except UsageError Progress :=
  let (name, value) := option.span (· != '=')
  if name = "help".toList then
    if value.isEmpty then (settle p).bind fun _ => .error .help else .error .unwantedValue
  else if name = "plan".toList ∧ p.name.hasPlan then do
    let p ← settle p
    match value with
    | [] => return { p with pending := .plan none }
    | _ :: value => p.setPlan (.ofList value)
  else .error .unknownArgument

/-- Reads an option of one dash, given without it. -/
def addShort (p : Progress) (option : List Char) : Except UsageError Progress :=
  match option with
  | 'h' :: _ => (settle p).bind fun _ => .error .help
  | 'p' :: value =>
    if p.name.hasPlan then do
      let p ← settle p
      match value with
      | [] => return { p with pending := .plan none }
      | '=' :: value => p.setPlan (.ofList value)
      | value => p.setPlan (.ofList value)
    else .error .unknownArgument
  | _ => .error .unknownArgument

/-- Reads one argument. -/
def add (p : Progress) (argument : String) : Except UsageError Progress :=
  if p.valuesOnly then p.addValue argument
  else
    match argument.toList with
    | ['-', '-'] => .ok { p with valuesOnly := true }
    | '-' :: '-' :: option => p.addLong option
    | '-' :: c :: option => p.addShort (c :: option)
    | _ =>
      match p.pending with
      | .plan none => .ok { p with pending := .plan (some argument) }
      | _ => p.addValue argument

/-- The command that has been read. -/
def finish (p : Progress) : Except UsageError Command := do
  let p ← settle p
  match p.name, p.settled with
  | .status, [webId] => return .status ⟨webId⟩
  | .resolve, [webId] => return .resolve ⟨webId⟩ p.plan
  | .member, person :: group :: groups => return .member ⟨person⟩ ((group :: groups).map (⟨·⟩))
  | .capability, [header] => return .capability header
  | .writable, [webId] => return .writable ⟨webId⟩
  | _, _ => throw .missingArgument

end Progress

/-! ### Whole command lines -/

/-- The answer to a request for help on a command. -/
def helpOn : List String → UsageError
  | [] => .help
  | [word] => if word = "help" ∨ (Name.ofWord? word).isSome then .help else .unknownCommand
  | _ => .unknownCommand

/-- The answer to a first word that is no command. -/
def refuse (word : String) : UsageError :=
  match word.toList with
  | '-' :: '-' :: option =>
    if option.takeWhile (· != '=') = "help".toList then
      if option.contains '=' then .unwantedValue else .help
    else .unknownArgument
  | '-' :: 'h' :: _ => .help
  | '-' :: _ :: _ => .unknownArgument
  | _ => .unknownCommand

/-- The command that the arguments spell, or why they spell none. -/
def parse : List String → Except UsageError Command
  | [] | ["--"] => .error .noCommand
  | "--" :: word :: _ =>
    if word = "help" ∨ (Name.ofWord? word).isSome then .error .unknownArgument
    else .error .unknownCommand
  | "help" :: words => .error (helpOn words)
  | word :: arguments =>
    match Name.ofWord? word with
    | none => .error (refuse word)
    | some name => (arguments.foldlM Progress.add { name }).bind Progress.finish

end Command

end Courier
