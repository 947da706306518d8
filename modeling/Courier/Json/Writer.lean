import Courier.Json.Value
import Courier.Text.Hex

/-!
# Writing JSON

A value is written either without any blanks, or on lines of its own with two blanks for every
level.  Strings escape quotes, backslashes and controls, and nothing else.
-/

namespace Courier.Json

open Courier.Text

/-- One character inside a written string. -/
def escape (c : Char) : List Char :=
  match c with
  | '"' => ['\\', '"']
  | '\\' => ['\\', '\\']
  | '\n' => ['\\', 'n']
  | '\r' => ['\\', 'r']
  | '\t' => ['\\', 't']
  | '\x08' => ['\\', 'b']
  | '\x0c' => ['\\', 'f']
  | c =>
    if c.toNat < 0x20 then
      ['\\', 'u', '0', '0', hexDigit (c.toNat / 16), hexDigit (c.toNat % 16)]
    else [c]

/-- A written string.  One that is no text is written as an empty one. -/
def writeString (value : Option String) : List Char :=
  '"' :: (value.getD "").toList.flatMap escape ++ ['"']

/-- A written number. -/
def writeNumber : Number → List Char
  | .natural n => (toString n).toList
  | .scientific negative digits exponent =>
    (if negative then ['-'] else []) ++ (toString digits ++ "e" ++ toString exponent).toList

/-! ### On one line -/

mutual

/-- The value without blanks. -/
def compactList : Json → List Char
  | null => "null".toList
  | bool b => (if b then "true" else "false").toList
  | number n => writeNumber n
  | string s => writeString s
  | array items => '[' :: compactItems items ++ [']']
  | object members => '{' :: compactMembers members ++ ['}']

/-- The items with commas between them. -/
def compactItems : List Json → List Char
  | [] => []
  | [item] => compactList item
  | item :: rest => compactList item ++ ',' :: compactItems rest

/-- The members with commas between them. -/
def compactMembers : List (Option String × Json) → List Char
  | [] => []
  | [(name, value)] => writeString name ++ ':' :: compactList value
  | (name, value) :: rest =>
    writeString name ++ ':' :: compactList value ++ ',' :: compactMembers rest

end

/-- The value without blanks. -/
def compact (v : Json) : String :=
  .ofList (compactList v)

/-! ### On many lines -/

/-- A new line at the given level. -/
def newLine (level : Nat) : List Char :=
  '\n' :: List.replicate (2 * level) ' '

mutual

/-- The value on lines of its own; the first line stands at the given level already. -/
def prettyList (level : Nat) : Json → List Char
  | null => "null".toList
  | bool b => (if b then "true" else "false").toList
  | number n => writeNumber n
  | string s => writeString s
  | array [] => ['[', ']']
  | array (item :: rest) =>
    '[' :: newLine (level + 1) ++ prettyItems (level + 1) (item :: rest) ++ newLine level ++ [']']
  | object [] => ['{', '}']
  | object (member :: rest) =>
    '{' :: newLine (level + 1) ++ prettyMembers (level + 1) (member :: rest) ++ newLine level ++
      ['}']

/-- The items, each on lines of its own. -/
def prettyItems (level : Nat) : List Json → List Char
  | [] => []
  | [item] => prettyList level item
  | item :: rest => prettyList level item ++ ',' :: newLine level ++ prettyItems level rest

/-- The members, each on lines of its own. -/
def prettyMembers (level : Nat) : List (Option String × Json) → List Char
  | [] => []
  | [(name, value)] => writeString name ++ ':' :: ' ' :: prettyList level value
  | (name, value) :: rest =>
    writeString name ++ ':' :: ' ' :: prettyList level value ++ ',' :: newLine level ++
      prettyMembers level rest

end

/-- The value on lines of its own. -/
def pretty (v : Json) : String :=
  .ofList (prettyList 0 v)

end Courier.Json
