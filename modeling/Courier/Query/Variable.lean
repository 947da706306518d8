import Courier.Text.Alphanumeric
import Courier.Text.Quoted

/-!
# Variables

A variable stands for the terms that a search has found for it.  It is written with a question mark
before its name; a text may leave the mark out.
-/

namespace Courier

/-- A variable of a plan. -/
structure Variable where
  /-- The name without the question mark. -/
  name : String
  deriving DecidableEq, Hashable, Inhabited

/-- A text that names no variable, without its question mark. -/
structure VariableError where
  /-- The refused name. -/
  name : String
  deriving DecidableEq

/-- What was refused. -/
def VariableError.message (e : VariableError) : String :=
  "Invalid variable name " ++ Text.quoted e.name

namespace Variable

/-- The text without one question mark at its start. -/
def withoutMark (text : String) : String :=
  match text.toList with
  | '?' :: rest => .ofList rest
  | _ => text

/-- The characters of names. -/
def isNameChar (c : Char) : Bool :=
  Text.isAlphanumeric c || c == '_' || c == '-'

/-- Whether a name is not empty and has letters, digits, `_` and `-` only. -/
def isName (name : String) : Bool :=
  !name.isEmpty && name.toList.all isNameChar

/-- The variable that a text names, whether or not the name is a good one. -/
def named (text : String) : Variable :=
  ⟨withoutMark text⟩

/-- The variable that a text names, or why it names none. -/
def parse (text : String) : Except VariableError Variable :=
  let name := withoutMark text
  if isName name then .ok ⟨name⟩ else .error ⟨name⟩

/-- The variable with its question mark. -/
def display (v : Variable) : String :=
  "?" ++ v.name

end Variable

end Courier
