import Courier.Json.Value

/-!
# Reading records

A record is written as an object whose members are its fields, or as a list of its fields in order.
Members that are no fields are passed over, but a field may not come twice.
-/

namespace Courier.Json

/-- The values of the named fields, in order.  In an object a field may be absent; in a list the
last `spare` fields may be. -/
def fields? (names : List String) (spare : Nat) : Json → Option (List (Option Json))
  | object members =>
    if members.all (·.1.isSome) && names.all (fun n => (members.countP (·.1 == some n)) ≤ 1) then
      some (names.map fun n => members.lookup (some n))
    else none
  | array items =>
    if items.length ≤ names.length ∧ names.length ≤ items.length + spare then
      some (items.map some ++ List.replicate (names.length - items.length) none)
    else none
  | _ => none

/-- The text that a field must be. -/
def requiredText? : Option Json → Option String
  | some (string value) => value
  | _ => none

/-- The text that a field may be; a null counts as absent. -/
def optionalText? : Option Json → Option (Option String)
  | none | some null => some none
  | some (string (some value)) => some (some value)
  | _ => none

/-- The truth value that a field must be. -/
def requiredBool? : Option Json → Option Bool
  | some (bool value) => some value
  | _ => none

/-- The number below 2⁶⁴, written with digits alone, that a field must be. -/
def requiredWord? : Option Json → Option UInt64
  | some (number (.natural n)) => if n < UInt64.size then some (.ofNat n) else none
  | _ => none

/-- Whether a field is the given name standing for a case without content: as a text, or as the
only member of an object with nothing in it.  `content` says what counts as nothing. -/
def isCase (name : String) (content : Json → Bool) : Option Json → Bool
  | some (string value) => value == some name
  | some (object [(key, value)]) => key == some name && content value
  | _ => false

/-- Whether the value is null. -/
def isNull : Json → Bool
  | null => true
  | _ => false

/-- Whether the value is null or an object without members. -/
def isNullOrEmpty : Json → Bool
  | null | object [] => true
  | _ => false

end Courier.Json
