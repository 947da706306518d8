/-!
# JSON values

A value of the data format JSON.  Objects keep all their members in order, repeated names included,
because whether a repetition matters depends on what is read from the object.  A string may fail to
be a text: its bytes may be damaged, or an escape may give half of a character.  That too matters
only where the string is used.
-/

namespace Courier

/-- A number as it is written. -/
inductive Json.Number where
  /-- Digits alone. -/
  | natural (n : Nat)
  /-- A number with sign, fraction or exponent: `digits` times ten to the `exponent`. -/
  | scientific (negative : Bool) (digits : Nat) (exponent : Int)
  deriving DecidableEq

/-- A value; a string that is no text is `none`. -/
inductive Json where
  /-- The absence of a value. -/
  | null
  /-- A truth value. -/
  | bool (value : Bool)
  /-- A number. -/
  | number (value : Json.Number)
  /-- A string. -/
  | string (value : Option String)
  /-- A list of values. -/
  | array (items : List Json)
  /-- Named values. -/
  | object (members : List (Option String × Json))
  deriving Inhabited

namespace Json

/-- A text. -/
def text (value : String) : Json :=
  string (some value)

/-- A whole number. -/
def word (n : UInt64) : Json :=
  number (.natural n.toNat)

/-- An object with the given names. -/
def record (members : List (String × Json)) : Json :=
  object (members.map fun (name, value) => (some name, value))

/-! ### Values that can be kept -/

/-- The first number that is too large for a double to come close to. -/
def Number.bound : Nat := Nat.pow 2 1024 - Nat.pow 2 970

/-- Whether a double comes close to the number. -/
def Number.isFinite : Number → Bool
  | natural n => n < bound
  | scientific _ digits exponent =>
    match exponent with
    | .ofNat e => digits == 0 || e ≤ 308 && digits * Nat.pow 10 e < bound
    | .negSucc e => digits < bound || digits.log2 ≤ e || digits < bound * Nat.pow 10 (e + 1)

mutual

/-- Whether the value can be kept as it is: every string is a text, every number is finite, and
lists and objects are nested at most `depth` deep. -/
def isKeepable (depth : Nat) : Json → Bool
  | null | bool _ => true
  | number n => n.isFinite
  | string value => value.isSome
  | array items =>
    match depth with
    | 0 => false
    | depth + 1 => itemsKeepable depth items
  | object members =>
    match depth with
    | 0 => false
    | depth + 1 => membersKeepable depth members

/-- Whether all items of a list can be kept. -/
def itemsKeepable (depth : Nat) : List Json → Bool
  | [] => true
  | item :: rest => isKeepable depth item && itemsKeepable depth rest

/-- Whether all members of an object can be kept. -/
def membersKeepable (depth : Nat) : List (Option String × Json) → Bool
  | [] => true
  | (name, value) :: rest =>
    name.isSome && isKeepable depth value && membersKeepable depth rest

end

/-- How deep kept values may be nested. -/
def maxDepth : Nat := 127

end Json

end Courier
