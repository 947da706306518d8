/-!
# Numbers below 2⁶⁴

A number is read from decimal digits, with or without a plus sign.  The first character that does
not fit decides what is wrong: it is no digit, or the number has become too large with it.
-/

namespace Courier.Text

/-- Why a text is no number. -/
inductive WordFault where
  /-- There is nothing to read. -/
  | empty
  /-- A character is no digit. -/
  | noDigit
  /-- The number does not fit. -/
  | tooLarge
  deriving DecidableEq

/-- What is wrong. -/
def WordFault.reason : WordFault → String
  | empty => "cannot parse integer from empty string"
  | noDigit => "invalid digit found in string"
  | tooLarge => "number too large to fit in target type"

/-- The number that `n` becomes with the digits after it. -/
def appendDigits (n : Nat) : List Char → Except WordFault Nat
  | [] => .ok n
  | c :: rest =>
    if !c.isDigit then .error .noDigit
    else
      let n := 10 * n + (c.toNat - '0'.toNat)
      if n < UInt64.size then appendDigits n rest else .error .tooLarge

/-- The number that a text spells, or why it spells none. -/
def readWord (text : String) : Except WordFault UInt64 :=
  match text.toList with
  | [] => .error .empty
  | ['+'] => .error .noDigit
  | '+' :: digits => (appendDigits 0 digits).map .ofNat
  | digits => (appendDigits 0 digits).map .ofNat

end Courier.Text
