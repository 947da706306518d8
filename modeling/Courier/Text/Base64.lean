/-!
# Base 64

Bytes as digits of six bits.  Two alphabets are in use: the one of key files, which pads its last
group, and the one that is safe in links, which does not.  Reading is strict: only the digits that
writing gives are read back, so the bits that the last digit has to spare must be zero.
-/

namespace Courier.Text

/-- The two digits in which alphabets differ; the other sixty-two are letters and decimal digits. -/
structure Base64 where
  /-- The digit of 62. -/
  digit62 : Char
  /-- The digit of 63. -/
  digit63 : Char
  deriving DecidableEq

namespace Base64

/-- The alphabet of key files. -/
def standard : Base64 := ⟨'+', '/'⟩

/-- The alphabet that is safe in links and file names. -/
def linkSafe : Base64 := ⟨'-', '_'⟩

/-- The digit of a number below 64. -/
def digit (base : Base64) (n : Nat) : Char :=
  if n < 26 then .ofNat (n + 65)
  else if n < 52 then .ofNat (n + 71)
  else if n < 62 then .ofNat (n - 4)
  else if n = 62 then base.digit62
  else base.digit63

/-- The number that a digit stands for. -/
def value? (base : Base64) (c : Char) : Option Nat :=
  if c.isUpper then some (c.toNat - 65)
  else if c.isLower then some (c.toNat - 71)
  else if c.isDigit then some (c.toNat + 4)
  else if c = base.digit62 then some 62
  else if c = base.digit63 then some 63
  else none

/-- The digits of the bytes, without padding. -/
def encode (base : Base64) : List UInt8 → List Char
  | [] => []
  | [a] => [base.digit (a.toNat / 4), base.digit (a.toNat % 4 * 16)]
  | [a, b] =>
    [base.digit (a.toNat / 4), base.digit (a.toNat % 4 * 16 + b.toNat / 16),
      base.digit (b.toNat % 16 * 4)]
  | a :: b :: c :: rest =>
    base.digit (a.toNat / 4) :: base.digit (a.toNat % 4 * 16 + b.toNat / 16) ::
      base.digit (b.toNat % 16 * 4 + c.toNat / 64) :: base.digit (c.toNat % 64) ::
        encode base rest

/-- The bytes of a row of numbers below 64, if the spare bits of the last one are zero. -/
def bytes? : List Nat → Option (List UInt8)
  | [] => some []
  | [_] => none
  | [a, b] => if b % 16 = 0 then some [.ofNat (a * 4 + b / 16)] else none
  | [a, b, c] =>
    if c % 4 = 0 then some [.ofNat (a * 4 + b / 16), .ofNat (b % 16 * 16 + c / 4)] else none
  | a :: b :: c :: d :: rest =>
    (bytes? rest).map fun tail =>
      .ofNat (a * 4 + b / 16) :: .ofNat (b % 16 * 16 + c / 4) :: .ofNat (c % 4 * 64 + d) :: tail

/-- The bytes that unpadded digits stand for. -/
def decode? (base : Base64) (digits : List Char) : Option (List UInt8) :=
  (digits.mapM base.value?).bind bytes?

/-- The bytes of digits that one or two `=` fill up to a multiple of four. -/
def decodePadded? (base : Base64) (digits : List Char) : Option (List UInt8) :=
  let kept := (digits.reverse.dropWhile (· == '=')).reverse
  if digits.length % 4 = 0 ∧ digits.length ≤ kept.length + 2 then decode? base kept else none

end Base64

end Courier.Text
