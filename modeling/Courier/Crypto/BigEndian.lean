/-!
# Numbers as bytes

A number as a row of bytes whose first byte weighs most.
-/

namespace Courier.Crypto

/-- The number that the bytes stand for. -/
def ofBytes (bytes : List UInt8) : Nat :=
  bytes.foldl (fun n b => 256 * n + b.toNat) 0

/-- The last `width` bytes of a number. -/
def toBytes : (width : Nat) → (n : Nat) → List UInt8
  | 0, _ => []
  | width + 1, n => toBytes width (n / 256) ++ [.ofNat n]

end Courier.Crypto
