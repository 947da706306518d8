import Courier.Crypto.P256
import Courier.Crypto.Sha256

/-!
# Signatures on the curve P-256

A signature is a pair of numbers that only the holder of a secret number can make for a message.
The one-time number that signing needs is derived from the secret and the message, so a message has
one signature per secret.  The second number of the pair is used as it comes: its negative would
verify as well.
-/

namespace Courier.Crypto.Ecdsa

open P256

/-- A pair of numbers, each below the order of the base point and not zero. -/
structure Signature where
  /-- The first number. -/
  r : Nat
  /-- The second number. -/
  s : Nat
  deriving DecidableEq

namespace Signature

/-- The sixty-four bytes of a signature. -/
def toBytes (signature : Signature) : List UInt8 :=
  Crypto.toBytes 32 signature.r ++ Crypto.toBytes 32 signature.s

/-- The signature of sixty-four bytes, if its numbers are in range. -/
def ofBytes? (bytes : List UInt8) : Option Signature :=
  let r := Crypto.ofBytes (bytes.take 32)
  let s := Crypto.ofBytes (bytes.drop 32)
  if bytes.length = 64 ∧ 0 < r ∧ r < order ∧ 0 < s ∧ s < order then some ⟨r, s⟩ else none

end Signature

/-- The number that stands for a message. -/
def digest (message : List UInt8) : Nat :=
  ofBytes (sha256 message) % order

/-! ### One-time numbers -/

/-- The state from which one-time numbers are drawn. -/
structure Source where
  /-- The key of the next digest. -/
  key : List UInt8
  /-- The value digested next. -/
  value : List UInt8

namespace Source

/-- The source with new content mixed in. -/
def mix (source : Source) (content : List UInt8) : Source :=
  let key := hmac source.key (source.value ++ content)
  ⟨key, hmac key source.value⟩

/-- The source for a secret and a message. -/
def start (secret : Nat) (message : List UInt8) : Source :=
  let content := Crypto.toBytes 32 secret ++ Crypto.toBytes 32 (digest message)
  ((⟨List.replicate 32 0, List.replicate 32 1⟩ : Source).mix (0 :: content)).mix (1 :: content)

/-- The next candidate for a one-time number, and the source after it. -/
def draw (source : Source) : Nat × Source :=
  let value := hmac source.key source.value
  (ofBytes value, (⟨source.key, value⟩ : Source).mix [0])

end Source

/-! ### Signing and verifying -/

/-- The signature that a one-time number gives, unless one of its numbers comes out as zero. -/
def signWith? (secret : Nat) (message : List UInt8) (once : Nat) : Option Signature := do
  if once = 0 ∨ order ≤ once then none
  else
    let (x, _) ← (Point.scale once Point.base).affine?
    let r := x % order
    let s := inverse once order * (digest message + r * secret) % order
    if r = 0 ∨ s = 0 then none else some ⟨r, s⟩

/-- The signature by the first of `tries` candidates that gives one. -/
def signFrom (secret : Nat) (message : List UInt8) : (tries : Nat) → Source → Signature
  | 0, _ => ⟨1, 1⟩
  | tries + 1, source =>
    let (once, source) := source.draw
    match signWith? secret message once with
    | some signature => signature
    | none => signFrom secret message tries source

/-- The signature of a message.  That even a second candidate is needed is all but impossible. -/
def sign (secret : Nat) (message : List UInt8) : Signature :=
  signFrom secret message 64 (.start secret message)

/-- Whether the signature of the message was made with the secret of the public point. -/
def verify (key : Point) (message : List UInt8) (signature : Signature) : Bool :=
  let w := inverse signature.s order
  let u := digest message * w % order
  let v := signature.r * w % order
  match ((Point.scale u Point.base).add (Point.scale v key)).affine? with
  | some (x, _) => x % order == signature.r
  | none => false

/-- The public point of a secret. -/
def publicPoint (secret : Nat) : Point :=
  Point.scale secret Point.base

end Courier.Crypto.Ecdsa
