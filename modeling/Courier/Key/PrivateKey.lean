import Courier.Crypto.Ecdsa
import Courier.Key.Der
import Courier.Key.Pem
import Courier.Token.Codec

/-!
# Private keys

A private key of the curve P-256 is a number below the order of the curve's base point, and not
zero.  Files hold it in one of two forms: bare, or wrapped together with the name of its curve.  A
file may hold the public point as well, which then has to fit.
-/

namespace Courier

open Crypto Key

/-- A private key of the curve P-256. -/
structure PrivateKey where
  /-- The secret number. -/
  secret : Nat
  /-- The number is not zero. -/
  secret_pos : 0 < secret
  /-- The number is below the order of the base point. -/
  secret_lt : secret < P256.order

namespace PrivateKey

/-- The key whose number the bytes stand for. -/
def ofBytes? (bytes : List UInt8) : Option PrivateKey :=
  let n := Crypto.ofBytes bytes
  if h : 0 < n ∧ n < P256.order then some ⟨n, h.1, h.2⟩ else none

/-- The coordinates of the public point. -/
def publicCoordinates (key : PrivateKey) : Nat × Nat :=
  ((Ecdsa.publicPoint key.secret).affine?).getD (0, 0)

/-- The public point in sixty-five bytes. -/
def publicBytes (key : PrivateKey) : List UInt8 :=
  let (x, y) := key.publicCoordinates
  0x04 :: toBytes 32 x ++ toBytes 32 y

/-- The public point in thirty-three bytes: its first coordinate, and whether the second is odd. -/
def shortPublicBytes (key : PrivateKey) : List UInt8 :=
  let (x, y) := key.publicCoordinates
  (if y % 2 = 0 then 0x02 else 0x03) :: toBytes 32 x

/-- The way of signing with the key. -/
def scheme (key : PrivateKey) : SignatureScheme :=
  let point := Ecdsa.publicPoint key.secret
  { sign := fun message => (Ecdsa.sign key.secret message).toBytes
    isSignature := fun bytes => (Ecdsa.Signature.ofBytes? bytes).isSome
    verifies := fun message bytes =>
      match Ecdsa.Signature.ofBytes? bytes with
      | some signature => Ecdsa.verify point message signature
      | none => false }

/-! ### Files -/

/-- The name of keys of elliptic curves. -/
def ellipticCurveName : List UInt8 := [0x2a, 0x86, 0x48, 0xce, 0x3d, 0x02, 0x01]

/-- The name of the curve P-256. -/
def curveName : List UInt8 := [0x2a, 0x86, 0x48, 0xce, 0x3d, 0x03, 0x01, 0x07]

/-- Whether the bytes are the name of something: numbers of which each ends with a small byte and
none starts with an empty one. -/
def isName (bytes : List UInt8) : Bool :=
  match bytes.getLast? with
  | none => false
  | some last =>
    last < 0x80 && bytes.length < 40 && bytes.head? != some 0x80 &&
      (bytes.zip (bytes.drop 1)).all fun (a, b) => 0x80 ≤ a || b != 0x80

/-- Whether the tag is one of optional fields, and the number of the field. -/
def field? (tag : UInt8) : Option Nat :=
  if tag &&& 0xc0 == 0x80 && tag &&& 0x1f != 0x1f then some (tag &&& 0x1f).toNat else none

/-- The optional field of the number, if it is there, and the values after it.  Fields of smaller
numbers are passed over. -/
def optionalField (number : Nat) :
    List Der.Element → Option Der.Element × List Der.Element
  | [] => (none, [])
  | e :: rest =>
    match field? e.tag with
    | none => (none, e :: rest)
    | some n =>
      if number < n then (none, e :: rest)
      else if n = number then (some e, rest)
      else optionalField number rest

/-- The only value that the bytes hold, if it has the tag. -/
def only? (tag : UInt8) (bytes : List UInt8) : Option (List UInt8) :=
  match Der.element? bytes with
  | some (e, []) => if e.tag = tag then some e.content else none
  | _ => none

/-- The bytes of a row of bits, if it fills them. -/
def wholeBits? : List UInt8 → Option (List UInt8)
  | 0 :: bytes => some bytes
  | _ => none

/-- The key that a bare file holds. -/
def ofBare? (bytes : List UInt8) : Option PrivateKey := do
  match ← Der.sequence? bytes with
  | version :: secret :: rest =>
    if version ≠ ⟨Der.integerTag, [1]⟩ ∨ secret.tag ≠ Der.bytesTag then failure
    let (curve, rest) := optionalField 0 rest
    let (point, rest) := optionalField 1 rest
    if !rest.isEmpty then failure
    if let some curve := curve then
      let name ← only? Der.objectTag curve.content
      if curve.tag ≠ 0xa0 ∨ !isName name then failure
    let width := secret.content.length
    if width < 24 ∨ 32 < width then failure
    let key ← ofBytes? secret.content
    match point with
    | none => return key
    | some point =>
      let bits ← only? Der.bitsTag point.content
      let bytes ← wholeBits? bits
      if point.tag = 0xa1 ∧ (bytes = key.publicBytes ∨ bytes = key.shortPublicBytes) then
        return key
      else failure
  | _ => failure

/-- The key that a wrapped file holds. -/
def ofWrapped? (bytes : List UInt8) : Option PrivateKey := do
  match ← Der.sequence? bytes with
  | version :: kind :: content :: rest =>
    if version.tag ≠ Der.integerTag ∨ kind.tag ≠ Der.sequenceTag ∨ content.tag ≠ Der.bytesTag then
      failure
    let kind ← Der.elements? kind.content.length kind.content
    if kind ≠ [⟨Der.objectTag, ellipticCurveName⟩, ⟨Der.objectTag, curveName⟩] then failure
    let (point, rest) := optionalField 1 rest
    if version.content ≠ [if point.isSome then 1 else 0] then failure
    if let some point := point then
      if point.tag ≠ 0x81 ∨ (wholeBits? point.content).isNone then failure
    let isExtension (e : Der.Element) : Bool :=
      (field? e.tag).isSome && e.tag &&& 0x20 != 0 &&
        match Der.element? e.content with
        | some (_, []) => true
        | _ => false
    if rest.all isExtension then ofBare? content.content else failure
  | _ => failure

/-- The key that the text of a file holds. -/
def ofText (text : String) : Except TokenError PrivateKey :=
  match ((Pem.decode? "PRIVATE KEY" text).bind ofWrapped?).orElse fun _ =>
      (Pem.decode? "EC PRIVATE KEY" text).bind ofBare? with
  | some key => .ok key
  | none => .error .key

end PrivateKey

namespace TokenCodec

/-- Making and checking tokens with the key in the text of a file. -/
def ofKeyText (text issuer : String) : Except TokenError TokenCodec :=
  (PrivateKey.ofText text).map fun key => { scheme := key.scheme, issuer }

end TokenCodec

end Courier
