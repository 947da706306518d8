/-!
# Distinguished encoding

Values in key files are nested: each starts with a tag and the length of its content.  Lengths have
one written form only, the shortest.
-/

namespace Courier.Key.Der

/-- A tag and the content that comes with it. -/
structure Element where
  /-- The kind of value. -/
  tag : UInt8
  /-- The content. -/
  content : List UInt8
  deriving DecidableEq

/-- The tag of whole numbers. -/
def integerTag : UInt8 := 0x02

/-- The tag of rows of bits. -/
def bitsTag : UInt8 := 0x03

/-- The tag of rows of bytes. -/
def bytesTag : UInt8 := 0x04

/-- The tag of names of kinds. -/
def objectTag : UInt8 := 0x06

/-- The tag of rows of values. -/
def sequenceTag : UInt8 := 0x30

/-- The length at the start, and the rest. -/
def length? : List UInt8 → Option (Nat × List UInt8)
  | [] => none
  | first :: rest =>
    if first < 0x80 then some (first.toNat, rest)
    else
      let count := first.toNat - 0x80
      let n := (rest.take count).foldl (fun n b => 256 * n + b.toNat) 0
      if count = 0 ∨ 4 < count ∨ rest.length < count ∨ n < 0x80 ∨
          n < Nat.pow 256 (count - 1) then none
      else some (n, rest.drop count)

/-- The value at the start, and the rest. -/
def element? : List UInt8 → Option (Element × List UInt8)
  | [] => none
  | tag :: rest => do
    let (n, rest) ← length? rest
    if rest.length < n then none else some (⟨tag, rest.take n⟩, rest.drop n)

/-- The values that fill the bytes, at most `count` of them. -/
def elements? : (count : Nat) → List UInt8 → Option (List Element)
  | _, [] => some []
  | 0, _ :: _ => none
  | count + 1, bytes => do
    let (e, rest) ← element? bytes
    let es ← elements? count rest
    return e :: es

/-- The values of the only value that the bytes hold, a row. -/
def sequence? (bytes : List UInt8) : Option (List Element) := do
  let (e, rest) ← element? bytes
  if e.tag = sequenceTag ∧ rest.isEmpty then elements? e.content.length e.content else none

end Courier.Key.Der
