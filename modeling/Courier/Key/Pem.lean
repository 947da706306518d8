import Courier.Text.Base64

/-!
# Key files

A key file shows bytes as lines of text between two boundary lines which name what is inside.  All
lines are full, apart from the last.  Text before the first boundary is passed over; nothing may
follow the second one but the end of its line.
-/

namespace Courier.Key.Pem

/-- The characters of a full line. -/
def lineWidth : Nat := 64

/-- The rest after the given start. -/
def after? (start cs : List Char) : Option (List Char) :=
  if start.isPrefixOf cs then some (cs.drop start.length) else none

/-- The rest after the end of a line. -/
def afterLineEnd? : List Char → Option (List Char)
  | '\r' :: '\n' :: rest => some rest
  | '\r' :: rest => some rest
  | '\n' :: rest => some rest
  | _ => none

/-- What stands before the end of the last line. -/
def beforeLineEnd? (cs : List Char) : Option (List Char) :=
  match cs.reverse with
  | '\n' :: '\r' :: rest => some rest.reverse
  | '\n' :: rest => some rest.reverse
  | '\r' :: rest => some rest.reverse
  | _ => none

/-- What stands before the given end. -/
def before? (ending cs : List Char) : Option (List Char) :=
  (after? ending.reverse cs.reverse).map List.reverse

/-- The file from the line on that starts with the given mark. -/
def fromLine? (mark : List Char) (cs : List Char) : Option (List Char) :=
  if mark.isPrefixOf cs then some cs else search cs
where
  /-- The search beyond the first line. -/
  search : List Char → Option (List Char)
    | [] => none
    | c :: rest =>
      if c == '\x00' then none
      else if c == '\n' && mark.isPrefixOf rest then some rest
      else search rest

/-- The characters of the lines: full ones, and a last one that may be shorter. -/
def unwrap? (cs : List Char) : Option (List Char) :=
  match cs.drop lineWidth with
  | [] => some cs
  | rest =>
    match afterLineEnd? rest with
    | none => none
    | some rest =>
      if _h : rest.length < cs.length then (unwrap? rest).map (cs.take lineWidth ++ ·) else none
termination_by cs.length

/-- The bytes of a file of the given label. -/
def decode? (label text : String) : Option (List UInt8) := do
  let opening := "-----BEGIN ".toList
  let cs ← fromLine? opening text.toList
  let cs ← after? (opening ++ label.toList ++ "-----".toList) cs
  let cs ← afterLineEnd? cs
  let cs := (beforeLineEnd? cs).getD cs
  let cs ← before? ("-----END ".toList ++ label.toList ++ "-----".toList) cs
  let cs ← beforeLineEnd? cs
  let digits ← unwrap? cs
  if digits.isEmpty then none else Text.Base64.standard.decodePadded? digits

end Courier.Key.Pem
