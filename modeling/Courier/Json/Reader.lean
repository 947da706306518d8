import Courier.Json.Value
import Courier.Text.Hex
import Courier.Text.Utf8

/-!
# Reading JSON

A text is read as one value with blanks around it.  Reading goes over symbols, see
`Courier.Text.symbols`: a gap is accepted inside a string only, and makes it a string that is no
text.  The mutual functions carry a bound on the depth of their calls, computed from the length of
the text.
-/

namespace Courier.Json.Reader

open Courier.Text

/-- A character, or a gap where bytes are damaged. -/
abbrev Symbol := Option Char

/-- The symbols from the first that is not blank. -/
def skip (cs : List Symbol) : List Symbol :=
  cs.dropWhile fun c => c == some ' ' || c == some '\n' || c == some '\t' || c == some '\r'

/-! ### Strings -/

/-- What one symbol or escape contributes to a string. -/
inductive Part where
  /-- A character. -/
  | char (c : Char)
  /-- Half of a character that is written as two escapes. -/
  | half (n : Nat)
  /-- Nothing that is a character. -/
  | gap

/-- The text that the parts make up, if every half has its counterpart. -/
def join? : List Part → Option (List Char)
  | [] => some []
  | .char c :: rest => (join? rest).map (c :: ·)
  | .half high :: .half low :: rest =>
    let n := 0x10000 + (high - 0xd800) * 0x400 + (low - 0xdc00)
    if h : n.isValidChar then
      if high < 0xdc00 ∧ 0xdc00 ≤ low then (join? rest).map (Char.ofNatAux n h :: ·) else none
    else none
  | _ => none

/-- The character after a backslash, apart from numeric escapes. -/
def escaped? : Char → Option Char
  | '"' => some '"'
  | '\\' => some '\\'
  | '/' => some '/'
  | 'b' => some '\x08'
  | 'f' => some '\x0c'
  | 'n' => some '\n'
  | 'r' => some '\r'
  | 't' => some '\t'
  | _ => none

/-- What a numeric escape contributes. -/
def Part.ofCodeUnit (n : Nat) : Part :=
  if h : n.isValidChar then .char (Char.ofNatAux n h) else .half n

/-- The parts of a string after its opening quote, and the rest after the closing one. -/
def parts : List Symbol → Option (List Part × List Symbol)
  | [] => none
  | none :: rest => (parts rest).map fun (ps, tail) => (.gap :: ps, tail)
  | some '"' :: rest => some ([], rest)
  | some '\\' :: some 'u' :: some a :: some b :: some c :: some d :: rest =>
    match hexNumber? [a, b, c, d] with
    | some n => (parts rest).map fun (ps, tail) => (.ofCodeUnit n :: ps, tail)
    | none => none
  | some '\\' :: some e :: rest =>
    match escaped? e with
    | some c => (parts rest).map fun (ps, tail) => (.char c :: ps, tail)
    | none => none
  | some c :: rest =>
    if c == '\\' || c.toNat < 0x20 then none
    else (parts rest).map fun (ps, tail) => (.char c :: ps, tail)

/-- A string after its opening quote. -/
def string (cs : List Symbol) : Option (Option String × List Symbol) :=
  (parts cs).map fun (ps, tail) => ((join? ps).map .ofList, tail)

/-! ### Numbers -/

/-- The digits at the start, and the rest. -/
def digits : List Symbol → List Char × List Symbol
  | some c :: rest =>
    if c.isDigit then
      let (ds, tail) := digits rest
      (c :: ds, tail)
    else ([], some c :: rest)
  | cs => ([], cs)

/-- The number that decimal digits stand for. -/
def decimal (ds : List Char) : Nat :=
  ds.foldl (fun n d => 10 * n + (d.toNat - 48)) 0

/-- The fraction after the whole part of a number; an empty one if there is no point. -/
def fraction (cs : List Symbol) : Option (List Char × List Symbol) :=
  match cs with
  | some '.' :: rest =>
    let (ds, tail) := digits rest
    if ds.isEmpty then none else some (ds, tail)
  | _ => some ([], cs)

/-- The exponent at the end of a number, if it has one. -/
def exponent (cs : List Symbol) : Option (Option Int × List Symbol) :=
  match cs with
  | some e :: rest =>
    if e = 'e' ∨ e = 'E' then
      let (negative, rest) :=
        match rest with
        | some '-' :: rest => (true, rest)
        | some '+' :: rest => (false, rest)
        | _ => (false, rest)
      let (ds, tail) := digits rest
      if ds.isEmpty then none
      else some (some (if negative then -(decimal ds : Int) else decimal ds), tail)
    else some (none, cs)
  | _ => some (none, cs)

/-- A number.  Its whole part has no zero before other digits. -/
def number (cs : List Symbol) : Option (Number × List Symbol) := do
  let (negative, rest) :=
    match cs with
    | some '-' :: rest => (true, rest)
    | _ => (false, cs)
  let (whole, rest) := digits rest
  if whole.isEmpty || whole.head? == some '0' && 1 < whole.length then failure
  let (part, rest) ← fraction rest
  let (power, rest) ← exponent rest
  if !negative && part.isEmpty && power.isNone then
    return (.natural (decimal whole), rest)
  else
    return (.scientific negative (decimal (whole ++ part)) (power.getD 0 - part.length), rest)

/-! ### Values -/

/-- The rest after a given word. -/
def keyword (word : String) (cs : List Symbol) : Option (List Symbol) :=
  let expected := word.toList.map some
  if expected.isPrefixOf cs then some (cs.drop expected.length) else none

mutual

/-- A value that starts at the first symbol. -/
def value : Nat → List Symbol → Option (Json × List Symbol)
  | 0, _ => none
  | depth + 1, cs =>
    match cs with
    | some 'n' :: _ => (keyword "null" cs).map (.null, ·)
    | some 't' :: _ => (keyword "true" cs).map (.bool true, ·)
    | some 'f' :: _ => (keyword "false" cs).map (.bool false, ·)
    | some '"' :: rest => (string rest).map fun (s, tail) => (.string s, tail)
    | some '[' :: rest =>
      match skip rest with
      | some ']' :: tail => some (.array [], tail)
      | rest => (items depth rest).map fun (vs, tail) => (.array vs, tail)
    | some '{' :: rest =>
      match skip rest with
      | some '}' :: tail => some (.object [], tail)
      | rest => (members depth rest).map fun (ms, tail) => (.object ms, tail)
    | _ => (number cs).map fun (n, tail) => (.number n, tail)

/-- The items of a list, of which there is at least one. -/
def items : Nat → List Symbol → Option (List Json × List Symbol)
  | 0, _ => none
  | depth + 1, cs =>
    match value depth cs with
    | none => none
    | some (v, rest) =>
      match skip rest with
      | some ',' :: rest => (items depth (skip rest)).map fun (vs, tail) => (v :: vs, tail)
      | some ']' :: tail => some ([v], tail)
      | _ => none

/-- The members of an object, of which there is at least one. -/
def members : Nat → List Symbol → Option (List (Option String × Json) × List Symbol)
  | 0, _ => none
  | depth + 1, cs =>
    match cs with
    | some '"' :: rest =>
      match string rest with
      | none => none
      | some (name, rest) =>
        match skip rest with
        | some ':' :: rest =>
          match value depth (skip rest) with
          | none => none
          | some (v, rest) =>
            match skip rest with
            | some ',' :: rest =>
              (members depth (skip rest)).map fun (ms, tail) => ((name, v) :: ms, tail)
            | some '}' :: tail => some ([(name, v)], tail)
            | _ => none
        | _ => none
    | _ => none

end

end Courier.Json.Reader

namespace Courier.Json

/-- The value that the symbols spell. -/
def ofSymbols? (cs : List Reader.Symbol) : Option Json :=
  match Reader.value (2 * cs.length + 2) (Reader.skip cs) with
  | some (v, rest) => if (Reader.skip rest).isEmpty then some v else none
  | none => none

/-- The value that a text spells. -/
def ofString? (text : String) : Option Json :=
  ofSymbols? (text.toList.map some)

/-- The value that bytes spell. -/
def ofBytes? (bytes : List UInt8) : Option Json :=
  ofSymbols? (Text.symbols bytes)

end Courier.Json
