import Courier.Text.Hex
import Courier.Turtle.Name
import Courier.Turtle.Token

/-!
# Cutting a document into tokens

A document is cut into tokens from the left.  Where a token ends depends on its own characters and
the one or two after them, never on the tokens before it.  Each scanner takes the characters from
its token's start and gives the token and the rest, or nothing if no such token starts there.
-/

namespace Courier.Turtle.Scanner

open Courier.Text

/-! ### Blanks and comments -/

/-- The characters that may stand between tokens. -/
def isSpace (c : Char) : Bool :=
  c == ' ' || c == '\t' || c == '\n' || c == '\r'

/-- The characters from the next token on; `comment` says whether they start inside a comment. -/
def skip (comment : Bool) : List Char → List Char
  | [] => []
  | c :: cs =>
    if comment then skip (!(c == '\n' || c == '\r')) cs
    else if isSpace c then skip false cs
    else if c == '#' then skip true cs
    else c :: cs

/-! ### Escapes -/

/-- The character that a numeric escape after its backslash stands for, and the rest. -/
def numericEscape : List Char → Option (Char × List Char)
  | 'u' :: a :: b :: c :: d :: rest => (hexCodePoint? [a, b, c, d]).map (·, rest)
  | 'U' :: a :: b :: c :: d :: e :: f :: g :: h :: rest =>
    (hexCodePoint? [a, b, c, d, e, f, g, h]).map (·, rest)
  | _ => none

/-- The character that an escape in a text stands for, and the rest. -/
def textEscape : List Char → Option (Char × List Char)
  | 't' :: rest => some ('\t', rest)
  | 'b' :: rest => some ('\x08', rest)
  | 'n' :: rest => some ('\n', rest)
  | 'r' :: rest => some ('\r', rest)
  | 'f' :: rest => some ('\x0c', rest)
  | '"' :: rest => some ('"', rest)
  | '\'' :: rest => some ('\'', rest)
  | '\\' :: rest => some ('\\', rest)
  | cs => numericEscape cs

/-- The characters that a backslash in a local name lets through. -/
def isEscapable (c : Char) : Bool :=
  "_~.-!$&'()*+,;=/?#@%".toList.contains c

/-! ### References, texts and numbers -/

/-- Characters up to `stop`, with escapes resolved, and the rest after `stop`. -/
def delimited (escape : List Char → Option (Char × List Char)) (stop : List Char)
    (allowed : Char → Bool) (cs : List Char) : Option (List Char × List Char) :=
  if stop.isPrefixOf cs then some ([], cs.drop stop.length)
  else
    match cs with
    | [] => none
    | '\\' :: rest =>
      match escape rest with
      | none => none
      | some (c, after) =>
        if _h : after.length < rest.length then
          (delimited escape stop allowed after).map fun (value, tail) => (c :: value, tail)
        else none
    | c :: rest =>
      if allowed c then
        (delimited escape stop allowed rest).map fun (value, tail) => (c :: value, tail)
      else none
termination_by cs.length
decreasing_by all_goals (simp only [List.length_cons]; omega)

/-- A reference after its opening bracket. -/
def scanReference (cs : List Char) : Option (Token × List Char) :=
  (delimited numericEscape ['>'] (fun _ => true) cs).map fun (value, rest) =>
    (.reference value, rest)

/-- A text after its first quote.  Three quotes open a text that may go over lines. -/
def scanText (quote : Char) (cs : List Char) : Option (Token × List Char) :=
  (match cs with
    | a :: b :: rest =>
      if a = quote ∧ b = quote then
        delimited textEscape [quote, quote, quote] (fun _ => true) rest
      else delimited textEscape [quote] (fun c => c != '\n' && c != '\r') cs
    | _ => delimited textEscape [quote] (fun c => c != '\n' && c != '\r') cs).map
    fun (value, rest) => (.text value, rest)

/-- The sign at the start, if there is one, and the rest. -/
def sign (cs : List Char) : List Char × List Char :=
  match cs with
  | c :: rest => if c = '+' ∨ c = '-' then ([c], rest) else ([], cs)
  | [] => ([], [])

/-- A number.  A point counts only if digits or an exponent follow it. -/
def scanNumber (cs : List Char) : Option (Token × List Char) :=
  let (sign₁, rest) := sign cs
  let (whole, rest) := rest.span Char.isDigit
  let (fraction, afterFraction) :=
    match rest with
    | '.' :: tail =>
      let (digits, tail) := tail.span Char.isDigit
      ('.' :: digits, tail)
    | _ => ([], rest)
  let hasDigits := !whole.isEmpty || 1 < fraction.length
  match afterFraction with
  | e :: tail =>
    if e = 'e' ∨ e = 'E' then
      let (sign₂, tail) := sign tail
      let (digits, tail) := tail.span Char.isDigit
      if hasDigits && !digits.isEmpty then
        some (.number .double (sign₁ ++ whole ++ fraction ++ e :: sign₂ ++ digits), tail)
      else none
    else plain sign₁ whole rest fraction afterFraction
  | [] => plain sign₁ whole rest fraction afterFraction
where
  /-- A number without exponent. -/
  plain (sign₁ whole rest fraction afterFraction : List Char) : Option (Token × List Char) :=
    if 1 < fraction.length then some (.number .decimal (sign₁ ++ whole ++ fraction), afterFraction)
    else if whole.isEmpty then none
    else some (.number .integer (sign₁ ++ whole), rest)

/-! ### Names -/

/-- The points at the end, and how many there are. -/
def dropPoints (cs : List Char) : List Char × Nat :=
  let kept := (cs.reverse.dropWhile (· == '.')).reverse
  (kept, cs.length - kept.length)

/-- A local name after its colon: its characters with escapes resolved, and the rest.  `first` says
whether the next character would be the first one, `points` counts the points just passed, which
belong to the name only if more of it follows. -/
def localName (first : Bool) (points : Nat) (cs : List Char) : Option (List Char × List Char) :=
  let here := some ([], List.replicate points '.' ++ cs)
  let passed := List.replicate points '.'
  match cs with
  | '%' :: a :: b :: rest =>
    if isHexDigit a && isHexDigit b then
      (localName false 0 rest).map fun (name, tail) => (passed ++ '%' :: a :: b :: name, tail)
    else none
  | '\\' :: a :: rest =>
    if isEscapable a then
      (localName false 0 rest).map fun (name, tail) => (passed ++ a :: name, tail)
    else none
  | c :: rest =>
    if c == '%' || c == '\\' then none
    else if isLabelStart c || c == ':' || !first && isNameChar c then
      (localName false 0 rest).map fun (name, tail) => (passed ++ c :: name, tail)
    else if !first && c == '.' then localName false (points + 1) rest
    else here
  | [] => here

/-- A word, or a name if a colon ends the word. -/
def scanName (cs : List Char) : Option (Token × List Char) :=
  let (head, rest) := cs.span fun c => isNameChar c || c == '.'
  let startsWell := match head with | [] => true | c :: _ => isNameStart c
  if !startsWell then none
  else
    match rest with
    | ':' :: rest =>
      if head.getLast? = some '.' then none
      else (localName true 0 rest).map fun (name, tail) => (.name head name, tail)
    | _ =>
      let (word, points) := dropPoints head
      if word.isEmpty then none else some (.word word, List.replicate points '.' ++ rest)

/-- The label of a blank node after its first character; a point belongs to it only if more of it
follows at once. -/
def labelTail : List Char → List Char × List Char
  | '.' :: c :: rest =>
    if isNameChar c then
      let (label, tail) := labelTail rest
      ('.' :: c :: label, tail)
    else ([], '.' :: c :: rest)
  | c :: rest =>
    if isNameChar c then
      let (label, tail) := labelTail rest
      (c :: label, tail)
    else ([], c :: rest)
  | [] => ([], [])

/-- The label of a blank node after `_:`. -/
def scanLabel : List Char → Option (Token × List Char)
  | c :: rest =>
    if isLabelStart c then
      let (label, tail) := labelTail rest
      some (.label (c :: label), tail)
    else none
  | [] => none

/-- The subtags after the first one of a tag. -/
def tagTail (cs : List Char) : List Char × List Char :=
  match cs with
  | '-' :: rest =>
    let subtag := rest.takeWhile Char.isAlphanum
    if subtag.isEmpty then ([], cs)
    else
      let (tag, tail) := tagTail (rest.dropWhile Char.isAlphanum)
      ('-' :: subtag ++ tag, tail)
  | _ => ([], cs)
termination_by cs.length
decreasing_by
  have := (List.dropWhile_suffix (l := rest) Char.isAlphanum).length_le
  simp only [List.length_cons]
  omega

/-- A tag after its at sign. -/
def scanTag (cs : List Char) : Option (Token × List Char) :=
  let (first, rest) := cs.span Char.isAlpha
  if first.isEmpty then none
  else
    let (tag, tail) := tagTail rest
    some (.tag (first ++ tag), tail)

/-! ### All tokens -/

/-- The token at the start of the characters, and the rest. -/
def scan : List Char → Option (Token × List Char)
  | [] => none
  | c :: rest =>
    match c with
    | '<' => scanReference rest
    | '"' => scanText '"' rest
    | '\'' => scanText '\'' rest
    | '@' => scanTag rest
    | ',' => some (.mark .comma, rest)
    | ';' => some (.mark .semicolon, rest)
    | '[' => some (.mark .openBracket, rest)
    | ']' => some (.mark .closeBracket, rest)
    | '(' => some (.mark .openParen, rest)
    | ')' => some (.mark .closeParen, rest)
    | '^' =>
      match rest with
      | '^' :: rest => some (.mark .datatype, rest)
      | _ => none
    | '.' =>
      match rest with
      | d :: _ => if d.isDigit then scanNumber (c :: rest) else some (.mark .stop, rest)
      | [] => some (.mark .stop, rest)
    | '_' =>
      match rest with
      | ':' :: rest => scanLabel rest
      | _ => none
    | _ =>
      if c == '+' || c == '-' || c.isDigit then scanNumber (c :: rest) else scanName (c :: rest)

/-- The tokens of a document, or nothing if some part of it is no token. -/
def scanAll (cs : List Char) : Option (List Token) :=
  match skip false cs with
  | [] => some []
  | start =>
    match scan start with
    | none => none
    | some (token, rest) =>
      if _h : rest.length < cs.length then (scanAll rest).map (token :: ·) else none
termination_by cs.length

end Courier.Turtle.Scanner
