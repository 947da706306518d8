/-!
# Tokens

The words of a Turtle document.  Escapes are resolved in a token; what a name or a reference means
depends on what the document has declared before it.
-/

namespace Courier.Turtle

/-- The marks that stand between other tokens. -/
inductive Mark where
  /-- A full stop. -/
  | stop
  /-- A comma. -/
  | comma
  /-- A semicolon. -/
  | semicolon
  /-- An opening bracket. -/
  | openBracket
  /-- A closing bracket. -/
  | closeBracket
  /-- An opening parenthesis. -/
  | openParen
  /-- A closing parenthesis. -/
  | closeParen
  /-- The mark between a text and its datatype. -/
  | datatype
  deriving DecidableEq, Repr

/-- The kinds of numbers, told apart by how they are written. -/
inductive NumberKind where
  /-- Digits only. -/
  | integer
  /-- Digits around a point. -/
  | decimal
  /-- A number with an exponent. -/
  | double
  deriving DecidableEq, Repr

/-- A word of a document. -/
inductive Token where
  /-- A reference between angle brackets, its escapes resolved. -/
  | reference (text : List Char)
  /-- A name of two parts with a colon between them. -/
  | name (space localPart : List Char)
  /-- The label of a blank node. -/
  | label (text : List Char)
  /-- A quoted text, its escapes resolved. -/
  | text (value : List Char)
  /-- A word after an at sign. -/
  | tag (text : List Char)
  /-- A number as it is written. -/
  | number (kind : NumberKind) (text : List Char)
  /-- A word without colon. -/
  | word (text : List Char)
  /-- A mark. -/
  | mark (mark : Mark)
  deriving DecidableEq, Repr

end Courier.Turtle
