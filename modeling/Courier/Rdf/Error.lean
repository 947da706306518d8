import Courier.Iri.Basic
import Courier.Text.Quoted

/-!
# Faults of identifiers and documents

Why an identifier or a document is refused.  A fault is described by a summary, which says what was
refused, and a detail, which says why.
-/

namespace Courier

/-- Why data cannot be read. -/
inductive DataError where
  /-- The text is no absolute identifier. -/
  | invalidIri (text : String)
  /-- The body of the document is not what it should be. -/
  | malformed (document : Iri)
  deriving DecidableEq

namespace DataError

/-- What was refused. -/
def summary : DataError → String
  | invalidIri text => "Invalid IRI " ++ Text.quoted text
  | malformed document => "Unable to parse <" ++ document.text ++ "> as Turtle"

/-- Why it was refused. -/
def detail : DataError → String
  | invalidIri _ => "not an absolute identifier"
  | malformed _ => "the text does not follow the grammar"

/-- The whole description. -/
def message (e : DataError) : String :=
  e.summary ++ ": " ++ e.detail

end DataError

/-- The identifier that a text spells, or why it spells none. -/
def Iri.parse (text : String) : Except DataError Iri :=
  match Iri.ofString? text with
  | some iri => .ok iri
  | none => .error (.invalidIri text)

end Courier
