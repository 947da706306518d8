import Courier.Rdf.Error
import Courier.Turtle.Reader
import Courier.Turtle.Scanner

/-!
# Documents

The statements of a document in the language Turtle.  A document is understood completely or not
at all.  Its own identifier is the base of its references, so it must be absolute.
-/

namespace Courier.Turtle

/-- The statements of a text whose base is `base`.  `reading` numbers the reading: anonymous nodes
of different readings differ, even if the document is the same. -/
def triples? (reading : Nat) (base : Iri) (body : String) : Option (List Triple) := do
  let tokens ← Scanner.scanAll body.toList
  let depth := 4 * tokens.length + 4
  let start : Reader := { tokens, base, origin := (reading, base) }
  let (_, finished) ← (Reading.entries depth tokens.length).run start
  return finished.triples

/-- The statements of a document, or why it has none. -/
def read (reading : Nat) (document : Iri) (body : String) : Except DataError (List Triple) :=
  if Iri.isAbsolute document.text then
    match triples? reading document body with
    | some ts => .ok ts
    | none => .error (.malformed document)
  else .error (.invalidIri document.text)

/-- The empty text is a document without statements. -/
theorem read_empty (reading : Nat) {document : Iri} (h : Iri.isAbsolute document.text = true) :
    read reading document "" = .ok [] := by
  have htokens : Scanner.scanAll "".toList = some [] := by
    change Scanner.scanAll [] = _
    rw [Scanner.scanAll]
    rfl
  unfold read triples?
  rw [if_pos h, htokens]
  rfl

end Courier.Turtle
