import Courier.Rdf.Statement
import Courier.Rdf.Vocabulary
import Courier.Turtle.LanguageTag
import Courier.Turtle.Token

/-!
# Reading statements from tokens

The reader goes through the tokens once, keeping the base and the prefixes declared so far.  Every
triple is noted with the position of the token that settled it: a text, for instance, is settled
by the token after it, which might have been a language or a datatype.  Positions matter for the
order of the document, see `Reader.triples`.

The functions that read objects, lists and property lists call each other; a bound on the depth of
these calls, computed from the number of tokens, makes them total.
-/

namespace Courier.Turtle

/-- The state of reading. -/
structure Reader where
  /-- The tokens still to be read. -/
  tokens : List Token
  /-- How many tokens have been read. -/
  position : Nat := 0
  /-- The identifier against which references are resolved. -/
  base : Iri
  /-- The declared prefixes, the latest first. -/
  prefixes : List (List Char × Iri) := []
  /-- The number of the reading and the document read, which tell anonymous nodes apart. -/
  origin : Nat × Iri
  /-- How many anonymous nodes the document has so far. -/
  nodes : Nat := 0
  /-- The triples so far with the positions that settled them, the latest first. -/
  settled : List (Nat × Triple) := []

/-- A step of reading, which fails where the document breaks the grammar. -/
abbrev Reading := StateT Reader Option

namespace Reading

/-! ### Single tokens -/

/-- The next token, which stays unread. -/
def peek : Reading (Option Token) :=
  return (← get).tokens.head?

/-- Reads one token, whatever it is. -/
def advance : Reading Unit :=
  modify fun r => { r with tokens := r.tokens.tail, position := r.position + 1 }

/-- Reads one token; the document must not end here. -/
def next : Reading Token := do
  match ← peek with
  | none => failure
  | some token =>
    advance
    return token

/-- The position of the next token. -/
def position : Reading Nat :=
  return (← get).position

/-- Reads the given mark. -/
def expect (mark : Mark) : Reading Unit := do
  if (← next) = .mark mark then return else failure

/-- Notes a triple that the token at the position settles. -/
def settle (place : Nat) (subject : Term) (predicate : Iri) (object : Term) : Reading Unit :=
  modify fun r => { r with settled := (place, ⟨subject, predicate, object⟩) :: r.settled }

/-- A node that the document has not used before. -/
def freshNode : Reading Term := do
  let r ← get
  set { r with nodes := r.nodes + 1 }
  return .blank (.anonymous r.origin.1 r.origin.2 r.nodes)

/-! ### Names of resources -/

/-- What a reference means here. -/
def resolve (reference : List Char) : Reading Iri := do
  match (← get).base.resolve? reference with
  | some iri => return iri
  | none => failure

/-- What a name means here. -/
def expand (space localPart : List Char) : Reading Iri := do
  match (← get).prefixes.lookup space with
  | none => failure
  | some iri =>
    match Iri.ofString? (iri.text ++ .ofList localPart) with
    | some iri => return iri
    | none => failure

/-- The resource that a token names. -/
def resource : Token → Reading Iri
  | .reference text => resolve text
  | .name space localPart => expand space localPart
  | _ => failure

/-- The property that a token names. -/
def property : Token → Reading Iri
  | .word ['a'] => return Vocabulary.type
  | token => resource token

/-- Whether a token may name a property. -/
def namesProperty : Token → Bool
  | .reference _ | .name .. | .word ['a'] => true
  | _ => false

/-! ### Statements -/

/-- The datatype of numbers of the kind. -/
def numberType : NumberKind → Iri
  | .integer => Vocabulary.integer
  | .decimal => Vocabulary.decimal
  | .double => Vocabulary.double

/-- A literal that needs no further token. -/
def literal? : Token → Option Literal
  | .number kind text => some (.typed (.ofList text) (numberType kind))
  | .word text =>
    if text = "true".toList ∨ text = "false".toList then
      some (.typed (.ofList text) Vocabulary.boolean)
    else none
  | _ => none

/-- The rest of a literal whose text has been read: its language, its datatype, or nothing. -/
def textObject (subject : Term) (predicate : Iri) (value : String) : Reading Unit := do
  let after ← position
  match ← peek with
  | some (.tag tag) =>
    advance
    match LanguageTag.normalize? tag with
    | some language =>
      settle after subject predicate (.literal ⟨value, some Vocabulary.langString, some language⟩)
    | none => failure
  | some (.mark .datatype) =>
    advance
    let after ← position
    let datatype ← resource (← next)
    settle after subject predicate (.literal (.typed value datatype))
  | _ => settle after subject predicate (.literal (.typed value Vocabulary.string))

mutual

/-- An object and the triple that it completes. -/
def object (subject : Term) (predicate : Iri) : Nat → Reading Unit
  | 0 => failure
  | depth + 1 => do
    let here ← position
    match ← next with
    | .reference text => settle here subject predicate (.iri (← resolve text))
    | .name space localPart => settle here subject predicate (.iri (← expand space localPart))
    | .label text => settle here subject predicate (.blank (.labelled (.ofList text)))
    | .text value => textObject subject predicate (.ofList value)
    | .mark .openBracket =>
      let node ← freshNode
      unless (← peek) = some (.mark .closeBracket) do properties node depth
      let here ← position
      expect .closeBracket
      settle here subject predicate node
    | .mark .openParen =>
      let here ← position
      if (← peek) = some (.mark .closeParen) then
        advance
        settle here subject predicate (.iri Vocabulary.emptyList)
      else
        let node ← freshNode
        settle here subject predicate node
        elements node depth
    | token =>
      match literal? token with
      | some literal => settle here subject predicate (.literal literal)
      | none => failure

/-- The elements of a list from the one at `node` on. -/
def elements (node : Term) : Nat → Reading Unit
  | 0 => failure
  | depth + 1 => do
    object node Vocabulary.listFirst depth
    let here ← position
    if (← peek) = some (.mark .closeParen) then
      advance
      settle here node Vocabulary.listRest (.iri Vocabulary.emptyList)
    else
      let rest ← freshNode
      settle here node Vocabulary.listRest rest
      elements rest depth

/-- The objects of a property, with commas between them. -/
def objects (subject : Term) (predicate : Iri) : Nat → Reading Unit
  | 0 => failure
  | depth + 1 => do
    object subject predicate depth
    if (← peek) = some (.mark .comma) then
      advance
      objects subject predicate depth

/-- The properties of a subject, with semicolons between and after them. -/
def properties (subject : Term) : Nat → Reading Unit
  | 0 => failure
  | depth + 1 => do
    objects subject (← property (← next)) depth
    furtherProperties subject depth

/-- What may follow the objects of a property. -/
def furtherProperties (subject : Term) : Nat → Reading Unit
  | 0 => failure
  | depth + 1 => do
    if (← peek) = some (.mark .semicolon) then
      advance
      match ← peek with
      | some token =>
        if namesProperty token then properties subject depth else furtherProperties subject depth
      | none => failure

end

/-- A subject.  Tells whether it says something by itself, so that properties may be absent. -/
def subject (depth : Nat) : Reading (Term × Bool) := do
  match ← next with
  | .reference text => return (.iri (← resolve text), false)
  | .name space localPart => return (.iri (← expand space localPart), false)
  | .label text => return (.blank (.labelled (.ofList text)), false)
  | .mark .openBracket =>
    let node ← freshNode
    if (← peek) = some (.mark .closeBracket) then
      advance
      return (node, false)
    else
      properties node depth
      expect .closeBracket
      return (node, true)
  | .mark .openParen =>
    if (← peek) = some (.mark .closeParen) then
      advance
      return (.iri Vocabulary.emptyList, false)
    else
      let node ← freshNode
      elements node depth
      return (node, false)
  | _ => failure

/-- A subject with its properties, up to the full stop. -/
def statement (depth : Nat) : Reading Unit := do
  let (node, complete) ← subject depth
  unless complete && (← peek) = some (.mark .stop) do properties node depth
  expect .stop

/-! ### Declarations -/

/-- The rest of the declaration of a prefix. -/
def declarePrefix : Reading Unit := do
  match ← next with
  | .name space [] =>
    match ← next with
    | .reference text =>
      let iri ← resolve text
      modify fun r => { r with prefixes := (space, iri) :: r.prefixes }
    | _ => failure
  | _ => failure

/-- The rest of the declaration of the base. -/
def declareBase : Reading Unit := do
  match ← next with
  | .reference text =>
    let iri ← resolve text
    modify fun r => { r with base := iri }
  | _ => failure

/-- A declaration or a statement. -/
def entry (depth : Nat) : Reading Unit := do
  match ← peek with
  | some (.tag tag) =>
    advance
    if tag = "prefix".toList then declarePrefix
    else if tag = "base".toList then declareBase
    else failure
    expect .stop
  | some (.word word) =>
    let word := word.map Char.toLower
    advance
    if word = "prefix".toList then declarePrefix
    else if word = "base".toList then declareBase
    else failure
  | _ => statement depth

/-- All entries up to the end of the document. -/
def entries (depth : Nat) : Nat → Reading Unit
  | 0 => return
  | count + 1 => do
    if (← peek).isSome then
      entry depth
      entries depth count

end Reading

/-- Triples settled by the same token come in reverse order; apart from that the order is the one
in which the triples were settled. -/
def Reader.triples (r : Reader) : List Triple :=
  ((r.settled.splitBy fun a b => a.1 == b.1).reverse.flatten).map (·.2)

end Courier.Turtle
