import Courier.Collection.OrderedSet
import Courier.Iri.Basic
import Courier.Text.Quoted

/-!
# Terms

What a statement speaks about: a named resource, a literal value, or a blank node.  Literals are
told apart by their value alone; datatype and language are carried along and shown, but two
literals of the same value are the same term.  `Term.identity` is what is left of a term when only
that counts, and `==` compares identities, so it is an equivalence.
-/

namespace Courier

/-- A literal value with the datatype and the language it was given. -/
structure Literal where
  /-- The value as it is written. -/
  value : String
  /-- The datatype, if one is known. -/
  datatype : Option Iri
  /-- The language, if the literal is a text in one. -/
  language : Option String
  deriving DecidableEq

/-- A node without a name of its own. -/
inductive BlankNode where
  /-- A node that its document calls by a label.  The label is all that identifies it. -/
  | labelled (label : String)
  /-- A node without label: the one of that number in one reading of a document. -/
  | anonymous (reading : Nat) (document : Iri) (number : Nat)
  deriving DecidableEq

/-- A value that may stand in a statement. -/
inductive Term where
  /-- A named resource. -/
  | iri (iri : Iri)
  /-- A literal value. -/
  | literal (literal : Literal)
  /-- A blank node. -/
  | blank (node : BlankNode)
  deriving DecidableEq

namespace Literal

/-- A literal of which only the value is known. -/
def plain (value : String) : Literal := ⟨value, none, none⟩

/-- A literal of a datatype. -/
def typed (value : String) (datatype : Iri) : Literal := ⟨value, some datatype, none⟩

/-- A text in a language. -/
def tagged (value language : String) : Literal := ⟨value, none, some language⟩

end Literal

namespace Term

/-- The term without what does not count when terms are compared. -/
def identity : Term → Term
  | literal l => literal (.plain l.value)
  | term => term

/-- Terms are the same if they have the same identity. -/
instance : BEq Term where
  beq a b := decide (a.identity = b.identity)

theorem beq_iff {a b : Term} : (a == b) = true ↔ a.identity = b.identity :=
  decide_eq_true_iff

instance : EquivBEq Term where
  rfl := beq_iff.2 rfl
  symm h := beq_iff.2 (beq_iff.1 h).symm
  trans h₁ h₂ := beq_iff.2 ((beq_iff.1 h₁).trans (beq_iff.1 h₂))

/-- The resource, if the term names one. -/
def iri? : Term → Option Iri
  | iri i => some i
  | _ => none

end Term

/-! ### Display -/

/-- The anonymous nodes that an output shows, each where it came first.  A node's place is the
number that stands for it. -/
abbrev AnonymousNodes := OrderedSet BlankNode

namespace BlankNode

/-- The text that stands for the node: its label, or its number among the anonymous nodes shown. -/
def label (shown : AnonymousNodes) : BlankNode → String
  | labelled l => l
  | node => "[anon" ++ toString (shown.toList.idxOf node) ++ "]"

end BlankNode

namespace Term

/-- The anonymous node that the term is, if it is one. -/
def anonymous? : Term → Option BlankNode
  | blank node@(.anonymous ..) => some node
  | _ => none

/-- The value of the term whatever its kind. -/
def value (shown : AnonymousNodes) : Term → String
  | iri i => i.text
  | literal l => l.value
  | blank node => node.label shown

/-- The term as statements show it: a literal in quotes, with its language but not its datatype. -/
def display (shown : AnonymousNodes) : Term → String
  | iri i => "<" ++ i.text ++ ">"
  | literal l =>
    match l.language with
    | some language => Text.quoted l.value ++ "@" ++ language
    | none => Text.quoted l.value
  | blank node => "_:" ++ node.label shown

end Term

end Courier
