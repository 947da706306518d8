import Courier.Iri.Reference

/-!
# Resource identifiers

An absolute identifier of a resource.  The type holds the text as given; `Iri.isAbsolute` says when
a text is well formed, and `Iri.ofString?` admits only such texts.  A resource is read through its
document, whose identifier has no fragment.
-/

namespace Courier

/-- The identifier of a resource. -/
structure Iri where
  /-- The identifier as it is written. -/
  text : String
  deriving DecidableEq, Hashable, Inhabited

namespace Iri

/-- Whether the text is an absolute identifier: a scheme and well formed components. -/
def isAbsolute (text : String) : Bool :=
  let r := Reference.ofList text.toList
  r.scheme.isSome && r.isWellFormed

/-- The identifier that a text spells, if it is absolute and well formed. -/
def ofString? (text : String) : Option Iri :=
  if isAbsolute text then some ⟨text⟩ else none

/-- Only absolute identifiers are admitted. -/
theorem isAbsolute_of_ofString? {text : String} {i : Iri} (h : ofString? text = some i) :
    isAbsolute i.text = true := by
  unfold ofString? at h
  split at h
  next habsolute =>
    cases h
    exact habsolute
  next => cases h

/-- The document through which the resource is read: the identifier without its fragment. -/
def document (iri : Iri) : Iri :=
  ⟨.ofList (iri.text.toList.takeWhile (· != '#'))⟩

/-- Whether the identifier has a fragment. -/
def hasFragment (iri : Iri) : Bool :=
  iri.text.toList.contains '#'

/-- A document has no fragment. -/
theorem hasFragment_document (iri : Iri) : iri.document.hasFragment = false := by
  have hall := List.all_takeWhile (p := (· != '#')) (l := iri.text.toList)
  unfold hasFragment document
  rw [String.toList_ofList, List.contains_eq_any_beq, List.any_eq_false]
  intro c hc
  have hne := List.all_eq_true.1 hall c hc
  rw [bne_iff_ne] at hne
  rw [beq_iff_eq]
  exact hne.symm

/-- A document is its own document. -/
theorem document_document (iri : Iri) : iri.document.document = iri.document := by
  have htake : ∀ l : List Char, (l.takeWhile (· != '#')).takeWhile (· != '#') =
      l.takeWhile (· != '#') := by
    intro l
    induction l with
    | nil => rfl
    | cons c l ih =>
      rw [List.takeWhile_cons]
      split
      next h => rw [List.takeWhile_cons, if_pos h, ih]
      next => rfl
  unfold document
  rw [String.toList_ofList, htake]

/-- What a reference means in a document whose base is `base`: nothing if the reference is
malformed. -/
def resolve? (base : Iri) (reference : List Char) : Option Iri :=
  let r := Reference.ofList reference
  let resolved := Reference.resolve (.ofList base.text.toList) r
  if reference.head? != some ':' && r.isWellFormed && resolved.isUnambiguous then
    some ⟨.ofList resolved.toList⟩
  else none

end Iri

end Courier
