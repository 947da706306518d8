import Courier.Iri.Basic

/-!
# Vocabulary

The resources that data on pods are described with.
-/

namespace Courier.Vocabulary

/-! ### Core vocabulary -/

/-- The class of a resource. -/
def type : Iri := ⟨"http://www.w3.org/1999/02/22-rdf-syntax-ns#type"⟩

/-- The first element of a list. -/
def listFirst : Iri := ⟨"http://www.w3.org/1999/02/22-rdf-syntax-ns#first"⟩

/-- The list without its first element. -/
def listRest : Iri := ⟨"http://www.w3.org/1999/02/22-rdf-syntax-ns#rest"⟩

/-- The empty list. -/
def emptyList : Iri := ⟨"http://www.w3.org/1999/02/22-rdf-syntax-ns#nil"⟩

/-- The datatype of texts in a language. -/
def langString : Iri := ⟨"http://www.w3.org/1999/02/22-rdf-syntax-ns#langString"⟩

/-- The datatype of texts. -/
def string : Iri := ⟨"http://www.w3.org/2001/XMLSchema#string"⟩

/-- The datatype of truth values. -/
def boolean : Iri := ⟨"http://www.w3.org/2001/XMLSchema#boolean"⟩

/-- The datatype of whole numbers. -/
def integer : Iri := ⟨"http://www.w3.org/2001/XMLSchema#integer"⟩

/-- The datatype of numbers with a point. -/
def decimal : Iri := ⟨"http://www.w3.org/2001/XMLSchema#decimal"⟩

/-- The datatype of numbers with an exponent. -/
def double : Iri := ⟨"http://www.w3.org/2001/XMLSchema#double"⟩

/-! ### People and their pods -/

/-- Another document about the same resource. -/
def seeAlso : Iri := ⟨"http://www.w3.org/2000/01/rdf-schema#seeAlso"⟩

/-- The public index of a person's data by class. -/
def publicTypeIndex : Iri := ⟨"http://www.w3.org/ns/solid/terms#publicTypeIndex"⟩

/-- The class of entries of an index. -/
def typeRegistration : Iri := ⟨"http://www.w3.org/ns/solid/terms#TypeRegistration"⟩

/-- The class of data that an index entry is about. -/
def forClass : Iri := ⟨"http://www.w3.org/ns/solid/terms#forClass"⟩

/-- A document with data of an index entry's class. -/
def classInstance : Iri := ⟨"http://www.w3.org/ns/solid/terms#instance"⟩

/-- The class of patches that insert and delete statements. -/
def insertDeletePatch : Iri := ⟨"http://www.w3.org/ns/solid/terms#InsertDeletePatch"⟩

/-- The statements that a patch inserts. -/
def inserts : Iri := ⟨"http://www.w3.org/ns/solid/terms#inserts"⟩

/-- A person's settings. -/
def preferencesFile : Iri := ⟨"http://www.w3.org/ns/pim/space#preferencesFile"⟩

/-- A member of a group. -/
def hasMember : Iri := ⟨"http://www.w3.org/2006/vcard/ns#hasMember"⟩

end Courier.Vocabulary
