import Courier.Query.Plan
import Courier.Rdf.Vocabulary

/-!
# Searching a person's pod

The plan by which a person's pod is searched for data of one class.  Starting from the person it
follows further documents about them, their public index of data, the entries of that index which
are about the class, and their settings.  An entry counts only if an index document itself calls it
one: otherwise anybody could add documents to somebody else's pod.
-/

namespace Courier.SearchPlan

/-- The person whose pod is searched. -/
def person : Variable := ⟨"person"⟩

/-- Further documents about the person. -/
def extendedDocument : Variable := ⟨"extendedDocument"⟩

/-- The person's public indexes. -/
def publicTypeIndex : Variable := ⟨"publicTypeIndex"⟩

/-- The entries of the indexes. -/
def typeRegistration : Variable := ⟨"typeRegistration"⟩

/-- The entries that are about the class. -/
def typeRegistrationForClass : Variable := ⟨"typeRegistrationForClass"⟩

/-- The documents that those entries name. -/
def classDocument : Variable := ⟨"classDocument"⟩

/-- The person's settings. -/
def settings : Variable := ⟨"settings"⟩

/-- The steps of the search for data of the class. -/
def plan (type : Iri) : Plan where
  steps := [
    .lookUp
      { subject := .bound person, predicate := Vocabulary.seeAlso, target := extendedDocument },
    .addResources extendedDocument,
    .lookUp
      { subject := .bound person, predicate := Vocabulary.publicTypeIndex,
        target := publicTypeIndex },
    .addResources publicTypeIndex,
    .lookUp
      { predicate := Vocabulary.type, object := .constant (.iri Vocabulary.typeRegistration),
        graph := some publicTypeIndex, pick := .subject, target := typeRegistration },
    .lookUp
      { subject := .bound typeRegistration, predicate := Vocabulary.forClass,
        object := .constant (.iri type), pick := .subject, target := typeRegistrationForClass },
    .lookUp
      { subject := .bound typeRegistrationForClass, predicate := Vocabulary.classInstance,
        target := classDocument },
    .addResources classDocument,
    .lookUp
      { subject := .bound person, predicate := Vocabulary.preferencesFile, target := settings },
    .addResources settings]

end Courier.SearchPlan
