import Courier.Rdf.Vocabulary

/-!
# Patches

A token is kept in a pod by a patch that adds one statement to a document.
-/

namespace Courier

/-- The token between the quotes of a patch: backslashes and quotes are escaped. -/
def escapeToken (token : List Char) : List Char :=
  token.flatMap fun c => if c = '\\' ∨ c = '"' then ['\\', c] else [c]

/-- The statement that says which token a person keeps. -/
def tokenStatement (webId predicate : Iri) (token : String) : String :=
  "<" ++ webId.text ++ "> <" ++ predicate.text ++ "> \"" ++ .ofList (escapeToken token.toList) ++
    "\" ."

/-- The patch that adds the statement to a document. -/
def tokenPatch (webId predicate : Iri) (token : String) : String :=
  "_:patch a <" ++ Vocabulary.insertDeletePatch.text ++ ">;\n  <" ++ Vocabulary.inserts.text ++
    "> \x7b\n    " ++ tokenStatement webId predicate token ++ "\n  \x7d .\n"

end Courier
