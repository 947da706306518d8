import Courier.Crawl.Run
import Courier.Text.Blank

/-!
# Reports on crawls

What a crawl found, on lines of their own: how it ended, what came of each document, and the terms
found for each variable.
-/

namespace Courier

/-- The anonymous nodes among the terms found. -/
def Bindings.anonymousNodes (b : Bindings) : List BlankNode :=
  b.entries.flatMap fun (_, terms) => terms.toList.filterMap Term.anonymous?

namespace Crawl

/-- The line on a document. -/
def Outcome.line (document : Iri) : Outcome → String
  | loaded n => "loaded\t" ++ document.text ++ "\t" ++ toString n ++ " triples"
  | failed e => "failed\t" ++ document.text ++ "\t" ++ e.message

namespace Resolution

/-- The lines of a report. -/
def lines (r : Resolution) : List String :=
  let shown := OrderedSet.ofList r.bindings.anonymousNodes
  ["status\t" ++ r.status.word, "passes\t" ++ toString r.passes,
      "quads\t" ++ toString r.store.size] ++
    r.outcomes.map (fun (document, outcome) => outcome.line document) ++
    r.bindings.entries.flatMap fun (v, terms) =>
      terms.toList.map fun term => v.display ++ "\t" ++ term.display shown

/-- The report without blanks at its end. -/
def report (r : Resolution) : String :=
  .ofList (Text.trimEnd (String.intercalate "\n" r.lines).toList)

end Resolution

end Crawl

end Courier
