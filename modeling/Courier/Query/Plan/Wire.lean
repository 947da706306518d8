import Courier.Json.Reader
import Courier.Json.Record
import Courier.Json.Writer
import Courier.Query.Plan

/-!
# Plans as text

A plan is saved as a list of records.  A text that starts with a question mark stands for a
variable, any other for a named resource; a slot that admits anything is left out.  Literals and
blank nodes have no written form, so a plan that holds one cannot be saved.
-/

namespace Courier

/-- Why a plan cannot be saved or loaded. -/
inductive PlanError where
  /-- The constant is no named resource. -/
  | unwritable (constant : Term)
  /-- The text describes no plan. -/
  | unreadable

/-- What was refused. -/
def PlanError.message (shown : AnonymousNodes) : PlanError → String
  | unwritable constant =>
    "Serialization error: constant " ++ constant.display shown ++
      " is not an IRI and cannot be written to a plan"
  | unreadable => "Serialization error: the text describes no plan"

/-! ### Saving -/

/-- The written form of a slot; nothing for one that is left out. -/
def Slot.toJson : Slot → Except PlanError (Option Json)
  | anything => .ok none
  | constant (.iri i) => .ok (some (.text i.text))
  | constant term => .error (.unwritable term)
  | bound v => .ok (some (.text v.display))

/-- The word for a side. -/
def Side.word : Side → String
  | subject => "subject"
  | object => "object"

/-- A member of a record, if there is a value for it. -/
def Json.member (name : String) (value : Option Json) : List (String × Json) :=
  (value.map (name, ·)).toList

/-- The written form of a step. -/
def Step.toJson : Step → Except PlanError Json
  | addResources v =>
    .ok (.record [("type", .text "add resources"), ("variable", .text v.display)])
  | lookUp m => do
    let subject ← m.subject.toJson
    let object ← m.object.toJson
    return .record <|
      [("type", .text "match")] ++ Json.member "subject" subject ++
        [("predicate", .text m.predicate.text)] ++ Json.member "object" object ++
        Json.member "graph" (m.graph.map (.text ·.display)) ++
        [("pick", .text m.pick.word), ("target", .text m.target.display)]

namespace Plan

/-- The written form of a plan. -/
def toJson (plan : Plan) : Except PlanError Json :=
  (plan.steps.mapM Step.toJson).map .array

/-- The saved text of a plan. -/
def save (plan : Plan) : Except PlanError String :=
  plan.toJson.map Json.pretty

end Plan

/-! ### Loading -/

namespace Plan

/-- The variable that a field must name. -/
def requiredVariable? (field : Option Json) : Option Variable :=
  (Json.requiredText? field).bind fun text => (Variable.parse text).toOption

/-- The variable that a field may name. -/
def optionalVariable? (field : Option Json) : Option (Option Variable) :=
  match field with
  | none | some .null => some none
  | field => (requiredVariable? field).map some

/-- The slot that a field describes. -/
def slot? (field : Option Json) : Option Slot :=
  (Json.optionalText? field).bind fun
    | none => some .anything
    | some text =>
      match text.toList with
      | '?' :: _ => (Variable.parse text).toOption.map .bound
      | _ => (Iri.ofString? text).map (.constant <| .iri ·)

/-- The side that a field names. -/
def side? (field : Option Json) : Option Side :=
  if Json.isCase "subject" Json.isNullOrEmpty field then some .subject
  else if Json.isCase "object" Json.isNullOrEmpty field then some .object
  else none

/-- The match that a record describes. -/
def match? (record : Json) : Option Match :=
  match Json.fields? ["subject", "predicate", "object", "graph", "pick", "target"] 0 record with
  | some [subject, predicate, object, graph, pick, target] => do
    let subject ← slot? subject
    let predicate ← (Json.requiredText? predicate).bind Iri.ofString?
    let object ← slot? object
    let graph ← optionalVariable? graph
    let pick ← side? pick
    let target ← requiredVariable? target
    return { subject, predicate, object, graph, pick, target }
  | _ => none

/-- The kind that a record names, and the record without it. -/
def kind? : Json → Option (String × Json)
  | .array (.string (some kind) :: rest) => some (kind, .array rest)
  | .object members =>
    match Json.fields? ["type"] 0 (.object members) with
    | some [some (.string (some kind))] =>
      some (kind, .object (members.filter (·.1 != some "type")))
    | _ => none
  | _ => none

/-- The step that a record describes. -/
def step? (record : Json) : Option Step :=
  match kind? record with
  | some ("match", rest) => (match? rest).map .lookUp
  | some ("add resources", rest) =>
    match Json.fields? ["variable"] 0 rest with
    | some [field] => (requiredVariable? field).map .addResources
    | _ => none
  | _ => none

/-- The plan that a value describes. -/
def ofJson? (value : Json) : Option Plan :=
  match value with
  | .array records =>
    if value.isKeepable Json.maxDepth then (records.mapM step?).map (⟨·⟩) else none
  | _ => none

/-- The plan that a text describes. -/
def load (text : String) : Except PlanError Plan :=
  match (Json.ofString? text).bind ofJson? with
  | some plan => .ok plan
  | none => .error .unreadable

end Plan

end Courier
