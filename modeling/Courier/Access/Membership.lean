import Courier.Access.Error
import Courier.Http.Traced
import Courier.Rdf.Pattern
import Courier.Rdf.Vocabulary

/-!
# Membership in groups

A person is a member of a group if the group's own document says so.  Several groups are asked at
once, and the first one to confirm decides.  A group that confirms without delay keeps the groups
after it from being asked.
-/

namespace Courier

/-- The statements that make the person a member of the group. -/
def membershipPattern (person group : Iri) : Pattern where
  subject := .only (.iri group)
  predicate := .only Vocabulary.hasMember
  object := .only (.iri person)

namespace Fetcher

/-- Whether the group's document can be read and says that the person is a member. -/
def isMember (f : Fetcher) (person group : Iri) : Bool :=
  match f.document 0 group with
  | .ok ts => ts.any (membershipPattern person group).matchesTriple
  | .error _ => false

/-- How long the group's document takes. -/
def groupDelay (f : Fetcher) (group : Iri) : Nat :=
  f.delay group.documentRequest

/-- Whether the group confirms without delay. -/
def confirmsAtOnce (f : Fetcher) (person group : Iri) : Bool :=
  f.groupDelay group == 0 && f.isMember person group

/-- The groups that are asked: all up to the first that confirms at once. -/
def askedGroups (f : Fetcher) (person : Iri) (groups : List Iri) : List Iri :=
  let (before, rest) := groups.span (!f.confirmsAtOnce person ·)
  before ++ rest.take 1

/-- Whether the person is a member of some group. -/
def isAnyMember (f : Fetcher) (person : Iri) (groups : List Iri) : Traced Bool :=
  let asked := f.askedGroups person groups
  { value := asked.any (f.isMember person)
    requests := asked.map Iri.documentRequest }

/-- How long it takes to find out whether the person is a member of some group: until the first
group confirms, or until all have answered. -/
def membershipTime (f : Fetcher) (person : Iri) (groups : List Iri) : Nat :=
  let asked := f.askedGroups person groups
  match ((asked.filter (f.isMember person)).map f.groupDelay).min? with
  | some first => first
  | none => (asked.map f.groupDelay).max?.getD 0

/-- Whether the person is admitted where members of the groups are; without groups everybody is. -/
def authorize (f : Fetcher) (person : Iri) (groups : List Iri) : Traced (Except AccessError Unit) :=
  if groups.isEmpty then return .ok ()
  else do
    if ← f.isAnyMember person groups then return .ok ()
    else return .error (.notMember person groups)

end Fetcher

end Courier
