import Courier.Iri.Basic

/-!
# Requests and responses

What is sent to a server and what comes back.  Names of headers are the same whatever their case;
responses keep them in lower case.
-/

namespace Courier

/-- What a request asks for. -/
inductive Method where
  /-- The whole resource. -/
  | get
  /-- Its headers only. -/
  | head
  /-- A change of it. -/
  | patch
  deriving DecidableEq

/-- The word for a method. -/
def Method.word : Method → String
  | get => "GET"
  | head => "HEAD"
  | patch => "PATCH"

/-- Named values of a request or a response, in order. -/
abbrev Headers := List (String × String)

/-- What is sent to a server. -/
structure Request where
  /-- The resource asked for. -/
  iri : Iri
  /-- What is asked. -/
  method : Method
  /-- Further demands. -/
  headers : Headers := []
  /-- What is sent along, if anything. -/
  body : Option String := none
  deriving DecidableEq

namespace Request

/-- A request for the whole resource. -/
def get (iri : Iri) : Request := { iri, method := .get }

/-- A request for the headers of a resource. -/
def head (iri : Iri) : Request := { iri, method := .head }

/-- A request for a change that the body of the given type describes. -/
def patch (iri : Iri) (type body : String) : Request :=
  { iri, method := .patch, headers := [("content-type", type)], body := some body }

end Request

/-- The text with its ASCII letters in lower case. -/
def lowerCase (text : String) : String :=
  .ofList (text.toList.map Char.toLower)

/-- What comes back from a server. -/
structure Response where
  /-- The number that says how the request went. -/
  status : Nat
  /-- Headers with names in lower case. -/
  headers : Headers
  /-- What was asked for. -/
  body : String

namespace Response

/-- A response whose headers may be named in any case. -/
def make (status : Nat) (headers : Headers) (body : String) : Response :=
  { status, headers := headers.map fun (name, value) => (lowerCase name, value), body }

/-- Whether the request went well. -/
def isSuccess (r : Response) : Bool :=
  200 ≤ r.status && r.status < 300

/-- The first value of the header, whatever the case of its name. -/
def header? (r : Response) (name : String) : Option String :=
  (r.headers.find? fun h => lowerCase h.1 == lowerCase name).map (·.2)

end Response

end Courier
