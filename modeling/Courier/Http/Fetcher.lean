import Courier.Http.Exchange
import Courier.Turtle.Document

/-!
# Fetching documents

A fetcher answers requests.  It is described by what it answers to a request and by how long it
takes, so that whatever is done with it can be told in full: in which order requests are made, when
they are made and when their answers arrive.  A request may also bring no response at all.
-/

namespace Courier

/-- Why a document could not be obtained. -/
inductive FetchError where
  /-- No response arrived. -/
  | network (iri : Iri) (reason : String)
  /-- The server refused. -/
  | status (iri : Iri) (status : Nat)
  /-- The response took too long. -/
  | timeout (iri : Iri)
  /-- The response is no document that can be read. -/
  | unreadable (cause : DataError)
  /-- The fetcher itself is misconfigured. -/
  | client (reason : String)
  deriving DecidableEq

namespace FetchError

/-- Whether the same request may succeed later. -/
def isTransient : FetchError → Bool
  | network .. | timeout _ => true
  | status _ code => code == 429 || 500 ≤ code
  | unreadable _ | client _ => false

/-- A short word for the kind of failure. -/
def label : FetchError → String
  | network .. => "network"
  | status .. => "status"
  | timeout _ => "timeout"
  | unreadable _ => "parse"
  | client _ => "client"

/-- What happened. -/
def message : FetchError → String
  | network iri reason => "Request to <" ++ iri.text ++ "> failed: " ++ reason
  | status iri code => "Request to <" ++ iri.text ++ "> returned HTTP " ++ toString code
  | timeout iri => "Request to <" ++ iri.text ++ "> timed out"
  | unreadable cause => cause.message
  | client reason => "HTTP client could not be configured: " ++ reason

end FetchError

/-- Something that answers requests. -/
structure Fetcher where
  /-- The answer to a request. -/
  answer : Request → Except FetchError Response
  /-- How many milliseconds the answer takes. -/
  delay : Request → Nat

/-- The type of the documents that are read. -/
def turtleType : String := "text/turtle"

/-- The type of the patches that are sent. -/
def patchType : String := "text/n3"

/-- The request by which the document of a resource is read. -/
def Iri.documentRequest (iri : Iri) : Request :=
  { Request.get iri.document with headers := [("accept", turtleType)] }

namespace Fetcher

/-- The statements of a resource's document, read as the reading of the given number. -/
def document (f : Fetcher) (reading : Nat) (iri : Iri) : Except FetchError (List Triple) := do
  let response ← f.answer iri.documentRequest
  if response.isSuccess then
    (Turtle.read reading iri.document response.body).mapError .unreadable
  else
    throw (.status iri.document response.status)

end Fetcher

end Courier
