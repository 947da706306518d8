import Courier.Http.Fetcher

/-!
# Webs held in memory

A web gives each of its pages a response or makes it unreachable, and may make it slow.  Pages are
told apart by the exact text of their identifiers.  Patches are answered with a status of their own
and change nothing.
-/

namespace Courier

/-- What happens to requests for a page. -/
inductive Page where
  /-- The page answers. -/
  | resource (status : Nat) (headers : Headers) (body : String) (patchStatus : Nat)
  /-- No request gets through. -/
  | unreachable

/-- Pages and how slow they are, the latest settings first. -/
structure Web where
  /-- What happens to requests. -/
  pages : List (String × Page) := []
  /-- How many milliseconds answers take. -/
  delays : List (String × Nat) := []
  deriving Inhabited

namespace Web

/-- The web in which the page is as given. -/
def put (w : Web) (iri : String) (page : Page) : Web :=
  { w with pages := (iri, page) :: w.pages }

/-- The web in which the page is a document with the given body. -/
def putDocument (w : Web) (iri body : String) : Web :=
  w.put iri (.resource 200 [("content-type", turtleType)] body 405)

/-- The web in which the page, if there is one that answers, is changed. -/
def change (w : Web) (iri : String) (f : Nat → Headers → String → Nat → Page) : Web :=
  match w.pages.lookup iri with
  | some (.resource status headers body patchStatus) =>
    w.put iri (f status headers body patchStatus)
  | _ => w

/-- The web in which the page has one more header. -/
def addHeader (w : Web) (iri name value : String) : Web :=
  w.change iri fun status headers body patchStatus =>
    .resource status (headers ++ [(name, value)]) body patchStatus

/-- The web in which the page answers patches with the given status. -/
def setPatchStatus (w : Web) (iri : String) (patchStatus : Nat) : Web :=
  w.change iri fun status headers body _ => .resource status headers body patchStatus

/-- The web in which the page takes the given number of milliseconds to answer. -/
def setDelay (w : Web) (iri : String) (milliseconds : Nat) : Web :=
  { w with delays := (iri, milliseconds) :: w.delays }

/-- The answer to a request. -/
def answer (w : Web) (r : Request) : Except FetchError Response :=
  match w.pages.lookup r.iri.text with
  | none => .ok (.make 404 [] "")
  | some .unreachable => .error (.network r.iri "connection refused")
  | some (.resource status headers body patchStatus) =>
    match r.method with
    | .get => .ok (.make status headers body)
    | .head => .ok (.make status headers "")
    | .patch => .ok (.make patchStatus [] "")

/-- The web as something that answers requests. -/
def fetcher (w : Web) : Fetcher where
  answer := w.answer
  delay r := (w.delays.lookup r.iri.text).getD 0

end Web

end Courier
