import Courier.Http.Fetcher
import Courier.Text.Utf8

/-!
# Clients

What a client sends along with every request.  A client can only be set up if all of it can be
written in a request: names of headers are tokens, and values hold no controls but the tab.
-/

namespace Courier

/-- What a client sends along with every request, and how long it waits. -/
structure Client where
  /-- The secret that identifies the client, if it is not anonymous. -/
  bearer : Option String := none
  /-- How many milliseconds the client waits for a response. -/
  timeout : Nat := 30000
  /-- Further headers. -/
  headers : Headers := []

namespace Client

/-- The characters of a header's name. -/
def isTokenChar (c : Char) : Bool :=
  c.isAlphanum || "!#$%&'*+-.^_\x60|~".toList.contains c

/-- Whether a header may have the name. -/
def isHeaderName (name : String) : Bool :=
  !name.isEmpty && name.toList.all isTokenChar && name.length < 65536

/-- Whether a header may have the value. -/
def isHeaderValue (value : String) : Bool :=
  (Text.utf8 value).all fun byte => byte == 0x09 || 0x20 ≤ byte && byte != 0x7f

/-- The client, or why it cannot be set up. -/
def check (c : Client) : Except FetchError Client :=
  if !(c.bearer.all isHeaderValue) then .error (.client "the secret cannot be sent")
  else if !(c.headers.all fun h => isHeaderName h.1 && isHeaderValue h.2) then
    .error (.client "a header cannot be sent")
  else .ok c

end Client

end Courier
