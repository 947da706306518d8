import Courier.Json.Reader
import Courier.Json.Record
import Courier.Json.Writer
import Courier.Service.Status

/-!
# Notifications

What one person writes to another, and how it is delivered.  A notification is an activity: its
actor has created a note for its target.  The note is mailed to each address at which the target
can be reached.
-/

namespace Courier

/-- Somebody who takes part in a notification. -/
structure Person where
  /-- Who it is. -/
  id : Iri
  /-- The name to show, if one was given. -/
  name : Option String := none
  deriving DecidableEq

/-- The name to show; an empty one counts as none. -/
def Person.displayName? (p : Person) : Option String :=
  p.name.filter (!·.isEmpty)

/-- What somebody writes. -/
structure Note where
  /-- What the note is called. -/
  id : String
  /-- What it says. -/
  content : String
  deriving DecidableEq

/-- That somebody wrote something to somebody. -/
structure Notification where
  /-- The vocabulary of the notification. -/
  context : String := "https://www.w3.org/ns/activitystreams"
  /-- What the notification is called, if anything. -/
  id : Option String := none
  /-- Who wrote. -/
  actor : Person
  /-- What was written. -/
  note : Note
  /-- To whom it was written. -/
  target : Person
  deriving DecidableEq

/-! ### Written notifications -/

/-- A member for a text, if there is one. -/
def Json.optionalMember (name : String) (value : Option String) : List (String × Json) :=
  (value.map fun text => (name, Json.text text)).toList

namespace Person

/-- The written form of a person. -/
def toJson (p : Person) : Json :=
  .record <|
    [("type", .text "Person"), ("id", .text p.id.text)] ++ Json.optionalMember "name" p.name

/-- The person that a record describes. -/
def ofJson? (record : Json) : Option Person :=
  match Json.fields? ["type", "id", "name"] 1 record with
  | some [type, id, name] => do
    let id ← (Json.requiredText? id).bind Iri.ofString?
    let name ← Json.optionalText? name
    if Json.isCase "Person" Json.isNull type then return { id, name } else none
  | _ => none

end Person

namespace Note

/-- The written form of a note. -/
def toJson (n : Note) : Json :=
  .record [("type", .text "Note"), ("id", .text n.id), ("content", .text n.content)]

/-- The note that a record describes. -/
def ofJson? (record : Json) : Option Note :=
  match Json.fields? ["type", "id", "content"] 0 record with
  | some [type, id, content] => do
    let id ← Json.requiredText? id
    let content ← Json.requiredText? content
    if Json.isCase "Note" Json.isNull type then return { id, content } else none
  | _ => none

end Note

namespace Notification

/-- The written form of a notification. -/
def toJson (n : Notification) : Json :=
  .record <|
    [("@context", .text n.context)] ++ Json.optionalMember "id" n.id ++
      [("type", .text "Create"), ("actor", n.actor.toJson), ("object", n.note.toJson),
        ("target", n.target.toJson)]

/-- The notification that a record describes. -/
def ofJson? (record : Json) : Option Notification :=
  match Json.fields? ["@context", "id", "type", "actor", "object", "target"] 0 record with
  | some [context, id, type, some actor, some note, some target] => do
    let context ← Json.requiredText? context
    let id ← Json.optionalText? id
    let actor ← Person.ofJson? actor
    let note ← Note.ofJson? note
    let target ← Person.ofJson? target
    if Json.isCase "Create" Json.isNull type then return { context, id, actor, note, target }
    else none
  | _ => none

end Notification

/-! ### Delivery -/

namespace Service

/-- The message that passes a notification on to an address. -/
def relay (s : Service) (n : Notification) (email : String) : Message where
  sender :=
    { name :=
        match n.actor.displayName? with
        | some name => name ++ " (via " ++ s.config.appName ++ ")"
        | none => s.config.appName ++ " notifications"
      address := s.config.emailSender }
  recipient := ⟨(n.target.displayName?).getD "", email⟩
  subject := n.actor.displayName?.getD "Someone" ++ " wrote you from " ++ s.config.appName
  text := n.note.content
  template := .message

/-- Hands over the messages one after the other, up to the first that is refused. -/
def deliver (mailer : Mailer) : List Message → Activity (Except MailError Unit)
  | [] => return .ok ()
  | m :: rest => do
    match ← Activity.send mailer m with
    | .error e => return .error e
    | .ok () => deliver mailer rest

/-- Passes a notification on for its sender.  Tells to how many addresses it went. -/
def notify (s : Service) (mailer : Mailer) (reading : Nat) (now : UInt64) (sender : Iri)
    (n : Notification) : Activity (Except ServiceError Nat) := do
  if sender ≠ n.actor.id then return .error .forbidden
  else
    match ← s.verifiedEmails reading now n.target.id with
    | .error e => return .error e
    | .ok emails =>
      if emails.isEmpty then return .error (.noEmail n.target.id)
      else
        match ← deliver mailer (emails.toList.map (s.relay n)) with
        | .error e => return .error (.mail e)
        | .ok () => return .ok emails.size

end Service

end Courier
