import Courier.Http.Traced
import Courier.Service.Mail

/-!
# Activities of the service

What the service does when it is asked something: the requests it makes and the messages it hands
over, each in order.  A message that is refused was handed over all the same.
-/

namespace Courier

/-- A message that was handed to a mailer, and why it was refused, if it was. -/
structure Offer where
  /-- The message. -/
  message : Message
  /-- Why it was refused. -/
  refusal : Option String
  deriving DecidableEq

/-- A value and what was done on the way to it. -/
structure Activity (α : Type) where
  /-- What came of the activity. -/
  value : α
  /-- The requests made, in order. -/
  requests : List Request := []
  /-- The messages handed over, in order. -/
  offers : List Offer := []

namespace Activity

variable {α β : Type}

/-- A value that takes nothing to be done. -/
def pure (a : α) : Activity α := { value := a }

/-- One activity and then another that depends on what came of it. -/
def bind (t : Activity α) (f : α → Activity β) : Activity β :=
  let u := f t.value
  { value := u.value, requests := t.requests ++ u.requests, offers := t.offers ++ u.offers }

instance : Monad Activity where
  pure := Activity.pure
  bind := Activity.bind

instance : MonadLift Traced Activity where
  monadLift t := { value := t.value, requests := t.requests }

/-- Handing a message to the mailer. -/
def send (mailer : Mailer) (message : Message) : Activity (Except MailError Unit) :=
  match mailer.refusal? message with
  | none => { value := .ok (), offers := [⟨message, none⟩] }
  | some reason =>
    { value := .error ⟨message.recipient.address, reason⟩, offers := [⟨message, some reason⟩] }

/-- The messages that were accepted. -/
def delivered (t : Activity α) : List Message :=
  (t.offers.filter (·.refusal.isNone)).map Offer.message

end Activity

end Courier
