/-!
# Mail

Messages to people, and what becomes of them.  Delivering a message is up to a mailer, which may
refuse it.
-/

namespace Courier

/-- An address and the name that is shown for it. -/
structure Mailbox where
  /-- The name, which may be empty. -/
  name : String
  /-- The address. -/
  address : String
  deriving DecidableEq

/-- The mailbox in the header of a message. -/
def Mailbox.display (m : Mailbox) : String :=
  if m.name.isEmpty then "<" ++ m.address ++ ">"
  else "\"" ++ m.name ++ "\" <" ++ m.address ++ ">"

/-- Why a message is sent. -/
inductive Template where
  /-- It asks whether the address is right. -/
  | verification
  /-- It passes on what somebody wrote. -/
  | message
  deriving DecidableEq

/-- A message to one address. -/
structure Message where
  /-- Who sends the message. -/
  sender : Mailbox
  /-- Who gets the message. -/
  recipient : Mailbox
  /-- What the message is about. -/
  subject : String
  /-- What the message says. -/
  text : String
  /-- Why the message is sent. -/
  template : Template
  deriving DecidableEq

/-- Something that delivers messages. -/
structure Mailer where
  /-- Why the message is refused, if it is. -/
  refusal? : Message → Option String

/-- That a message was refused. -/
structure MailError where
  /-- The address of the recipient. -/
  recipient : String
  /-- Why the message was refused. -/
  reason : String
  deriving DecidableEq

/-- What happened. -/
def MailError.message (e : MailError) : String :=
  "Could not send email to " ++ e.recipient ++ ": " ++ e.reason

end Courier
