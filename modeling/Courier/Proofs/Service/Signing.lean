import Courier.Proofs.Service.Delivery
import Courier.Service.Verification
import Mathlib.Logic.Function.Basic

/-!
# What the service signs

Nothing keeps a record of what the service signs, so this is told from what its calls do.  A message
is signed in a call if something that the call does depends on the signature of the message
(`Service.Signs`): what is answered, which requests are made and what they have as their bodies, or
which messages are handed over.

The signature of a message stands at the end of its token and nowhere else.  So a call that issues
no token signs nothing, and one that issues a token signs its message and nothing else: to mail a
link the service signs the token in it, and when a link is followed that is accepted it signs the
token that it hands out and writes (`Service.signs_iff`).
-/

namespace Courier

/-- A call of the service with everything that it depends on. -/
inductive Call where
  /-- A person asks for a link at an address. -/
  | sendLink (mailer : Mailer) (now : UInt64) (actor : Iri) (email : String)
  /-- Somebody follows a link. -/
  | verifyEmail (pods : Fetcher) (reading : Nat) (now : UInt64) (token : Option String)
  /-- Somebody asks at which addresses a person can be reached. -/
  | verifiedEmails (pods : Fetcher) (reading : Nat) (now : UInt64) (webId : Iri)
  /-- Somebody asks whether a person can be reached. -/
  | status (pods : Fetcher) (reading : Nat) (now : UInt64) (webId : Iri)
  /-- Somebody sends a notification. -/
  | notify (pods : Fetcher) (mailer : Mailer) (reading : Nat) (now : UInt64) (sender : Iri)
      (n : Notification)

/-- What a call does: its answer, its requests and its messages. -/
def Call.Outcome : Call → Type
  | .sendLink .. => Activity (Except ServiceError String)
  | .verifyEmail .. => Traced (Except ServiceError Verified)
  | .verifiedEmails .. => Traced (Except ServiceError (OrderedSet String))
  | .status .. => Traced (Except ServiceError Bool)
  | .notify .. => Activity (Except ServiceError Nat)

namespace Service

/-- The service where pods are as given. -/
def facing (s : Service) (pods : Fetcher) : Service :=
  { s with fetcher := pods }

/-- The service with other signatures; which signatures verify is left as it is. -/
def withSign (s : Service) (sign : List UInt8 → List UInt8) : Service :=
  { s with scheme := { s.scheme with sign } }

/-- What the service does in a call. -/
def perform (s : Service) : (call : Call) → call.Outcome
  | .sendLink mailer now actor email => s.sendLink mailer now actor email
  | .verifyEmail pods reading now token => (s.facing pods).verifyEmail reading now token
  | .verifiedEmails pods reading now webId => (s.facing pods).verifiedEmails reading now webId
  | .status pods reading now webId => (s.facing pods).status reading now webId
  | .notify pods mailer reading now sender n => (s.facing pods).notify mailer reading now sender n

/-- Whether the service signs the message in the call: with another signature of this message, and
all others as they are, the call would do something else. -/
def Signs (s : Service) (call : Call) (message : List UInt8) : Prop :=
  ∃ sign : List UInt8 → List UInt8, (∀ other, other ≠ message → sign other = s.scheme.sign other) ∧
    (s.withSign sign).perform call ≠ s.perform call

variable {s : Service} {call : Call} {message : List UInt8}

/-! ### Handing out tokens -/

/-- The token that a person is handed in the end, whether or not it could be written anywhere. -/
def handedToken? : Except ServiceError Verified → Option String
  | .ok verified => some verified.token
  | .error (.noWritableLocation token) => some token
  | .error _ => none

/-- Whoever has shown an address is handed a token for it. -/
lemma handedToken?_finish (s : Service) (reading : Nat) (now : UInt64) (claim : Claim) :
    handedToken? (s.finish reading now claim).value = some (s.keptToken now claim) := by
  change handedToken? (if _ = 0 then _ else _) = _
  split <;> rfl

/-- Whoever follows a link that is accepted is handed a new token to keep. -/
lemma handedToken?_verifyEmail {now : UInt64} {link : Option String} {claim : Claim}
    (h : s.checkLink now link = .ok claim) (reading : Nat) :
    handedToken? (s.verifyEmail reading now link).value = some (s.keptToken now claim) := by
  unfold verifyEmail
  rw [h]
  exact s.handedToken?_finish reading now claim

/-- Nothing is handed out for a link that is not accepted. -/
lemma exists_of_handedToken?_verifyEmail {reading : Nat} {now : UInt64} {link : Option String}
    {token : String} (h : handedToken? (s.verifyEmail reading now link).value = some token) :
    ∃ claim, s.checkLink now link = .ok claim ∧ s.keptToken now claim = token := by
  cases hcheck : s.checkLink now link with
  | ok claim =>
    rw [handedToken?_verifyEmail hcheck, Option.some_inj] at h
    exact ⟨claim, rfl, h⟩
  | error e =>
    unfold verifyEmail at h
    rw [hcheck] at h
    unfold checkLink at hcheck
    split at hcheck
    next =>
      cases hcheck
      cases h
    next =>
      split at hcheck
      next => cases hcheck
      next =>
        cases hcheck
        cases h
      next =>
        cases hcheck
        cases h

/-- Different tokens stand in different links. -/
lemma link_injective (s : Service) : s.link.Injective := by
  intro token token' h
  unfold link at h
  exact (String.append_right_inj _).1 h

/-- Mailing a link hands over one message, which has the link and goes to the address. -/
lemma offers_sendLink (s : Service) (mailer : Mailer) (now : UInt64) (actor : Iri)
    (email : String) :
    ∃ refusal, (s.sendLink mailer now actor email).offers =
      [⟨s.linkMessage email (s.link (s.linkCodec.issue (.unverified actor email) now)),
        refusal⟩] := by
  unfold sendLink
  rw [Activity.offers_bind]
  unfold Activity.send
  split
  · exact ⟨none, rfl⟩
  · exact ⟨_, rfl⟩

/-- Mailing a link hands over the message with the link. -/
lemma exists_mem_offers_sendLink (s : Service) (mailer : Mailer) (now : UInt64) (actor : Iri)
    (email : String) :
    ∃ offer ∈ (s.sendLink mailer now actor email).offers, offer.message =
      s.linkMessage email (s.link (s.linkCodec.issue (.unverified actor email) now)) := by
  obtain ⟨refusal, hoffers⟩ := s.offers_sendLink mailer now actor email
  rw [hoffers]
  exact ⟨_, List.mem_singleton_self _, rfl⟩

/-! ### Which messages are signed -/

/-- A call that does the same whatever the signatures are signs nothing. -/
lemma not_signs_of_perform_eq (h : ∀ sign, (s.withSign sign).perform call = s.perform call) :
    ¬s.Signs call message := by
  rintro ⟨sign, -, hdiffers⟩
  exact hdiffers (h sign)

/-- A call that does something else exactly if the signature of one message is another signs this
message and no other. -/
lemma signs_iff_of_perform_eq_iff {signed : List UInt8}
    (h : ∀ sign, (s.withSign sign).perform call = s.perform call ↔
      sign signed = s.scheme.sign signed) :
    s.Signs call message ↔ message = signed := by
  constructor
  · rintro ⟨sign, hother, hdiffers⟩
    by_contra hne
    exact hdiffers ((h sign).2 (hother signed (Ne.symm hne)))
  · -- A signature that is one byte longer is another one, whatever the scheme.
    rintro rfl
    refine ⟨Function.update s.scheme.sign message (0 :: s.scheme.sign message), ?_, ?_⟩
    · intro other hne
      exact Function.update_of_ne hne _ _
    · rw [Ne, h, Function.update_self]
      exact List.cons_ne_self _ _

/-- Mailing a link does the same exactly if the link has the same token. -/
lemma sendLink_withSign_eq_iff {sign : List UInt8 → List UInt8} {mailer : Mailer} {now : UInt64}
    {actor : Iri} {email : String} :
    (s.withSign sign).sendLink mailer now actor email = s.sendLink mailer now actor email ↔
      (s.withSign sign).linkCodec.issue (.unverified actor email) now =
        s.linkCodec.issue (.unverified actor email) now := by
  constructor
  · -- The token can be told from the message that is handed over.
    intro hsame
    obtain ⟨refusal, hoffers⟩ := s.offers_sendLink mailer now actor email
    obtain ⟨refusal', hoffers'⟩ := (s.withSign sign).offers_sendLink mailer now actor email
    rw [hsame, hoffers] at hoffers'
    have htext := congrArg (fun offer => offer.message.text) (List.singleton_inj.1 hoffers')
    exact s.link_injective ((String.append_right_inj _).1 htext.symm)
  · intro hsame
    unfold sendLink
    rw [hsame]
    rfl

/-- Mailing a link signs the message of the token in it and nothing else. -/
lemma signs_sendLink_iff {mailer : Mailer} {now : UInt64} {actor : Iri} {email : String} :
    s.Signs (.sendLink mailer now actor email) message ↔
      message = s.linkCodec.message (.unverified actor email) now := by
  refine signs_iff_of_perform_eq_iff fun sign => ?_
  have hcodec : (s.withSign sign).linkCodec = s.linkCodec.withSign sign := rfl
  change (s.withSign sign).sendLink mailer now actor email =
    s.sendLink mailer now actor email ↔ _
  rw [sendLink_withSign_eq_iff, hcodec]
  exact TokenCodec.issue_withSign_iff

/-- Signatures yet to be made make no difference to whether a link is accepted. -/
lemma checkLink_withSign (s : Service) (sign : List UInt8 → List UInt8) (now : UInt64)
    (link : Option String) : (s.withSign sign).checkLink now link = s.checkLink now link :=
  rfl

/-- Pods make no difference to whether a link is accepted. -/
lemma checkLink_facing (s : Service) (pods : Fetcher) (now : UInt64) (link : Option String) :
    (s.facing pods).checkLink now link = s.checkLink now link :=
  rfl

/-- The token that is handed out for a claim tells the signature of its message. -/
lemma keptToken_withSign_eq_iff {sign : List UInt8 → List UInt8} {now : UInt64} {claim : Claim} :
    (s.withSign sign).keptToken now claim = s.keptToken now claim ↔
      sign (s.keptCodec.message (.verified claim.webId claim.email) now) =
        s.scheme.sign (s.keptCodec.message (.verified claim.webId claim.email) now) := by
  have hcodec : (s.withSign sign).keptCodec = s.keptCodec.withSign sign := rfl
  unfold keptToken
  rw [hcodec]
  exact TokenCodec.issue_withSign_iff

/-- The token that is handed out for a claim tells what is done to finish. -/
lemma finish_withSign_eq {sign : List UInt8 → List UInt8} {now : UInt64} {claim : Claim}
    (h : (s.withSign sign).keptToken now claim = s.keptToken now claim) (reading : Nat) :
    (s.withSign sign).finish reading now claim = s.finish reading now claim := by
  unfold finish
  rw [h]
  rfl

/-- Following a link that is accepted does the same exactly if it hands out the same token. -/
lemma verifyEmail_withSign_eq_iff {sign : List UInt8 → List UInt8} {now : UInt64}
    {link : Option String} {claim : Claim} (h : s.checkLink now link = .ok claim) (reading : Nat) :
    (s.withSign sign).verifyEmail reading now link = s.verifyEmail reading now link ↔
      (s.withSign sign).keptToken now claim = s.keptToken now claim := by
  have h' : (s.withSign sign).checkLink now link = .ok claim := h
  constructor
  · intro hsame
    have htoken := congrArg (fun t => handedToken? t.value) hsame
    rw [handedToken?_verifyEmail h, handedToken?_verifyEmail h'] at htoken
    exact Option.some_inj.1 htoken
  · intro hsame
    unfold verifyEmail
    rw [h, h']
    exact finish_withSign_eq hsame reading

/-- Following a link that is accepted signs the message of the token that is handed out and nothing
else. -/
lemma signs_verifyEmail_iff {pods : Fetcher} {reading : Nat} {now : UInt64}
    {link : Option String} :
    s.Signs (.verifyEmail pods reading now link) message ↔
      ∃ claim, s.checkLink now link = .ok claim ∧
        message = s.keptCodec.message (.verified claim.webId claim.email) now := by
  have hfacing := s.checkLink_facing pods now link
  cases hcheck : s.checkLink now link with
  | error e =>
    rw [hcheck] at hfacing
    refine iff_of_false (not_signs_of_perform_eq fun sign => ?_) ?_
    · change ((s.facing pods).withSign sign).verifyEmail reading now link =
        (s.facing pods).verifyEmail reading now link
      unfold verifyEmail
      rw [checkLink_withSign, hfacing]
    · rintro ⟨claim, hclaim, -⟩
      cases hclaim
  | ok claim =>
    rw [hcheck] at hfacing
    simp only [Except.ok.injEq, exists_eq_left']
    refine signs_iff_of_perform_eq_iff fun sign => ?_
    change ((s.facing pods).withSign sign).verifyEmail reading now link =
      (s.facing pods).verifyEmail reading now link ↔ _
    rw [verifyEmail_withSign_eq_iff hfacing reading]
    exact keptToken_withSign_eq_iff

/-- The service signs the tokens in the links that it mails, those that it hands out for links that
are accepted, and nothing else. -/
theorem signs_iff : s.Signs call message ↔
    (∃ mailer now actor email, call = .sendLink mailer now actor email ∧
        message = s.linkCodec.message (.unverified actor email) now) ∨
      ∃ pods reading now link claim, call = .verifyEmail pods reading now link ∧
        s.checkLink now link = .ok claim ∧
          message = s.keptCodec.message (.verified claim.webId claim.email) now := by
  cases call with
  | sendLink mailer now actor email => simp [signs_sendLink_iff]
  | verifyEmail pods reading now link => simp [signs_verifyEmail_iff]
  | verifiedEmails | status | notify =>
    refine iff_of_false (not_signs_of_perform_eq fun sign => rfl) ?_
    simp

end Service

end Courier
