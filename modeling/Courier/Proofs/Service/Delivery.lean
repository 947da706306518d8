import Courier.Proofs.Collection.OrderedSet
import Courier.Proofs.Token.Codec
import Courier.Service.Notification

/-!
# Whom the service writes to

An address at which a person can be reached comes from a token in the person's pod that is accepted
and shows this very address for this very person.  A notification goes to such addresses only.
-/

namespace Courier

/-- Activities that follow each other hand over their messages one after the other. -/
lemma Activity.offers_bind {α β : Type} (t : Activity α) (f : α → Activity β) :
    (t >>= f).offers = t.offers ++ (f t.value).offers :=
  rfl

/-- Activities that follow each other make their requests one after the other. -/
lemma Activity.requests_bind {α β : Type} (t : Activity α) (f : α → Activity β) :
    (t >>= f).requests = t.requests ++ (f t.value).requests :=
  rfl

/-- What comes of activities that follow each other is what comes of the last one. -/
lemma Activity.value_bind {α β : Type} (t : Activity α) (f : α → Activity β) :
    (t >>= f).value = (f t.value).value :=
  rfl

namespace TokenCodec

variable {codec : TokenCodec} {now : UInt64} {webId : Iri} {token email : String}

/-- Whether the token is accepted and says that the person has shown the address. -/
def Shows (codec : TokenCodec) (now : UInt64) (webId : Iri) (token email : String) : Prop :=
  ∃ g, codec.verify token now = .ok g ∧ g.claim = .verified webId email

/-- The address that a token is taken to show is the one that it shows. -/
lemma verifiedEmail?_eq_some_iff :
    codec.verifiedEmail? now webId token = some email ↔ codec.Shows now webId token email := by
  unfold verifiedEmail? Shows
  cases hverify : codec.verify token now with
  | error e =>
    constructor
    · intro h
      cases h
    · rintro ⟨g, hg, -⟩
      cases hg
  | ok g =>
    dsimp only
    constructor
    · intro h
      split_ifs at h with hclaim
      obtain ⟨hverified, hperson⟩ := hclaim
      cases h
      refine ⟨g, rfl, ?_⟩
      unfold Claim.verified
      rw [← hverified, ← hperson]
    · rintro ⟨g', hg, hclaim⟩
      obtain rfl : g = g' := Except.ok.inj hg
      rw [hclaim]
      exact if_pos ⟨rfl, rfl⟩

/-- The addresses that tokens show are those that one of them shows. -/
lemma mem_verifiedEmails_iff {tokens : List String} :
    email ∈ (codec.verifiedEmails now webId tokens).toList ↔
      ∃ token ∈ tokens, codec.Shows now webId token email := by
  unfold verifiedEmails
  rw [← OrderedSet.mem_toSet_iff_mem_toList, OrderedSet.mem_toSet_ofList]
  simp only [List.mem_filterMap, verifiedEmail?_eq_some_iff]
  constructor
  · rintro ⟨found, hfound, heq⟩
    obtain rfl : found = email := eq_of_beq heq
    exact hfound
  · intro h
    exact ⟨email, h, BEq.rfl⟩

end TokenCodec

namespace Service

/-- What comes of looking for the addresses of a person: those that the tokens show, unless there is
no token and the search was not finished. -/
lemma value_verifiedEmails (s : Service) (reading : Nat) (now : UInt64) (webId : Iri) :
    (s.verifiedEmails reading now webId).value =
      if (s.keptTokens webId (s.resolve reading webId).value).isEmpty &&
          !(s.resolve reading webId).value.isConverged then
        .error (.incomplete webId (s.resolve reading webId).value.status)
      else
        .ok (s.keptCodec.verifiedEmails now webId
          (s.keptTokens webId (s.resolve reading webId).value)) := by
  change Except.map _ (if _ then _ else _ : Traced _).value = _
  split_ifs
  · rfl
  · rfl

/-- An address at which a person can be reached is shown by a token that the person keeps. -/
theorem exists_of_mem_verifiedEmails {s : Service} {reading : Nat} {now : UInt64} {webId : Iri}
    {emails : OrderedSet String} (h : (s.verifiedEmails reading now webId).value = .ok emails)
    {email : String} (hemail : email ∈ emails.toList) :
    ∃ token ∈ s.keptTokens webId (s.resolve reading webId).value,
      ∃ g, s.keptCodec.read token = .ok g ∧ g.claim = .verified webId email := by
  rw [value_verifiedEmails] at h
  split_ifs at h
  cases h
  obtain ⟨token, htoken, g, hverify, hclaim⟩ := TokenCodec.mem_verifiedEmails_iff.1 hemail
  exact ⟨token, htoken, g, TokenCodec.read_of_verify hverify, hclaim⟩

/-- A token that a person keeps and that holds shows the address that it was read to claim, however
the search for it ended. -/
theorem exists_mem_verifiedEmails {s : Service} {reading : Nat} {now : UInt64} {webId : Iri}
    {token : String} (htoken : token ∈ s.keptTokens webId (s.resolve reading webId).value)
    {g : Grant} (hread : s.keptCodec.read token = .ok g) (hnow : g.isExpired now = false)
    {email : String} (hclaim : g.claim = .verified webId email) :
    ∃ emails, (s.verifiedEmails reading now webId).value = .ok emails ∧
      email ∈ emails.toList := by
  have hfound : (s.keptTokens webId (s.resolve reading webId).value).isEmpty = false :=
    List.isEmpty_eq_false_iff.2 (List.ne_nil_of_mem htoken)
  have hshown : s.keptCodec.Shows now webId token email :=
    ⟨g, TokenCodec.verify_of_read hread hnow, hclaim⟩
  refine ⟨_, ?_, TokenCodec.mem_verifiedEmails_iff.2 ⟨token, htoken, hshown⟩⟩
  rw [value_verifiedEmails, hfound, Bool.false_and]
  rfl

/-- Sending a message hands over this message and no other. -/
lemma message_of_mem_offers_send {mailer : Mailer} {message : Message} {offer : Offer}
    (h : offer ∈ (Activity.send mailer message).offers) : offer.message = message := by
  unfold Activity.send at h
  split at h
  all_goals
    rw [List.mem_singleton] at h
    rw [h]

/-- Only the messages to be delivered are handed over. -/
lemma message_mem_of_mem_offers_deliver {mailer : Mailer} {messages : List Message}
    {offer : Offer} (h : offer ∈ (deliver mailer messages).offers) : offer.message ∈ messages := by
  induction messages with
  | nil => cases h
  | cons message rest ih =>
    rw [deliver, Activity.offers_bind] at h
    rcases List.mem_append.1 h with h | h
    · rw [message_of_mem_offers_send h]
      exact List.mem_cons_self ..
    · split at h
      · cases h
      · exact List.mem_cons_of_mem _ (ih h)

/-- Messages that are accepted are handed over one after the other, and those after them as if they
came first. -/
lemma deliver_append {mailer : Mailer} {accepted : List Message}
    (haccepted : ∀ m ∈ accepted, mailer.refusal? m = none) (rest : List Message) :
    deliver mailer (accepted ++ rest) =
      { deliver mailer rest with
        offers := (accepted.map fun m => ⟨m, none⟩) ++ (deliver mailer rest).offers } := by
  induction accepted with
  | nil => rfl
  | cons message accepted ih =>
    obtain ⟨hmessage, hothers⟩ := List.forall_mem_cons.1 haccepted
    have hsend : Activity.send mailer message =
        { value := .ok (), offers := [⟨message, none⟩] } := by
      unfold Activity.send
      rw [hmessage]
    rw [List.cons_append, deliver, hsend]
    change Activity.bind _ (fun _ => deliver mailer (accepted ++ rest)) = _
    rw [ih hothers]
    rfl

/-- A message that is refused is the last one that is handed over. -/
lemma deliver_cons_of_refused {mailer : Mailer} {message : Message} {reason : String}
    (hrefused : mailer.refusal? message = some reason) (rest : List Message) :
    deliver mailer (message :: rest) =
      { value := .error ⟨message.recipient.address, reason⟩
        offers := [⟨message, some reason⟩] } := by
  have hsend : Activity.send mailer message =
      { value := .error ⟨message.recipient.address, reason⟩
        offers := [⟨message, some reason⟩] } := by
    unfold Activity.send
    rw [hrefused]
  rw [deliver, hsend]
  rfl

/-- If no message is refused, all are handed over, one after the other. -/
lemma deliver_of_accepts {mailer : Mailer} {messages : List Message}
    (hmessages : ∀ m ∈ messages, mailer.refusal? m = none) :
    deliver mailer messages = { value := .ok (), offers := messages.map fun m => ⟨m, none⟩ } := by
  have hall := deliver_append hmessages []
  rw [List.append_nil] at hall
  rw [hall]
  change Activity.mk _ [] (_ ++ []) = _
  rw [List.append_nil]
  rfl

/-- Handing over messages takes no request. -/
lemma requests_deliver (mailer : Mailer) (messages : List Message) :
    (deliver mailer messages).requests = [] := by
  induction messages with
  | nil => rfl
  | cons message rest ih =>
    cases hrefusal : mailer.refusal? message with
    | some reason => rw [deliver_cons_of_refused hrefusal]
    | none =>
      have haccepted : ∀ m ∈ [message], mailer.refusal? m = none := by
        intro m hm
        rw [List.mem_singleton.1 hm]
        exact hrefusal
      rw [← List.singleton_append, deliver_append haccepted]
      exact ih

/-- A notification is refused to everybody but its actor. -/
lemma value_notify_of_ne {s : Service} {reading : Nat} {now : UInt64} {sender : Iri}
    {n : Notification} (h : sender ≠ n.actor.id) (mailer : Mailer) :
    (s.notify mailer reading now sender n).value = .error .forbidden := by
  unfold notify
  rw [if_pos h]
  rfl

/-- What comes of a notification that its actor sends. -/
lemma value_notify (s : Service) (mailer : Mailer) (reading : Nat) (now : UInt64)
    (n : Notification) :
    (s.notify mailer reading now n.actor.id n).value =
      match (s.verifiedEmails reading now n.target.id).value with
      | .error e => .error e
      | .ok emails =>
        if emails.isEmpty then .error (.noEmail n.target.id)
        else
          match (deliver mailer (emails.toList.map (s.relay n))).value with
          | .error e => .error (.mail e)
          | .ok () => .ok emails.size := by
  unfold notify
  rw [if_neg (not_not.2 rfl), Activity.value_bind]
  change (match (s.verifiedEmails reading now n.target.id).value with
    | .error e => _
    | .ok emails => _ : Activity (Except ServiceError Nat)).value = _
  cases (s.verifiedEmails reading now n.target.id).value with
  | error e => rfl
  | ok emails =>
    dsimp only
    split_ifs
    · rfl
    · rw [Activity.value_bind]
      cases (deliver mailer (emails.toList.map (s.relay n))).value with
      | error e => rfl
      | ok done => rfl

/-- The messages that are handed over for a notification that its actor sends. -/
lemma offers_notify (s : Service) (mailer : Mailer) (reading : Nat) (now : UInt64)
    (n : Notification) :
    (s.notify mailer reading now n.actor.id n).offers =
      match (s.verifiedEmails reading now n.target.id).value with
      | .error _ => []
      | .ok emails => (deliver mailer (emails.toList.map (s.relay n))).offers := by
  unfold notify
  rw [if_neg (not_not.2 rfl), Activity.offers_bind]
  -- Looking for the addresses hands over no message.
  change [] ++ (match (s.verifiedEmails reading now n.target.id).value with
    | .error e => _
    | .ok emails => _ : Activity (Except ServiceError Nat)).offers = _
  rw [List.nil_append]
  cases (s.verifiedEmails reading now n.target.id).value with
  | error e => rfl
  | ok emails =>
    dsimp only
    split_ifs with hempty
    · rw [List.isEmpty_iff.1 hempty]
      rfl
    · rw [Activity.offers_bind]
      cases (deliver mailer (emails.toList.map (s.relay n))).value with
      | error e => exact List.append_nil _
      | ok done => exact List.append_nil _

/-- The requests made for a notification that its actor sends are those of looking for the
addresses. -/
lemma requests_notify (s : Service) (mailer : Mailer) (reading : Nat) (now : UInt64)
    (n : Notification) :
    (s.notify mailer reading now n.actor.id n).requests =
      (s.verifiedEmails reading now n.target.id).requests := by
  unfold notify
  rw [if_neg (not_not.2 rfl), Activity.requests_bind]
  change (s.verifiedEmails reading now n.target.id).requests ++
    (match (s.verifiedEmails reading now n.target.id).value with
      | .error e => _
      | .ok emails => _ : Activity (Except ServiceError Nat)).requests = _
  cases (s.verifiedEmails reading now n.target.id).value with
  | error e => exact List.append_nil _
  | ok emails =>
    dsimp only
    split_ifs
    · exact List.append_nil _
    · rw [Activity.requests_bind, requests_deliver]
      cases (deliver mailer (emails.toList.map (s.relay n))).value with
      | error e => exact List.append_nil _
      | ok done => exact List.append_nil _

/-- A notification is passed on for its actor only, and only to addresses at which its target can be
reached. -/
theorem exists_of_mem_offers_notify {s : Service} {mailer : Mailer} {reading : Nat} {now : UInt64}
    {sender : Iri} {n : Notification} {offer : Offer}
    (h : offer ∈ (s.notify mailer reading now sender n).offers) :
    sender = n.actor.id ∧
      ∃ emails, (s.verifiedEmails reading now n.target.id).value = .ok emails ∧
        offer.message.recipient.address ∈ emails.toList := by
  unfold notify at h
  split_ifs at h with hsender
  · cases h
  · refine ⟨not_not.1 hsender, ?_⟩
    rw [Activity.offers_bind] at h
    -- Looking for the addresses hands over no message.
    change offer ∈ [] ++ _ at h
    rw [List.nil_append] at h
    split at h
    next => cases h
    next emails hemails =>
      refine ⟨emails, hemails, ?_⟩
      split_ifs at h with hempty
      · cases h
      · rw [Activity.offers_bind] at h
        rcases List.mem_append.1 h with h | h
        · obtain ⟨email, hemail, hmessage⟩ :=
            List.mem_map.1 (message_mem_of_mem_offers_deliver h)
          rw [← hmessage]
          exact hemail
        · split at h <;> cases h

end Service

end Courier
