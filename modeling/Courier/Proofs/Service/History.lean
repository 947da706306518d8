import Courier.Http.Web
import Courier.Proofs.Service.Signing
import Mathlib.Data.List.Induction

/-!
# Histories of the service

The service keeps nothing itself, so a history of it is a row of calls.  Whoever makes them chooses
everything that they depend on, in particular the pods that the service reads and the tokens that it
is shown.  Only signatures are beyond them: in a history without forgeries, `Service.IsUnforged`, a
token whose signature verifies shows that the service has signed the very message before.  The
tokens that the service itself mails or hands out are no forgeries.

What keeps strangers' addresses out of such a history is one invariant of everything signed,
`Service.IsBacked`: whatever the service signs for a person and an address, it has mailed a link for
that person to that address.  Links are signed when they are mailed.  A token to be kept is signed
only for a link that was followed, hence for something signed before.
-/

namespace Courier

namespace Service

/-- The tokens that a call has the service check. -/
def presented (s : Service) : Call → List String
  | .sendLink .. => []
  | .verifyEmail _ _ _ token => ((token.map Text.trim).filter (!·.isEmpty)).toList
  | .verifiedEmails pods reading _ webId | .status pods reading _ webId =>
    s.keptTokens webId ((s.facing pods).resolve reading webId).value
  | .notify pods _ reading _ sender n =>
    if sender = n.actor.id then
      s.keptTokens n.target.id ((s.facing pods).resolve reading n.target.id).value
    else []

/-- Whether a token that shows that a message was signed does so because it was, in one of the
calls. -/
def IsGenuine (s : Service) (calls : List Call) (token : String) : Prop :=
  ∀ message, s.scheme.Authenticates token message → ∃ call ∈ calls, s.Signs call message

/-- Whether no token is forged that the service checks in the course of the calls. -/
def IsUnforged (s : Service) (calls : List Call) : Prop :=
  ∀ before call after, calls = before ++ call :: after →
    ∀ token ∈ s.presented call, s.IsGenuine before token

/-- Whether a call shows that the person can be reached at the address: by saying so, or by writing
to the address what is meant for the person. -/
def Shows (s : Service) (webId : Iri) (email : String) : Call → Prop
  | .verifiedEmails pods reading now person =>
    person = webId ∧ ∃ emails, ((s.facing pods).verifiedEmails reading now person).value =
      .ok emails ∧ email ∈ emails.toList
  | .notify pods mailer reading now sender n =>
    n.target.id = webId ∧ ∃ offer ∈ ((s.facing pods).notify mailer reading now sender n).offers,
      offer.message.recipient.address = email
  | .sendLink .. | .verifyEmail .. | .status .. => False

/-- Whether the service has mailed a link for every person and address that it has signed anything
for. -/
def IsBacked (s : Service) (calls : List Call) : Prop :=
  ∀ call ∈ calls, ∀ message, s.Signs call message →
    ∃ (codec : TokenCodec) (claim : Claim) (signedAt : UInt64),
      message = codec.message claim signedAt ∧
        ∃ mailer now, Call.sendLink mailer now claim.webId claim.email ∈ calls

/-- Whether the text is a link to the service with the token: the address of the service, without
the slashes at its end, the path of links and the token. -/
def IsLinkWith (s : Service) (token link : String) : Prop :=
  ∃ base slashes, s.config.baseUrl = base ++ slashes ∧ (∀ c ∈ slashes.toList, c = '/') ∧
    base.toList.getLast? ≠ some '/' ∧ link = base ++ "/verify-email?token=" ++ token

variable {s : Service} {calls : List Call}

/-! ### What is read from genuine tokens -/

/-- For whatever a genuine token says, a link was mailed. -/
lemma IsBacked.exists_sendLink (h : s.IsBacked calls) {token : String}
    (htoken : s.IsGenuine calls token) {codec : TokenCodec} (hcodec : codec.scheme = s.scheme)
    {g : Grant} (hread : codec.read token = .ok g) :
    ∃ mailer now, Call.sendLink mailer now g.claim.webId g.claim.email ∈ calls := by
  obtain ⟨message, hauthenticates, hgrant⟩ := TokenCodec.exists_authenticates_of_read hread
  rw [hcodec] at hauthenticates
  obtain ⟨call, hcall, hsigned⟩ := htoken message hauthenticates
  obtain ⟨codec', claim, signedAt, hmessage, mailer, now, hmem⟩ := h call hcall message hsigned
  rw [hgrant codec' claim signedAt hmessage]
  exact ⟨mailer, now, hmem⟩

/-- A link that is accepted has a token that can be read. -/
lemma exists_of_checkLink {now : UInt64} {token : Option String} {claim : Claim}
    (h : s.checkLink now token = .ok claim) :
    ∃ text ∈ ((token.map Text.trim).filter (!·.isEmpty)).toList,
      ∃ g, s.linkCodec.read text = .ok g ∧ g.claim = claim := by
  unfold checkLink at h
  split at h
  next => cases h
  next text htext =>
    rw [htext]
    split at h
    next g hverify =>
      cases h
      exact ⟨text, by simp, g, TokenCodec.read_of_verify hverify, rfl⟩
    next => cases h
    next => cases h

/-- The token of a link, if it can be read and has no blanks, is the text that is checked. -/
lemma filter_map_trim_of_read {token : String} (hblank : ∀ c ∈ token.toList, Text.isBlank c = false)
    {codec : TokenCodec} {g : Grant} (hread : codec.read token = .ok g) :
    ((some token).map Text.trim).filter (!·.isEmpty) = some token := by
  have hne : token.isEmpty = false := by
    cases hempty : token.isEmpty with
    | false => rfl
    | true =>
      obtain rfl : token = "" := String.isEmpty_iff.1 hempty
      cases hread
  rw [Option.map_some, Text.trim_eq_self hblank, Option.filter_some, hne]
  rfl

/-- A link whose token can be read and holds is accepted. -/
lemma checkLink_of_read {token : String} (hblank : ∀ c ∈ token.toList, Text.isBlank c = false)
    {now : UInt64} {g : Grant} (hread : s.linkCodec.read token = .ok g)
    (hnow : g.isExpired now = false) : s.checkLink now (some token) = .ok g.claim := by
  unfold checkLink
  rw [filter_map_trim_of_read hblank hread]
  simp only [TokenCodec.verify_of_read hread hnow]

/-- A call that shows an address checks a token that says so. -/
lemma Shows.exists_token {webId : Iri} {email : String} {call : Call}
    (h : s.Shows webId email call) :
    ∃ token ∈ s.presented call, ∃ g, s.keptCodec.read token = .ok g ∧
      g.claim = .verified webId email := by
  cases call with
  | sendLink | verifyEmail | status => exact h.elim
  | verifiedEmails pods reading now person =>
    obtain ⟨rfl, emails, hemails, hemail⟩ := h
    exact exists_of_mem_verifiedEmails hemails hemail
  | notify pods mailer reading now sender n =>
    obtain ⟨rfl, offer, hoffer, rfl⟩ := h
    obtain ⟨hsender, emails, hemails, hemail⟩ := exists_of_mem_offers_notify hoffer
    change ∃ token ∈ (if sender = n.actor.id then _ else []), _
    rw [if_pos hsender]
    exact exists_of_mem_verifiedEmails hemails hemail

/-! ### The invariant -/

/-- A call whose tokens are genuine keeps everything signed backed. -/
lemma IsBacked.snoc (h : s.IsBacked calls) {call : Call}
    (hgenuine : ∀ token ∈ s.presented call, s.IsGenuine calls token) :
    s.IsBacked (calls ++ [call]) := by
  intro other hother message hmessage
  rcases List.mem_append.1 hother with hother | hother
  · obtain ⟨codec, claim, signedAt, hmessage, mailer, now, hmem⟩ := h other hother message hmessage
    exact ⟨codec, claim, signedAt, hmessage, mailer, now, List.mem_append_left _ hmem⟩
  · rw [List.mem_singleton] at hother
    rw [hother] at hmessage
    rcases signs_iff.1 hmessage with
      ⟨mailer, now, actor, email, rfl, hlink⟩ |
      ⟨pods, reading, now, token, claim, rfl, hcheck, hkept⟩
    · exact ⟨s.linkCodec, .unverified actor email, now, hlink, mailer, now,
        List.mem_append_right _ (List.mem_singleton_self _)⟩
    · -- The token to be kept is for what the link was for, hence for something signed before.
      obtain ⟨text, htext, g, hread, hclaim⟩ := exists_of_checkLink hcheck
      obtain ⟨mailer, mailed, hmem⟩ := h.exists_sendLink (hgenuine text htext) rfl hread
      rw [hclaim] at hmem
      exact ⟨s.keptCodec, .verified claim.webId claim.email, now, hkept, mailer, mailed,
        List.mem_append_left _ hmem⟩

/-- What comes first in a history without forgeries is one as well. -/
lemma IsUnforged.of_append {later : List Call} (h : s.IsUnforged (calls ++ later)) :
    s.IsUnforged calls := by
  intro before call after hcalls
  refine h before call (after ++ later) ?_
  rw [hcalls, List.append_assoc, List.cons_append]

lemma isUnforged_nil : s.IsUnforged [] := by
  intro before call after hcalls
  cases before <;> cases hcalls

/-- A history without forgeries goes on without forgeries if the next call checks only genuine
tokens. -/
lemma IsUnforged.snoc (h : s.IsUnforged calls) {call : Call}
    (hgenuine : ∀ token ∈ s.presented call, s.IsGenuine calls token) :
    s.IsUnforged (calls ++ [call]) := by
  intro before other after hcalls
  rcases List.eq_nil_or_concat after with rfl | ⟨rest, last, rfl⟩
  · obtain ⟨rfl, hother⟩ := List.append_inj' hcalls rfl
    obtain rfl := List.singleton_inj.1 hother
    exact hgenuine
  · rw [List.concat_eq_append, ← List.cons_append, ← List.append_assoc] at hcalls
    obtain ⟨hcalls, -⟩ := List.append_inj' hcalls rfl
    exact h before other rest hcalls

/-- In a history without forgeries everything signed is backed. -/
theorem IsUnforged.isBacked (h : s.IsUnforged calls) : s.IsBacked calls := by
  induction calls using List.reverseRecOn with
  | nil =>
    intro call hcall
    cases hcall
  | append_singleton calls call ih =>
    exact (ih h.of_append).snoc (h calls call [] rfl)

/-! ### Tokens that were issued -/

/-- A token whose message was signed in one of the calls is genuine. -/
lemma isGenuine_issue {codec : TokenCodec} (hcodec : codec.scheme = s.scheme) {claim : Claim}
    {now : UInt64} {call : Call} (hcall : call ∈ calls)
    (hsigned : s.Signs call (codec.message claim now)) :
    s.IsGenuine calls (codec.issue claim now) := by
  intro message hmessage
  rw [← hcodec] at hmessage
  rw [TokenCodec.eq_of_authenticates_issue hmessage]
  exact ⟨call, hcall, hsigned⟩

/-- The token in a link that was mailed is genuine. -/
lemma isGenuine_of_mailed {mailer : Mailer} {now : UInt64} {actor : Iri} {email token : String}
    (hcall : Call.sendLink mailer now actor email ∈ calls) {offer : Offer}
    (hoffer : offer ∈ (s.sendLink mailer now actor email).offers)
    (htext : offer.message.text = "Please verify your email " ++ s.link token) :
    s.IsGenuine calls token := by
  obtain ⟨refusal, hoffers⟩ := s.offers_sendLink mailer now actor email
  rw [hoffers, List.mem_singleton] at hoffer
  rw [hoffer] at htext
  rw [← s.link_injective ((String.append_right_inj _).1 htext)]
  exact isGenuine_issue rfl hcall (signs_sendLink_iff.2 rfl)

/-- A token that was handed out for a link is genuine. -/
lemma isGenuine_of_handed {pods : Fetcher} {reading : Nat} {now : UInt64} {link : Option String}
    {token : String} (hcall : Call.verifyEmail pods reading now link ∈ calls)
    (htoken : handedToken? ((s.facing pods).verifyEmail reading now link).value = some token) :
    s.IsGenuine calls token := by
  obtain ⟨claim, hcheck, rfl⟩ := exists_of_handedToken?_verifyEmail htoken
  exact isGenuine_issue rfl hcall (signs_verifyEmail_iff.2 ⟨claim, hcheck, rfl⟩)

/-! ### Addresses are shown to be theirs -/

/-- What is mailed has a link with the token. -/
lemma isLinkWith_link (s : Service) (token : String) : s.IsLinkWith token (s.link token) := by
  obtain ⟨slashes, hbase, hslashes, hlast⟩ :=
    Text.exists_eq_dropTrailing_append '/' s.config.baseUrl
  refine ⟨_, slashes, hbase, hslashes, hlast, ?_⟩
  unfold link linkPath
  simp only [String.append_assoc]
  rfl

/-- In a history without forgeries the service says of no person that they can be reached at an
address, and writes to no address what is meant for them, unless it has mailed to this address a
link for this person before: a link with a token that it has signed for them and the address. -/
theorem exists_sendLink_of_shows (s : Service) (before after : List Call) (call : Call)
    (webId : Iri) (email : String) (hunforged : s.IsUnforged (before ++ call :: after))
    (hshows : s.Shows webId email call) :
    ∃ mailer now, Call.sendLink mailer now webId email ∈ before ∧
      ∃ offer ∈ (s.sendLink mailer now webId email).offers,
        offer.message.template = .verification ∧ offer.message.recipient.address = email ∧
          ∃ link token, offer.message.text = "Please verify your email " ++ link ∧
            s.IsLinkWith token link ∧ s.scheme.IsSignedFor token ⟨webId, email, false⟩ := by
  obtain ⟨token, htoken, g, hread, hclaim⟩ := hshows.exists_token
  have hgenuine : s.IsGenuine before token := hunforged before call after rfl token htoken
  obtain ⟨mailer, now, hmem⟩ :=
    hunforged.of_append.isBacked.exists_sendLink hgenuine rfl hread
  have hperson : Iri.isAbsolute g.claim.webId.text = true := TokenCodec.isAbsolute_of_read hread
  rw [hclaim] at hmem hperson
  obtain ⟨offer, hoffer, hmessage⟩ := s.exists_mem_offers_sendLink mailer now webId email
  have hsigned : s.scheme.IsSignedFor (s.linkCodec.issue (.unverified webId email) now)
      ⟨webId, email, false⟩ := s.linkCodec.isSignedFor_issue (.unverified webId email) now hperson
  refine ⟨mailer, now, hmem, offer, hoffer, ?_⟩
  rw [hmessage]
  exact ⟨rfl, rfl, _, _, rfl, s.isLinkWith_link _, hsigned⟩

/-! ### A person who follows a link -/

/-- A service that signs with sums of bytes, and recognizes what it has signed. -/
def sampleService : Service where
  config := { tokenPredicate := ⟨"a:t"⟩, linkLifetime := 1, tokenLifetime := 1 }
  fetcher := Web.fetcher {}
  scheme :=
    { sign := fun message => [message.foldl (· + ·) 0]
      isSignature := fun bytes => bytes.length == 1
      verifies := fun message bytes => bytes == [message.foldl (· + ·) 0] }
  issuer := ""

/-- Somebody with an address. -/
def samplePerson : Iri := ⟨"a:b"⟩

/-- The token in the link that is mailed. -/
def sampleLink : String :=
  sampleService.linkCodec.issue (.unverified samplePerson "e") 0

/-- The token that is to be kept. -/
def sampleToken : String :=
  sampleService.keptCodec.issue (.verified samplePerson "e") 0

/-- A pod that has the token. -/
def samplePod : Fetcher :=
  (Web.putDocument {} "a:b" ("<a:b> <a:t> \"" ++ sampleToken ++ "\".")).fetcher

/-- The link is mailed and followed. -/
def sampleHistory : List Call :=
  [.sendLink ⟨fun _ => none⟩ 0 samplePerson "e", .verifyEmail samplePod 0 0 (some sampleLink)]

lemma read_sampleLink :
    sampleService.linkCodec.read sampleLink =
      .ok (sampleService.linkCodec.grant (.unverified samplePerson "e") 0) :=
  TokenCodec.read_issue rfl rfl BEq.rfl

lemma read_sampleToken :
    sampleService.keptCodec.read sampleToken =
      .ok (sampleService.keptCodec.grant (.verified samplePerson "e") 0) :=
  TokenCodec.read_issue rfl rfl BEq.rfl

lemma presented_samplePod :
    sampleService.presented (.verifiedEmails samplePod 0 0 samplePerson) = [sampleToken] := by
  decide +kernel

/-- The token that is to be kept is handed out when the link is followed. -/
lemma handedToken?_sampleLink :
    handedToken? ((sampleService.facing samplePod).verifyEmail 0 0 (some sampleLink)).value =
      some sampleToken := by
  have hcheck : sampleService.checkLink 0 (some sampleLink) = .ok (.unverified samplePerson "e") :=
    checkLink_of_read (fun _ => TokenCodec.not_isBlank_of_mem_issue) read_sampleLink rfl
  rw [← sampleService.checkLink_facing samplePod] at hcheck
  have hkept : (sampleService.facing samplePod).keptToken 0 (.unverified samplePerson "e") =
      sampleToken := rfl
  rw [handedToken?_verifyEmail hcheck, hkept]

/-- Mailing the link and following it, the service is shown no token but its own. -/
lemma isUnforged_sampleHistory : sampleService.IsUnforged sampleHistory := by
  have hmailed : sampleService.IsUnforged [.sendLink ⟨fun _ => none⟩ 0 samplePerson "e"] :=
    isUnforged_nil.snoc fun _ h => nomatch h
  refine hmailed.snoc fun token htoken => ?_
  have hblank : ∀ c ∈ sampleLink.toList, Text.isBlank c = false :=
    fun _ => TokenCodec.not_isBlank_of_mem_issue
  rw [presented, filter_map_trim_of_read hblank read_sampleLink] at htoken
  obtain ⟨offer, hoffer, hmessage⟩ :=
    sampleService.exists_mem_offers_sendLink ⟨fun _ => none⟩ 0 samplePerson "e"
  rw [List.mem_singleton.1 htoken]
  refine isGenuine_of_mailed (List.mem_singleton_self _) hoffer ?_
  rw [hmessage]
  rfl

/-- The service says that the person can be reached, since they keep the token that they were handed
when they followed a link, and it has mailed this link. -/
theorem exists_sendLink_samplePerson :
    sampleService.IsUnforged
        (sampleHistory ++ Call.verifiedEmails samplePod 0 0 samplePerson :: []) ∧
      handedToken? ((sampleService.facing samplePod).verifyEmail 0 0 (some sampleLink)).value =
        some sampleToken ∧
      sampleService.Shows samplePerson "e" (.verifiedEmails samplePod 0 0 samplePerson) ∧
      ∃ mailer now, Call.sendLink mailer now samplePerson "e" ∈ sampleHistory ∧
        ∃ offer ∈ (sampleService.sendLink mailer now samplePerson "e").offers,
          offer.message.recipient.address = "e" ∧
            ∃ link token, offer.message.text = "Please verify your email " ++ link ∧
              sampleService.IsLinkWith token link ∧
              sampleService.scheme.IsSignedFor token ⟨samplePerson, "e", false⟩ := by
  have hunforged : sampleService.IsUnforged
      (sampleHistory ++ Call.verifiedEmails samplePod 0 0 samplePerson :: []) := by
    refine isUnforged_sampleHistory.snoc fun token htoken => ?_
    rw [presented_samplePod, List.mem_singleton] at htoken
    rw [htoken]
    exact isGenuine_of_handed (by simp [sampleHistory]) handedToken?_sampleLink
  have hshows : sampleService.Shows samplePerson "e"
      (.verifiedEmails samplePod 0 0 samplePerson) := by
    have hkept : sampleToken ∈
        sampleService.presented (.verifiedEmails samplePod 0 0 samplePerson) := by
      rw [presented_samplePod]
      exact List.mem_singleton_self _
    exact ⟨rfl, exists_mem_verifiedEmails hkept read_sampleToken (by decide +kernel) rfl⟩
  obtain ⟨mailer, now, hmem, offer, hoffer, -, haddress, hlink⟩ :=
    exists_sendLink_of_shows sampleService sampleHistory []
      (.verifiedEmails samplePod 0 0 samplePerson) samplePerson "e" hunforged hshows
  exact ⟨hunforged, handedToken?_sampleLink, hshows, mailer, now, hmem, offer, hoffer, haddress,
    hlink⟩

end Service

end Courier
