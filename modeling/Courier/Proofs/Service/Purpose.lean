import Courier.Proofs.Service.Kept
import Courier.Proofs.Service.Verdict

/-!
# What tokens are made for

The service makes tokens for two purposes: to be mailed in links and to be kept in pods.  They are
signed alike and differ only in whether they say that the address was shown.  Counting tokens looks
at that, so a token from a link never shows an address.  Following a link does not look at it, so a
token that was made to be kept is accepted there too, for as long as it is to be kept, and is
exchanged for a new one (`Service.checkLink_eq_ok_iff_holdsFor`).
-/

namespace Courier

/-- What a token is made for. -/
inductive Purpose where
  /-- To be mailed in a link. -/
  | link
  /-- To be kept in a pod. -/
  | keeping
  deriving DecidableEq

/-- What a token says that is made for the purpose. -/
def Purpose.claim : Purpose → Iri → String → Claim
  | link => .unverified
  | keeping => .verified

namespace Service

/-- The codec of tokens that are made for the purpose. -/
def codecFor (s : Service) : Purpose → TokenCodec
  | .link => s.linkCodec
  | .keeping => s.keptCodec

/-- Whether a token that shows that a message was signed does so because this was the message of a
token made. -/
def IsMadeGenuinely (s : Service) (made : Purpose → Iri → String → UInt64 → Prop) (token : String) :
    Prop :=
  ∀ message, s.scheme.Authenticates token message →
    ∃ purpose person email issuedAt, made purpose person email issuedAt ∧
      message = (s.codecFor purpose).message (purpose.claim person email) issuedAt

/-- Whether the token carries what was said in a token that was made for the purpose, and the
lifetime of such tokens is not over. -/
def HoldsFor (s : Service) (made : Purpose → Iri → String → UInt64 → Prop) (purpose : Purpose)
    (token : String) (now : UInt64) (claim : Claim) : Prop :=
  ∃ person email issuedAt, made purpose person email issuedAt ∧
    claim = purpose.claim person email ∧
    (s.codecFor purpose).Carries token ((s.codecFor purpose).grant claim issuedAt) ∧
    now.toNat < min (issuedAt.toNat + (s.codecFor purpose).lifetime.toNat) (UInt64.size - 1)

variable {s : Service} {made : Purpose → Iri → String → UInt64 → Prop} {purpose : Purpose}
  {token : String} {now : UInt64} {claim : Claim}

/-- The same grants are read for both purposes. -/
lemma carries_codecFor {g : Grant} :
    (s.codecFor purpose).Carries token g ↔ s.linkCodec.Carries token g := by
  cases purpose <;> rfl

/-- What a token says tells what it is made for. -/
lemma HoldsFor.isVerified_iff (h : s.HoldsFor made purpose token now claim) :
    claim.isVerified = true ↔ purpose = .keeping := by
  obtain ⟨person, email, issuedAt, -, rfl, -⟩ := h
  cases purpose with
  | link => exact iff_of_false Bool.false_ne_true Purpose.noConfusion
  | keeping => exact iff_of_true rfl rfl

/-- Tokens are judged alike whatever they are made for. -/
lemma verify_linkCodec : s.linkCodec.verify token now = s.keptCodec.verify token now :=
  rfl

/-- A token that holds for some purpose is accepted. -/
lemma HoldsFor.verify_eq (h : s.HoldsFor made purpose token now claim) :
    ∃ g, s.linkCodec.verify token now = .ok g ∧ g.claim = claim := by
  obtain ⟨person, email, issuedAt, -, -, hcarries, hnow⟩ := h
  refine ⟨(s.codecFor purpose).grant claim issuedAt, ?_, rfl⟩
  rw [(carries_codecFor.1 hcarries).verify_eq now]
  exact if_pos (TokenCodec.lt_later_iff.2 hnow)

/-- A token that was made is genuine. -/
lemma isMadeGenuinely_issue (purpose : Purpose) (person : Iri) (email : String) (issuedAt : UInt64)
    (h : made purpose person email issuedAt) :
    s.IsMadeGenuinely made ((s.codecFor purpose).issue (purpose.claim person email) issuedAt) := by
  intro message hmessage
  have hscheme : (s.codecFor purpose).scheme = s.scheme := by
    cases purpose <;> rfl
  rw [← hscheme] at hmessage
  exact ⟨purpose, person, email, issuedAt, h, TokenCodec.eq_of_authenticates_issue hmessage⟩

/-- A genuine token that is accepted holds for some purpose. -/
lemma IsMadeGenuinely.exists_holdsFor (h : s.IsMadeGenuinely made token) {g : Grant}
    (hverify : s.linkCodec.verify token now = .ok g) :
    ∃ purpose, s.HoldsFor made purpose token now g.claim := by
  have hread := TokenCodec.read_of_verify hverify
  obtain ⟨message, hauthenticates, hgrant⟩ := TokenCodec.exists_authenticates_of_read hread
  obtain ⟨purpose, person, email, issuedAt, hmade, hmessage⟩ := h message hauthenticates
  have hg : g = (s.codecFor purpose).grant (purpose.claim person email) issuedAt :=
    hgrant _ _ _ hmessage
  have hcarries : s.linkCodec.Carries token g := TokenCodec.carries_iff.2 hread
  have hnow : now < g.expiresAt := by
    rw [hcarries.verify_eq now] at hverify
    by_contra hvoid
    rw [if_neg hvoid] at hverify
    cases hverify
  subst hg
  exact ⟨purpose, person, email, issuedAt, hmade, rfl, carries_codecFor.2 hcarries,
    TokenCodec.lt_later_iff.1 hnow⟩

/-- A link is accepted for what its token, without the blanks around it, claims. -/
lemma checkLink_eq_ok_iff {text : String} : s.checkLink now (some text) = .ok claim ↔
    ∃ g, s.linkCodec.verify (Text.trim text) now = .ok g ∧ g.claim = claim := by
  rw [checkLink_eq]
  dsimp only
  by_cases hblank : Text.isBlankText text = true
  · have hempty : s.linkCodec.verify "" now = .error (.invalid .parts) := rfl
    rw [if_pos hblank, Text.trim_eq_empty_iff.2 hblank, hempty]
    exact iff_of_false (fun h => nomatch h) fun ⟨_, h, _⟩ => nomatch h
  · rw [if_neg hblank]
    cases s.linkCodec.verify (Text.trim text) now with
    | error e =>
      refine iff_of_false ?_ fun ⟨_, h, _⟩ => nomatch h
      cases e <;> exact fun h => nomatch h
    | ok g =>
      constructor
      · intro h
        exact ⟨g, rfl, Except.ok.inj h⟩
      · rintro ⟨g', hg, hclaim⟩
        obtain rfl : g = g' := Except.ok.inj hg
        exact congrArg _ hclaim

/-- A genuine token is accepted in a link exactly if it holds for some purpose. -/
lemma IsMadeGenuinely.checkLink_eq_ok_iff {text : String}
    (h : s.IsMadeGenuinely made (Text.trim text)) : s.checkLink now (some text) = .ok claim ↔
      ∃ purpose, s.HoldsFor made purpose (Text.trim text) now claim := by
  rw [Service.checkLink_eq_ok_iff]
  constructor
  · rintro ⟨g, hverify, rfl⟩
    exact h.exists_holdsFor hverify
  · rintro ⟨purpose, hholds⟩
    exact hholds.verify_eq

/-! ### Counting tokens -/

/-- A genuine token shows an address exactly if it holds to be kept. -/
lemma IsMadeGenuinely.shows_iff {person : Iri} {email : String} (h : s.IsMadeGenuinely made token) :
    s.keptCodec.Shows now person token email ↔
      s.HoldsFor made .keeping token now (.verified person email) := by
  constructor
  · rintro ⟨g, hverify, hclaim⟩
    obtain ⟨purpose, hholds⟩ := h.exists_holdsFor hverify
    rw [hclaim] at hholds
    rw [← hholds.isVerified_iff.1 rfl]
    exact hholds
  · intro hholds
    exact hholds.verify_eq

/-- A token that was made for a link shows no address. -/
lemma not_shows_link {claimant person : Iri} {email shown : String} {issuedAt : UInt64} :
    ¬s.keptCodec.Shows now person (s.linkCodec.issue (.unverified claimant email) issuedAt)
      shown := by
  rintro ⟨g, hverify, hclaim⟩
  obtain ⟨message, hauthenticates, hgrant⟩ :=
    TokenCodec.exists_authenticates_of_read (TokenCodec.read_of_verify hverify)
  have hmessage : message = s.linkCodec.message (.unverified claimant email) issuedAt :=
    TokenCodec.eq_of_authenticates_issue hauthenticates
  rw [hgrant _ _ _ hmessage] at hclaim
  cases hclaim

/-- Whether a token from a link is among the tokens makes no difference to the addresses that they
show. -/
lemma verifiedEmails_append_link_cons {person claimant : Iri} {email : String} {issuedAt : UInt64}
    (before after : List String) :
    s.keptCodec.verifiedEmails now person
        (before ++ s.linkCodec.issue (.unverified claimant email) issuedAt :: after) =
      s.keptCodec.verifiedEmails now person (before ++ after) := by
  have hnone : s.keptCodec.verifiedEmail? now person
      (s.linkCodec.issue (.unverified claimant email) issuedAt) = none := by
    refine Option.eq_none_iff_forall_ne_some.2 fun shown hshown => ?_
    exact not_shows_link (TokenCodec.verifiedEmail?_eq_some_iff.1 hshown)
  unfold TokenCodec.verifiedEmails
  rw [List.filterMap_append, List.filterMap_append, List.filterMap_cons_none hnone]

/-! ### Following links -/

/-- A token that was handed out to be kept is accepted in a link for as long as it is to be kept. -/
theorem checkLink_keptToken (s : Service) (issuedAt : UInt64) (claim : Claim)
    (hperson : Iri.isAbsolute claim.webId.text = true)
    (hscheme :
      s.scheme.Recognizes (s.keptCodec.message (.verified claim.webId claim.email) issuedAt))
    (now : UInt64) :
    s.checkLink now (some (s.keptToken issuedAt claim)) =
      if now.toNat < min (issuedAt.toNat + s.config.tokenLifetime.toNat) (UInt64.size - 1) then
        .ok (.verified claim.webId claim.email)
      else .error .linkExpired := by
  have hread : s.keptCodec.read (s.keptCodec.issue (.verified claim.webId claim.email) issuedAt) =
      .ok (s.keptCodec.grant (.verified claim.webId claim.email) issuedAt) :=
    TokenCodec.read_issue hperson hscheme.isSignature hscheme.verifies
  have hverify : s.linkCodec.verify (s.keptCodec.issue (.verified claim.webId claim.email) issuedAt)
      now =
        if now.toNat < min (issuedAt.toNat + s.config.tokenLifetime.toNat) (UInt64.size - 1) then
          .ok (s.keptCodec.grant (.verified claim.webId claim.email) issuedAt)
        else .error .expired := by
    rw [verify_linkCodec]
    exact @TokenCodec.verify_issue_eq s.keptCodec (.verified claim.webId claim.email) issuedAt
      hperson hscheme now
  unfold checkLink keptToken
  rw [filter_map_trim_of_read (fun _ => TokenCodec.not_isBlank_of_mem_issue) hread]
  dsimp only
  rw [hverify]
  split_ifs
  · rfl
  · rfl

/-- A genuine token is accepted in a link exactly if it was made for a link or to be kept and the
lifetime of such tokens is not over.  It was made for a link exactly if it does not say that the
address was shown; in any case it is exchanged for a new token to keep.  It shows an address exactly
if it was made to be kept, and tokens from links never add one. -/
theorem checkLink_eq_ok_iff_holdsFor (s : Service) (made : Purpose → Iri → String → UInt64 → Prop)
    (text : String) (hgenuine : s.IsMadeGenuinely made (Text.trim text)) (now : UInt64) :
    (∀ claim, s.checkLink now (some text) = .ok claim ↔
        ∃ purpose, s.HoldsFor made purpose (Text.trim text) now claim) ∧
      (∀ claim, s.checkLink now (some text) = .ok claim →
        (s.HoldsFor made .link (Text.trim text) now claim ↔ claim.isVerified = false) ∧
          (s.HoldsFor made .keeping (Text.trim text) now claim ↔ claim.isVerified = true) ∧
          ∀ reading, handedToken? (s.verifyEmail reading now (some text)).value =
            some (s.keptToken now claim)) ∧
      (∀ person email, s.keptCodec.Shows now person (Text.trim text) email ↔
        s.HoldsFor made .keeping (Text.trim text) now (.verified person email)) ∧
      ∀ claimant email issuedAt person before after,
        s.keptCodec.verifiedEmails now person
            (before ++ s.linkCodec.issue (.unverified claimant email) issuedAt :: after) =
          s.keptCodec.verifiedEmails now person (before ++ after) := by
  refine ⟨fun claim => hgenuine.checkLink_eq_ok_iff, ?_, fun person email => hgenuine.shows_iff,
    fun claimant email issuedAt person before after => verifiedEmails_append_link_cons before after⟩
  intro claim hclaim
  obtain ⟨purpose, hholds⟩ := hgenuine.checkLink_eq_ok_iff.1 hclaim
  have hpurpose : ∀ other, s.HoldsFor made other (Text.trim text) now claim ↔ other = purpose := by
    intro other
    constructor
    · intro hother
      have hsame : other = .keeping ↔ purpose = .keeping :=
        hother.isVerified_iff.symm.trans hholds.isVerified_iff
      revert hsame
      cases other <;> cases purpose <;> decide
    · rintro rfl
      exact hholds
  refine ⟨?_, ?_, handedToken?_verifyEmail hclaim⟩
  · rw [hpurpose, ← Bool.not_eq_true, hholds.isVerified_iff]
    cases purpose <;> decide
  · rw [hpurpose, hholds.isVerified_iff, eq_comm]

/-- What is made for the link that was mailed. -/
def IsMailed (purpose : Purpose) (person : Iri) (email : String) (issuedAt : UInt64) : Prop :=
  purpose = .link ∧ person = samplePerson ∧ email = "e" ∧ issuedAt = 0

/-- The token in a link that was mailed is accepted for what it was made for, and shows no
address. -/
theorem checkLink_eq_ok_iff_sampleLink :
    sampleService.checkLink 0 (some sampleLink) = .ok (.unverified samplePerson "e") ∧
      sampleService.HoldsFor IsMailed .link sampleLink 0 (.unverified samplePerson "e") ∧
      ∀ person email, ¬sampleService.keptCodec.Shows 0 person sampleLink email := by
  have hblank : ∀ c ∈ sampleLink.toList, Text.isBlank c = false :=
    fun _ => TokenCodec.not_isBlank_of_mem_issue
  have htrim : Text.trim sampleLink = sampleLink := Text.trim_eq_self hblank
  have hgenuine : sampleService.IsMadeGenuinely IsMailed (Text.trim sampleLink) := by
    rw [htrim]
    exact isMadeGenuinely_issue .link samplePerson "e" 0 ⟨rfl, rfl, rfl, rfl⟩
  have haccepted : sampleService.checkLink 0 (some sampleLink) =
      .ok (.unverified samplePerson "e") :=
    checkLink_of_read hblank read_sampleLink rfl
  obtain ⟨-, hpurpose, hshows, -⟩ :=
    checkLink_eq_ok_iff_holdsFor sampleService IsMailed sampleLink hgenuine 0
  rw [htrim] at hpurpose hshows
  refine ⟨haccepted, (hpurpose _ haccepted).1.2 rfl, ?_⟩
  intro person email h
  obtain ⟨-, -, -, ⟨hkeeping, -⟩, -⟩ := (hshows person email).1 h
  cases hkeeping

/-! ### A token that is exchanged -/

/-- A way of signing that recognizes no messages but those given. -/
def listedScheme (messages : List (List UInt8)) : SignatureScheme where
  sign := id
  isSignature := fun _ => true
  verifies := fun message bytes => messages.contains message && bytes == message

/-- Such a scheme recognizes the messages given. -/
lemma recognizes_listedScheme {messages : List (List UInt8)} {message : List UInt8}
    (h : message ∈ messages) : (listedScheme messages).Recognizes message where
  isSignature := rfl
  verifies := Bool.and_eq_true_iff.2 ⟨List.contains_iff_mem.2 h, BEq.rfl⟩

/-- A service whose tokens to be kept hold much longer than its links. -/
def lastingService (messages : List (List UInt8)) : Service where
  config := { linkLifetime := 1, tokenLifetime := 100 }
  fetcher := Web.fetcher {}
  scheme := listedScheme messages
  issuer := ""

/-- The message of the token to be kept that is made at an instant. -/
def lastingMessage (issuedAt : UInt64) : List UInt8 :=
  (lastingService []).keptCodec.message (.verified samplePerson "e") issuedAt

/-- A service that makes two tokens to be kept and signs nothing else. -/
def exchangingService : Service :=
  lastingService ([0, 50].map lastingMessage)

/-- The token to be kept that is made at an instant. -/
def exchangedToken (issuedAt : UInt64) : String :=
  exchangingService.keptToken issuedAt shownClaim

/-- Both tokens are made to be kept. -/
def IsExchanged (purpose : Purpose) (person : Iri) (email : String) (issuedAt : UInt64) : Prop :=
  purpose = .keeping ∧ person = samplePerson ∧ email = "e" ∧ issuedAt ∈ [(0 : UInt64), 50]

/-- Every token is genuine. -/
lemma isMadeGenuinely_exchangingService (token : String) :
    exchangingService.IsMadeGenuinely IsExchanged token := by
  rintro message ⟨header, payload, signature, bytes, -, -, -, hverifies⟩
  have hsigned : message ∈ [(0 : UInt64), 50].map lastingMessage :=
    List.contains_iff_mem.1 (Bool.and_eq_true_iff.1 hverifies).1
  obtain ⟨issuedAt, hissued, rfl⟩ := List.mem_map.1 hsigned
  exact ⟨.keeping, samplePerson, "e", issuedAt, ⟨rfl, rfl, rfl, hissued⟩, rfl⟩

/-- The service recognizes the signatures of both tokens. -/
lemma recognizes_exchangingService (issuedAt : UInt64) (h : issuedAt ∈ [(0 : UInt64), 50]) :
    exchangingService.scheme.Recognizes
      (exchangingService.keptCodec.message (.verified shownClaim.webId shownClaim.email)
        issuedAt) := by
  have hmessage : exchangingService.keptCodec.message
      (.verified shownClaim.webId shownClaim.email) issuedAt = lastingMessage issuedAt := rfl
  have hscheme : exchangingService.scheme =
      listedScheme ([(0 : UInt64), 50].map lastingMessage) := rfl
  rw [hmessage, hscheme]
  exact recognizes_listedScheme (List.mem_map_of_mem h)

/-- Long after links are void, a link with the older token is accepted, although no token was ever
made for a link.  It is exchanged for the newer token, which holds when the older one is expired. -/
theorem checkLink_exchangedToken :
    (∀ token, exchangingService.IsMadeGenuinely IsExchanged token) ∧
      exchangingService.checkLink 50 (some (exchangedToken 0)) = .ok (.verified samplePerson "e") ∧
      (∀ token claim, ¬exchangingService.HoldsFor IsExchanged .link token 50 claim) ∧
      handedToken? (exchangingService.verifyEmail 0 50 (some (exchangedToken 0))).value =
        some (exchangedToken 50) ∧
      exchangingService.keptCodec.verify (exchangedToken 0) 120 = .error .expired ∧
      exchangingService.keptCodec.verify (exchangedToken 50) 120 =
        .ok (exchangingService.keptCodec.grant (.verified samplePerson "e") 50) := by
  have hfirst := recognizes_exchangingService 0 (by decide)
  have hsecond := recognizes_exchangingService 50 (by decide)
  have hperson : Iri.isAbsolute shownClaim.webId.text = true := rfl
  have haccepted : exchangingService.checkLink 50 (some (exchangedToken 0)) =
      .ok (.verified samplePerson "e") :=
    (checkLink_keptToken exchangingService 0 shownClaim hperson hfirst 50).trans
      (if_pos (by decide))
  refine ⟨isMadeGenuinely_exchangingService, haccepted, ?_, handedToken?_verifyEmail haccepted 0,
    ?_, ?_⟩
  · rintro token claim ⟨-, -, -, ⟨hpurpose, -⟩, -⟩
    cases hpurpose
  · exact (@TokenCodec.verify_issue_eq exchangingService.keptCodec
      (.verified shownClaim.webId shownClaim.email) 0 hperson hfirst 120).trans
        (if_neg (by decide))
  · exact (@TokenCodec.verify_issue_eq exchangingService.keptCodec
      (.verified shownClaim.webId shownClaim.email) 50 hperson hsecond 120).trans
        (if_pos (by decide))

end Service

end Courier
