import Courier.Proofs.Service.History

/-!
# Verdicts on tokens

Whatever text is put forward as a token, one of two things holds of it.  Either it is refused at
every instant for one and the same fault, or it carries a grant (`TokenCodec.Carries`): it is
accepted with this grant until the grant is void, and is expired from then on.  So a text that does
not carry a grant is never called expired, and if only what was signed for grants verifies, the
grants that are carried are among those.

A link is judged by its token without the blanks around it.
-/

namespace Courier

namespace TokenCodec

/-- Whether the token carries the grant: it has exactly three parts with points between them, of
which the first names the way of signing, the second says the grant and the third is a signature of
the first two as they are written. -/
def Carries (codec : TokenCodec) (token : String) (g : Grant) : Prop :=
  ∃ header payload signature bytes, token = header ++ "." ++ payload ++ "." ++ signature ∧
    (∀ part ∈ [header, payload, signature], '.' ∉ part.toList) ∧
    (value? header).bind algorithm? = some algorithm ∧
    Text.Base64.linkSafe.decode? signature.toList = some bytes ∧
    codec.scheme.isSignature bytes = true ∧
    codec.scheme.verifies (Text.utf8 (header ++ "." ++ payload)) bytes = true ∧
    (value? payload).bind Grant.ofJson? = some g

variable {codec : TokenCodec} {token : String} {g : Grant}

/-- What is read from a token is what it carries. -/
theorem carries_iff : codec.Carries token g ↔ codec.read token = .ok g := by
  unfold Carries
  simp only [read_eq_ok_iff, split_eq_parts_iff, and_assoc]
  rfl

/-- A token carries at most one grant. -/
lemma Carries.eq {h : Grant} (hg : codec.Carries token g) (hh : codec.Carries token h) : h = g :=
  Except.ok.inj ((carries_iff.1 hh).symm.trans (carries_iff.1 hg))

/-- A token that carries a grant is accepted with it until it is void, and is expired from then
on. -/
lemma Carries.verify_eq (h : codec.Carries token g) (now : UInt64) :
    codec.verify token now = if now < g.expiresAt then .ok g else .error .expired :=
  verify_eq_of_read (carries_iff.1 h) now

/-- A token that carries no grant is refused for a fault. -/
lemma verify_eq_of_not_carries (h : ¬∃ g, codec.Carries token g) :
    ∃ fault, ∀ now, codec.verify token now = .error (.invalid fault) := by
  cases hread : codec.read token with
  | ok g => exact absurd ⟨g, carries_iff.2 hread⟩ h
  | error fault =>
    refine ⟨fault, fun now => ?_⟩
    unfold verify
    rw [hread]

/-- A token that is refused for a fault carries no grant. -/
lemma not_carries_of_verify {fault : TokenFault} {now : UInt64}
    (h : codec.verify token now = .error (.invalid fault)) : ¬codec.Carries token g := by
  intro hg
  rw [hg.verify_eq now] at h
  split at h
  · cases h
  · cases h

/-- Only a token that carries a grant is expired. -/
lemma exists_carries_of_verify_eq_expired {now : UInt64}
    (h : codec.verify token now = .error .expired) : ∃ g, codec.Carries token g := by
  by_contra hnone
  obtain ⟨fault, hfault⟩ := verify_eq_of_not_carries hnone
  rw [hfault now] at h
  cases h

/-- If the messages whose signatures verify were signed for grants, the grant that a token carries
is among them. -/
lemma Carries.exists_made (h : codec.Carries token g) {made : TokenCodec → Claim → UInt64 → Prop}
    (hmade : ∀ message, codec.scheme.Authenticates token message →
      ∃ codec' claim instant, made codec' claim instant ∧ message = codec'.message claim instant) :
    ∃ codec' claim instant, made codec' claim instant ∧ g = codec'.grant claim instant := by
  obtain ⟨message, hauthenticates, hgrant⟩ := exists_authenticates_of_read (carries_iff.1 h)
  obtain ⟨codec', claim, instant, hinstant, hmessage⟩ := hmade message hauthenticates
  exact ⟨codec', claim, instant, hinstant, hgrant codec' claim instant hmessage⟩

end TokenCodec

namespace Service

/-- What the service says of a link when the verdict on its token is as given. -/
def linkVerdict : Except TokenError Grant → Except ServiceError Claim
  | .ok g => .ok g.claim
  | .error .expired => .error .linkExpired
  | .error (.invalid _) | .error .key => .error .linkInvalid

/-- A link is judged by its token without the blanks around it, if anything is left. -/
theorem checkLink_eq (s : Service) (now : UInt64) (token : Option String) :
    s.checkLink now token =
      match token with
      | none => .error .missingLink
      | some text =>
        if Text.isBlankText text then .error .missingLink
        else linkVerdict (s.linkCodec.verify (Text.trim text) now) := by
  cases token with
  | none => rfl
  | some text =>
    dsimp only
    unfold checkLink
    rw [Option.map_some, Text.filter_trim]
    by_cases hblank : Text.isBlankText text = true
    · rw [if_pos hblank, if_pos hblank]
    · rw [if_neg hblank, if_neg hblank]
      dsimp only
      cases s.linkCodec.verify (Text.trim text) now with
      | ok g => rfl
      | error e => cases e <;> rfl

end Service

/-- Every text is either refused at all instants for one fault or carries one grant, with which it
is accepted until the grant is void and is expired from then on.  Only texts that carry a grant are
expired, and the grant is one that a token was made for if only the messages of such tokens verify.
A link without a token is missing one, and any other is judged by its token. -/
theorem TokenCodec.verify_verdict (codec : TokenCodec) (token : String) :
    Xor (∃ fault, ∀ now, codec.verify token now = .error (.invalid fault))
      (∃! g, codec.Carries token g ∧
        ∀ now, codec.verify token now = if now < g.expiresAt then .ok g else .error .expired) ∧
    (∀ now, codec.verify token now = .error .expired → ∃ g, codec.Carries token g) ∧
    (∀ made : TokenCodec → Claim → UInt64 → Prop,
      (∀ message, codec.scheme.Authenticates token message →
        ∃ codec' claim instant, made codec' claim instant ∧
          message = codec'.message claim instant) →
      ∀ g, codec.Carries token g →
        ∃ codec' claim instant, made codec' claim instant ∧ g = codec'.grant claim instant) ∧
    ∀ (s : Service) (now : UInt64), s.checkLink now none = .error .missingLink ∧
      s.checkLink now (some token) =
        if Text.isBlankText token then .error .missingLink
        else Service.linkVerdict (s.linkCodec.verify (Text.trim token) now) := by
  refine ⟨?_, fun now => exists_carries_of_verify_eq_expired, fun made hmade g hg =>
    hg.exists_made hmade, fun s now => ⟨s.checkLink_eq now none, s.checkLink_eq now (some token)⟩⟩
  by_cases hcarries : ∃ g, codec.Carries token g
  · obtain ⟨g, hg⟩ := hcarries
    refine Or.inr ⟨⟨g, ⟨hg, hg.verify_eq⟩, fun h hh => hg.eq hh.1⟩, ?_⟩
    rintro ⟨fault, hfault⟩
    exact not_carries_of_verify (hfault 0) hg
  · refine Or.inl ⟨verify_eq_of_not_carries hcarries, ?_⟩
    rintro ⟨g, ⟨hg, -⟩, -⟩
    exact hcarries ⟨g, hg⟩

namespace Service

/-- The token in a link that was mailed carries the grant that it was made for, and no other token
was made. -/
theorem verify_verdict_sampleLink :
    (∃! g, sampleService.linkCodec.Carries sampleLink g ∧
      ∀ now, sampleService.linkCodec.verify sampleLink now =
        if now < g.expiresAt then .ok g else .error .expired) ∧
      ∀ g, sampleService.linkCodec.Carries sampleLink g →
        g = sampleService.linkCodec.grant (.unverified samplePerson "e") 0 := by
  obtain ⟨hverdict, -, hmade, -⟩ :=
    TokenCodec.verify_verdict sampleService.linkCodec sampleLink
  refine ⟨?_, fun g hg => ?_⟩
  · rcases hverdict with ⟨⟨fault, hfault⟩, -⟩ | ⟨hcarries, -⟩
    · exact absurd (TokenCodec.carries_iff.2 read_sampleLink)
        (TokenCodec.not_carries_of_verify (hfault 0))
    · exact hcarries
  · -- The only token made is the one in the link.
    obtain ⟨codec, claim, instant, ⟨rfl, rfl, rfl⟩, hgrant⟩ := hmade
      (fun codec claim instant => codec = sampleService.linkCodec ∧
        claim = .unverified samplePerson "e" ∧ instant = 0)
      (fun message hmessage => ⟨_, _, _, ⟨rfl, rfl, rfl⟩,
        TokenCodec.eq_of_authenticates_issue hmessage⟩) g hg
    exact hgrant

end Service

end Courier
