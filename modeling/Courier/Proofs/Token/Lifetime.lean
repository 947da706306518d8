import Courier.Key.PrivateKey
import Courier.Proofs.Token.Codec

/-!
# How long tokens hold

A token that was issued is accepted, with the grant that it was issued for, until the lifetime of
the codec is over, and is expired from then on (`TokenCodec.verify_issue`).  Instants end at 2⁶⁴, so
a grant made shortly before holds for less.  A token may be put into a link as it is.

Nothing is assumed of the way of signing but that it recognizes its own signature of the message.
-/

namespace Courier

/-- Whether the way of signing recognizes its own signature of the message. -/
structure SignatureScheme.Recognizes (scheme : SignatureScheme) (message : List UInt8) : Prop where
  /-- The signature has the form of one. -/
  isSignature : scheme.isSignature (scheme.sign message) = true
  /-- The signature is one of the message. -/
  verifies : scheme.verifies message (scheme.sign message) = true

/-- Bytes that verify have the form of a signature. -/
lemma PrivateKey.isSignature_of_verifies (key : PrivateKey) {message bytes : List UInt8}
    (h : key.scheme.verifies message bytes = true) : key.scheme.isSignature bytes = true := by
  unfold scheme at h ⊢
  dsimp only at h ⊢
  split at h
  next signature hsignature =>
    rw [hsignature]
    rfl
  next => cases h

/-- Whether the text has letters, decimal digits, hyphens and underscores only, which never need
escaping in a link. -/
def Text.IsLinkSafe (text : String) : Prop :=
  ∀ c ∈ text.toList, c.isAlphanum = true ∨ c = '-' ∨ c = '_'

lemma Text.isLinkSafe_encode (bytes : List UInt8) :
    IsLinkSafe (.ofList (Base64.linkSafe.encode bytes)) := by
  intro c hc
  rw [String.toList_ofList] at hc
  exact Base64.isAlphanum_of_mem_encode hc

namespace TokenCodec

/-- Instants are added as numbers, up to the last instant. -/
lemma toNat_later (instant seconds : UInt64) :
    (later instant seconds).toNat = min (instant.toNat + seconds.toNat) (UInt64.size - 1) := by
  have hsize : 0 < UInt64.size := by decide
  unfold later
  rw [UInt64.toNat_ofNat', Nat.mod_eq_of_lt]
  change _ < UInt64.size
  omega

/-- The instants before the end of a lifetime. -/
lemma lt_later_iff {now instant seconds : UInt64} :
    now < later instant seconds ↔
      now.toNat < min (instant.toNat + seconds.toNat) (UInt64.size - 1) := by
  rw [UInt64.lt_iff_toNat_lt, toNat_later]

/-- A token that was issued is accepted with its grant until the lifetime ends, and is expired from
then on. -/
lemma verify_issue_eq {codec : TokenCodec} {claim : Claim} {issuedAt : UInt64}
    (hperson : Iri.isAbsolute claim.webId.text = true)
    (hscheme : codec.scheme.Recognizes (codec.message claim issuedAt)) (now : UInt64) :
    codec.verify (codec.issue claim issuedAt) now =
      if now.toNat < min (issuedAt.toNat + codec.lifetime.toNat) (UInt64.size - 1) then
        .ok (codec.grant claim issuedAt)
      else .error .expired := by
  have hread := read_issue hperson hscheme.isSignature hscheme.verifies
  rw [verify_eq_of_read hread]
  exact if_congr lt_later_iff rfl rfl

/-- A token has three parts with points between them, and may be put into a link as it is. -/
theorem exists_parts_issue (codec : TokenCodec) (claim : Claim) (now : UInt64) :
    ∃ header payload signature,
      codec.issue claim now = header ++ "." ++ payload ++ "." ++ signature ∧
        Text.IsLinkSafe header ∧ Text.IsLinkSafe payload ∧ Text.IsLinkSafe signature :=
  ⟨_, _, _, codec.issue_eq claim now, Text.isLinkSafe_encode _, Text.isLinkSafe_encode _,
    Text.isLinkSafe_encode _⟩

/-- A token that was issued for an absolute identifier carries exactly the grant that it was issued
for.  It is accepted at every instant before the end of the lifetime, or before the last instant if
the lifetime would end later, and is expired at every other. -/
theorem verify_issue (codec : TokenCodec) (claim : Claim) (issuedAt : UInt64)
    (hperson : Iri.isAbsolute claim.webId.text = true)
    (hscheme : codec.scheme.Recognizes (codec.message claim issuedAt)) :
    (∃ expiresAt : UInt64,
      expiresAt.toNat = min (issuedAt.toNat + codec.lifetime.toNat) (UInt64.size - 1) ∧
        ∀ now, codec.verify (codec.issue claim issuedAt) now =
          if now < expiresAt then .ok ⟨claim, codec.issuer, issuedAt, expiresAt⟩
          else .error .expired) ∧
      ∃ header payload signature,
        codec.issue claim issuedAt = header ++ "." ++ payload ++ "." ++ signature ∧
          Text.IsLinkSafe header ∧ Text.IsLinkSafe payload ∧ Text.IsLinkSafe signature := by
  have hread := read_issue hperson hscheme.isSignature hscheme.verifies
  refine ⟨⟨later issuedAt codec.lifetime, toNat_later _ _, ?_⟩, codec.exists_parts_issue _ _⟩
  intro now
  exact verify_eq_of_read hread now

/-- A key of the curve. -/
def sampleKey : PrivateKey := ⟨7, by decide, by decide⟩

/-- A codec that signs with the key. -/
def keyCodec : TokenCodec :=
  { scheme := sampleKey.scheme, issuer := "", lifetime := 60 }

/-- A claim whose written form has escapes. -/
def quotedClaim : Claim :=
  .unverified ⟨"a:b"⟩ "é\n"

/-- An instant half a minute before the last. -/
def lateInstant : UInt64 := 18446744073709551585

/-- Half a minute before the end of all instants, a minute is cut short. -/
theorem verify_issue_keyCodec :
    keyCodec.verify (keyCodec.issue quotedClaim lateInstant) 18446744073709551614 =
        .ok ⟨quotedClaim, "", lateInstant, 18446744073709551615⟩ ∧
      keyCodec.verify (keyCodec.issue quotedClaim lateInstant) 18446744073709551615 =
        .error .expired := by
  have hverifies : sampleKey.scheme.verifies (keyCodec.message quotedClaim lateInstant)
      (sampleKey.scheme.sign (keyCodec.message quotedClaim lateInstant)) = true := by
    decide +kernel
  have hscheme : keyCodec.scheme = sampleKey.scheme := rfl
  have hrecognizes : keyCodec.scheme.Recognizes (keyCodec.message quotedClaim lateInstant) := by
    rw [hscheme]
    exact ⟨sampleKey.isSignature_of_verifies hverifies, hverifies⟩
  have hend : min (lateInstant.toNat + keyCodec.lifetime.toNat) (UInt64.size - 1) =
      (18446744073709551615 : UInt64).toNat := by
    decide
  obtain ⟨⟨expiresAt, hexpires, hverify⟩, -⟩ :=
    verify_issue keyCodec quotedClaim lateInstant (by decide +kernel) hrecognizes
  have hlast : expiresAt.toNat = (18446744073709551615 : UInt64).toNat := hexpires.trans hend
  obtain rfl : expiresAt = 18446744073709551615 := UInt64.toNat_inj.1 hlast
  have hbefore : (18446744073709551614 : UInt64) < 18446744073709551615 := by decide
  have hafter : ¬(18446744073709551615 : UInt64) < 18446744073709551615 := by decide
  refine ⟨?_, ?_⟩
  · rw [hverify, if_pos hbefore]
    rfl
  · rw [hverify, if_neg hafter]

end TokenCodec

end Courier
