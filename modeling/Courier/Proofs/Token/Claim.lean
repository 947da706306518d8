import Courier.Proofs.Json.RoundTrip
import Courier.Token.Claim

/-!
# Written claims and grants

A claim whose person has an absolute identifier is read back from its written form, and so is a
grant of it; any other is refused.  So whatever is read from a written grant is that grant.  No
other claims are read from anything.
-/

namespace Courier

lemma Json.isFinite_word (n : UInt64) : (Json.Number.natural n.toNat).isFinite = true := by
  have hbound : 2 ^ 64 ≤ Json.Number.bound := by decide +kernel
  have hn : n.toNat < 2 ^ 64 := n.toNat_lt
  unfold Json.Number.isFinite
  rw [decide_eq_true_eq]
  omega

lemma Json.requiredWord?_word (n : UInt64) : Json.requiredWord? (some (.word n)) = some n := by
  have hn : n.toNat < UInt64.size := n.toNat_lt
  change (if n.toNat < UInt64.size then some (UInt64.ofNat n.toNat) else none) = some n
  rw [if_pos hn, UInt64.ofNat_toNat]

namespace Claim

/-- What a record says of a claim is read, unless the person has no absolute identifier. -/
lemma ofJson?_of_fields {record : Json} {c : Claim}
    (h : Json.fields? ["webId", "email", "emailVerified"] 0 record =
      some [some (.text c.webId.text), some (.text c.email), some (.bool c.isVerified)]) :
    ofJson? record = if Iri.isAbsolute c.webId.text then some c else none := by
  unfold ofJson?
  rw [h]
  simp only [Json.requiredText?, Json.text, Json.requiredBool?, Option.bind_some]
  unfold Iri.ofString?
  split <;> rfl

lemma isTextual_toJson (c : Claim) : c.toJson.IsTextual := by
  simp [toJson, members, Json.record, Json.text, Json.IsTextual, Json.HaveTextual]

/-- Exactly the claims for absolute identifiers are read back. -/
theorem ofJson?_toJson (c : Claim) :
    ofJson? c.toJson = if Iri.isAbsolute c.webId.text then some c else none :=
  ofJson?_of_fields rfl

/-- No claim is read but of a person with an absolute identifier. -/
lemma isAbsolute_of_ofJson? {record : Json} {c : Claim} (h : ofJson? record = some c) :
    Iri.isAbsolute c.webId.text = true := by
  unfold ofJson? at h
  split at h
  next webId email verified hfields =>
    simp only [bind, Option.bind_eq_some_iff] at h
    obtain ⟨i, ⟨text, -, hi⟩, email, -, verified, -, heq⟩ := h
    cases heq
    exact Iri.isAbsolute_of_ofString? hi
  next => cases h

end Claim

namespace Grant

lemma isTextual_toJson (g : Grant) : g.toJson.IsTextual := by
  simp [toJson, Claim.members, Json.record, Json.text, Json.word, Json.IsTextual,
    Json.HaveTextual]

lemma isKeepable_toJson (g : Grant) : g.toJson.isKeepable Json.maxDepth = true := by
  simp [toJson, Claim.members, Json.record, Json.text, Json.word, Json.isKeepable,
    Json.membersKeepable, Json.maxDepth, Json.isFinite_word]

/-- Exactly the grants for absolute identifiers are read back. -/
theorem ofJson?_toJson (g : Grant) :
    ofJson? g.toJson = if Iri.isAbsolute g.claim.webId.text then some g else none := by
  have hclaimed : Json.fields? ["webId", "email", "emailVerified"] 0 g.toJson =
      some [some (.text g.claim.webId.text), some (.text g.claim.email),
        some (.bool g.claim.isVerified)] := rfl
  have hfields : Json.fields? ["iss", "iat", "exp"] 0 g.toJson =
      some [some (.text g.issuer), some (.word g.issuedAt), some (.word g.expiresAt)] := rfl
  have hclaim : Claim.ofJson? g.toJson =
      if Iri.isAbsolute g.claim.webId.text then some g.claim else none :=
    Claim.ofJson?_of_fields hclaimed
  have hread : ofJson? g.toJson = (Claim.ofJson? g.toJson).bind fun claim =>
      some ⟨claim, g.issuer, g.issuedAt, g.expiresAt⟩ := by
    have hkeepable := g.isKeepable_toJson
    generalize hjson : g.toJson = json at *
    obtain ⟨members, rfl⟩ : ∃ members, json = .object members := ⟨_, hjson.symm⟩
    unfold ofJson?
    rw [if_pos hkeepable, hfields]
    simp only [Json.requiredWord?_word, Json.requiredText?, Json.text]
    rfl
  rw [hread, hclaim]
  split <;> rfl

/-- Whatever is read from a written grant is that grant. -/
theorem eq_of_ofJson?_toJson {g h : Grant} (hread : ofJson? g.toJson = some h) : h = g := by
  rw [ofJson?_toJson] at hread
  split at hread
  · exact (Option.some_inj.1 hread).symm
  · cases hread

/-- The claim of a grant that is read is one that is read by itself. -/
lemma ofJson?_claim {record : Json} {g : Grant} (h : ofJson? record = some g) :
    Claim.ofJson? record = some g.claim := by
  unfold ofJson? at h
  split at h
  next members =>
    split at h
    next =>
      split at h
      next issuer issuedAt expiresAt hfields =>
        simp only [bind, Option.bind_eq_some_iff] at h
        obtain ⟨claim, hclaim, issuer, -, issuedAt, -, expiresAt, -, heq⟩ := h
        cases heq
        exact hclaim
      next => cases h
    next => cases h
  next => cases h

end Grant

end Courier
