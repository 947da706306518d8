import Courier.Proofs.Text.Base64
import Courier.Proofs.Text.Blank
import Courier.Proofs.Token.Claim
import Courier.Token.Codec

/-!
# What tokens say

A token is refused unless its signature verifies for the first two parts as they are written.  If
these two parts are what was signed for a grant, then the token carries that very grant: a part has
no point in it, so the two parts can be told from what was signed, and a part is read back as the
value that it was written for.  What is signed therefore determines what a token says.

A token that was issued says what it was issued for and ends with the signature of this
(`SignatureScheme.IsSignedFor`), whatever the scheme makes of its own signatures.
-/

namespace Courier

/-- Whether the token shows that the message was signed, as far as the scheme can tell. -/
def SignatureScheme.Authenticates (scheme : SignatureScheme) (token : String)
    (message : List UInt8) : Prop :=
  ∃ header payload signature bytes, Text.split '.' token = [header, payload, signature] ∧
    Text.Base64.linkSafe.decode? signature.toList = some bytes ∧
    message = Text.utf8 (TokenCodec.signed header payload) ∧
    scheme.verifies message bytes = true

/-- Whether the token was signed for the claim: it has exactly three parts with points between them,
of which the first names the way of signing, the second says a grant of the claim and the third is
the signature of the first two as they are written. -/
def SignatureScheme.IsSignedFor (scheme : SignatureScheme) (token : String) (claim : Claim) :
    Prop :=
  ∃ header payload signature g, token = header ++ "." ++ payload ++ "." ++ signature ∧
    (∀ part ∈ [header, payload, signature], '.' ∉ part.toList) ∧
    (TokenCodec.value? header).bind TokenCodec.algorithm? = some "ES256" ∧
    (TokenCodec.value? payload).bind Grant.ofJson? = some g ∧ g.claim = claim ∧
    Text.Base64.linkSafe.decode? signature.toList =
      some (scheme.sign (Text.utf8 (header ++ "." ++ payload)))

namespace TokenCodec

/-- The message that is signed for a claim. -/
def message (codec : TokenCodec) (claim : Claim) (now : UInt64) : List UInt8 :=
  Text.utf8 (signed (part header) (part (codec.grant claim now).toJson))

/-- A token has the signature of its message at its end. -/
theorem issue_eq (codec : TokenCodec) (claim : Claim) (now : UInt64) :
    codec.issue claim now =
      signed (part header) (part (codec.grant claim now).toJson) ++ "." ++
        .ofList (Text.Base64.linkSafe.encode (codec.scheme.sign (codec.message claim now))) :=
  rfl

/-! ### Parts -/

/-- Bytes are read back from a part. -/
lemma decode?_ofList_encode (bytes : List UInt8) :
    Text.Base64.linkSafe.decode? (String.ofList (Text.Base64.linkSafe.encode bytes)).toList =
      some bytes := by
  rw [String.toList_ofList]
  exact Text.Base64.decode?_encode Text.Base64.isFaithful_linkSafe bytes

/-- A part is read back as the value that it was written for. -/
theorem value?_part {v : Json} (h : v.IsTextual) : value? (part v) = some v := by
  unfold value? part
  rw [decode?_ofList_encode, Option.bind_some]
  exact Json.ofBytes?_utf8_compact h

/-- Bytes are written without a point. -/
lemma point_notMem_encode (bytes : List UInt8) :
    '.' ∉ (String.ofList (Text.Base64.linkSafe.encode bytes)).toList := by
  rw [String.toList_ofList]
  intro hmem
  rcases Text.Base64.isAlphanum_of_mem_encode hmem with hpoint | hpoint | hpoint
  all_goals exact absurd hpoint (by decide)

lemma point_notMem_part (v : Json) : '.' ∉ (part v).toList :=
  point_notMem_encode _

lemma isTextual_header : header.IsTextual := by
  simp [header, Json.record, Json.text, Json.IsTextual, Json.HaveTextual]

/-- The header of every token made names the way of signing. -/
lemma algorithm?_part_header : (value? (part header)).bind algorithm? = some algorithm := by
  rw [value?_part isTextual_header]
  rfl

/-- A grant for an absolute identifier is read back from its part. -/
lemma ofJson?_part {g : Grant} (hperson : Iri.isAbsolute g.claim.webId.text = true) :
    (value? (part g.toJson)).bind Grant.ofJson? = some g := by
  rw [value?_part g.isTextual_toJson, Option.bind_some, Grant.ofJson?_toJson]
  exact if_pos hperson

/-- What is signed shows the two parts. -/
lemma split_signed {header payload : String} (hheader : '.' ∉ header.toList)
    (hpayload : '.' ∉ payload.toList) :
    Text.split '.' (signed header payload) = [header, payload] := by
  have hsplit := Text.split_append hheader payload
  rw [Text.split_of_notMem hpayload] at hsplit
  exact hsplit

/-- The three parts of a text are what stands between its points. -/
lemma split_eq_parts_iff {token header payload signature : String} :
    Text.split '.' token = [header, payload, signature] ↔
      token = header ++ "." ++ payload ++ "." ++ signature ∧
        ∀ part ∈ [header, payload, signature], '.' ∉ part.toList := by
  have hpoint : String.singleton '.' = "." := rfl
  constructor
  · intro hsplit
    obtain ⟨tail, htoken, htail⟩ := Text.exists_of_split_eq_cons hsplit
    obtain ⟨last, hrest, hlast⟩ := Text.exists_of_split_eq_cons htail
    obtain rfl : last = signature := Text.eq_of_split_eq_singleton hlast
    refine ⟨?_, ?_⟩
    · rw [htoken, hrest, hpoint]
      simp only [String.append_assoc]
    · intro part hpart
      rw [← hsplit] at hpart
      exact Text.notMem_of_mem_split hpart
  · rintro ⟨rfl, hparts⟩
    have hrow : header ++ "." ++ payload ++ "." ++ signature =
        header ++ .singleton '.' ++ (payload ++ .singleton '.' ++ signature) := by
      rw [hpoint]
      simp only [String.append_assoc]
    rw [hrow, Text.split_append (hparts header (by simp)),
      Text.split_append (hparts payload (by simp)),
      Text.split_of_notMem (hparts signature (by simp))]

/-! ### Reading -/

/-- When a token carries a grant. -/
theorem read_eq_ok_iff {codec : TokenCodec} {token : String} {g : Grant} :
    codec.read token = .ok g ↔
      ∃ header payload signature bytes, Text.split '.' token = [header, payload, signature] ∧
        (value? header).bind algorithm? = some algorithm ∧
        Text.Base64.linkSafe.decode? signature.toList = some bytes ∧
        codec.scheme.isSignature bytes = true ∧
        codec.scheme.verifies (Text.utf8 (signed header payload)) bytes = true ∧
        (value? payload).bind Grant.ofJson? = some g := by
  constructor
  · intro h
    unfold read at h
    split at h
    case h_2 => cases h
    case h_1 header payload signature hsplit =>
      split at h
      case h_1 => cases h
      case h_2 name halgorithm =>
        split_ifs at h with hname
        split at h
        case h_1 => cases h
        case h_2 bytes hbytes =>
          split_ifs at h with hsignature hverifies
          split at h
          case h_2 => cases h
          case h_1 g' hgrant =>
            cases h
            obtain rfl : name = algorithm := not_not.1 hname
            rw [Bool.not_eq_true', Bool.not_eq_false] at hsignature hverifies
            exact ⟨header, payload, signature, bytes, hsplit, halgorithm, hbytes, hsignature,
              hverifies, hgrant⟩
  · rintro ⟨header, payload, signature, bytes, hsplit, halgorithm, hbytes, hsignature, hverifies,
      hgrant⟩
    unfold read
    simp only [hsplit, halgorithm, hbytes, hsignature, hverifies, hgrant]
    simp

/-- Whatever is read from a token was signed, going by the scheme, and is the grant for which it
was signed. -/
theorem exists_authenticates_of_read {codec : TokenCodec} {token : String} {g : Grant}
    (h : codec.read token = .ok g) :
    ∃ message, codec.scheme.Authenticates token message ∧
      ∀ (codec' : TokenCodec) (claim : Claim) (now : UInt64),
        message = codec'.message claim now → g = codec'.grant claim now := by
  obtain ⟨header, payload, signature, bytes, hsplit, -, hbytes, -, hverifies, hgrant⟩ :=
    read_eq_ok_iff.1 h
  refine ⟨_, ⟨header, payload, signature, bytes, hsplit, hbytes, rfl, hverifies⟩, ?_⟩
  intro codec' claim now hmessage
  -- Neither part of the token has a point, hence they are the parts that were signed.
  have hpoint : ∀ piece ∈ [header, payload, signature], '.' ∉ piece.toList := by
    intro piece hpiece
    rw [← hsplit] at hpiece
    exact Text.notMem_of_mem_split hpiece
  have hparts := congrArg (Text.split '.') (Text.utf8_injective hmessage)
  rw [split_signed (hpoint header (by simp)) (hpoint payload (by simp)),
    split_signed (point_notMem_part _) (point_notMem_part _)] at hparts
  have hpayload : payload = part (codec'.grant claim now).toJson :=
    (List.cons.inj (List.cons.inj hparts).2).1
  rw [hpayload, value?_part (Grant.isTextual_toJson _), Option.bind_some] at hgrant
  exact Grant.eq_of_ofJson?_toJson hgrant

/-- Whoever a token that can be read is about has an absolute identifier. -/
lemma isAbsolute_of_read {codec : TokenCodec} {token : String} {g : Grant}
    (h : codec.read token = .ok g) : Iri.isAbsolute g.claim.webId.text = true := by
  obtain ⟨header, payload, signature, bytes, -, -, -, -, -, hpayload⟩ := read_eq_ok_iff.1 h
  obtain ⟨record, -, hgrant⟩ := Option.bind_eq_some_iff.1 hpayload
  exact Claim.isAbsolute_of_ofJson? (Grant.ofJson?_claim hgrant)

/-- A token that is accepted is one that can be read. -/
lemma read_of_verify {codec : TokenCodec} {token : String} {now : UInt64} {g : Grant}
    (h : codec.verify token now = .ok g) : codec.read token = .ok g := by
  unfold verify at h
  split at h
  · cases h
  next g' hread =>
    split at h
    · cases h
    · cases h
      exact hread

/-! ### Tokens issued -/

/-- The pieces of a token that was issued. -/
lemma split_issue (codec : TokenCodec) (claim : Claim) (now : UInt64) :
    Text.split '.' (codec.issue claim now) =
      [part header, part (codec.grant claim now).toJson,
        .ofList (Text.Base64.linkSafe.encode (codec.scheme.sign (codec.message claim now)))] := by
  rw [split_eq_parts_iff]
  refine ⟨codec.issue_eq claim now, ?_⟩
  simp only [List.forall_mem_cons]
  exact ⟨point_notMem_part _, point_notMem_part _, point_notMem_encode _, by simp⟩

/-- A token that was issued shows at most that its own message was signed. -/
theorem eq_of_authenticates_issue {codec : TokenCodec} {claim : Claim} {now : UInt64}
    {message : List UInt8} (h : codec.scheme.Authenticates (codec.issue claim now) message) :
    message = codec.message claim now := by
  obtain ⟨head, payload, signature, bytes, hsplit, -, rfl, -⟩ := h
  rw [split_issue] at hsplit
  obtain ⟨hhead, hrest⟩ := List.cons.inj hsplit
  obtain ⟨hpayload, -⟩ := List.cons.inj hrest
  rw [← hhead, ← hpayload]
  rfl

/-- A token that was issued for an absolute identifier was signed for its claim. -/
theorem isSignedFor_issue (codec : TokenCodec) (claim : Claim) (now : UInt64)
    (hperson : Iri.isAbsolute claim.webId.text = true) :
    codec.scheme.IsSignedFor (codec.issue claim now) claim := by
  obtain ⟨htoken, hparts⟩ := split_eq_parts_iff.1 (codec.split_issue claim now)
  exact ⟨_, _, _, codec.grant claim now, htoken, hparts, algorithm?_part_header,
    ofJson?_part hperson, rfl, decode?_ofList_encode _⟩

/-- The codec with other signatures; which signatures verify is left as it is. -/
def withSign (codec : TokenCodec) (sign : List UInt8 → List UInt8) : TokenCodec :=
  { codec with scheme := { codec.scheme with sign } }

/-- With other signatures the token is the same exactly if the signature of its message is. -/
theorem issue_withSign_iff {codec : TokenCodec} {sign : List UInt8 → List UInt8} {claim : Claim}
    {now : UInt64} : (codec.withSign sign).issue claim now = codec.issue claim now ↔
      sign (codec.message claim now) = codec.scheme.sign (codec.message claim now) := by
  have hmessage : (codec.withSign sign).message claim now = codec.message claim now := rfl
  have hgrant : (codec.withSign sign).grant claim now = codec.grant claim now := rfl
  rw [issue_eq, issue_eq, hmessage, hgrant, String.append_right_inj, String.ofList_inj]
  exact (Text.Base64.encode_injective Text.Base64.isFaithful_linkSafe).eq_iff

/-- A token that was issued for an absolute identifier carries its grant, if the scheme recognizes
its own signature. -/
theorem read_issue {codec : TokenCodec} {claim : Claim} {now : UInt64}
    (hperson : Iri.isAbsolute claim.webId.text = true)
    (hform : codec.scheme.isSignature (codec.scheme.sign (codec.message claim now)) = true)
    (hverifies : codec.scheme.verifies (codec.message claim now)
      (codec.scheme.sign (codec.message claim now)) = true) :
    codec.read (codec.issue claim now) = .ok (codec.grant claim now) := by
  rw [read_eq_ok_iff]
  exact ⟨_, _, _, _, codec.split_issue claim now, algorithm?_part_header, decode?_ofList_encode _,
    hform, hverifies, ofJson?_part hperson⟩

/-- Every token that can be read is accepted until its grant is void, and is expired from then
on. -/
theorem verify_eq_of_read {codec : TokenCodec} {token : String} {g : Grant}
    (h : codec.read token = .ok g) (now : UInt64) :
    codec.verify token now = if now < g.expiresAt then .ok g else .error .expired := by
  have hexpired : g.isExpired now = true ↔ ¬now < g.expiresAt := by
    unfold Grant.isExpired
    rw [decide_eq_true_iff, UInt64.not_lt]
  unfold verify
  rw [h]
  by_cases hnow : now < g.expiresAt
  · rw [if_pos hnow]
    exact if_neg fun hvoid => hexpired.1 hvoid hnow
  · rw [if_neg hnow]
    exact if_pos (hexpired.2 hnow)

/-- A token is accepted as long as its grant holds. -/
lemma verify_of_read {codec : TokenCodec} {token : String} {now : UInt64} {g : Grant}
    (h : codec.read token = .ok g) (hnow : g.isExpired now = false) :
    codec.verify token now = .ok g := by
  unfold Grant.isExpired at hnow
  rw [decide_eq_false_iff_not, UInt64.not_le] at hnow
  rw [verify_eq_of_read h, if_pos hnow]

/-- A token that was issued has no blanks. -/
lemma not_isBlank_of_mem_issue {codec : TokenCodec} {claim : Claim} {now : UInt64} {c : Char}
    (h : c ∈ (codec.issue claim now).toList) : Text.isBlank c = false := by
  have hdigit : ∀ n < 64, Text.isBlank (Text.Base64.linkSafe.digit n) = false := by decide
  have hencode : ∀ bytes, c ∈ Text.Base64.linkSafe.encode bytes → Text.isBlank c = false := by
    intro bytes hc
    obtain ⟨n, hn, rfl⟩ := Text.Base64.exists_of_mem_encode hc
    exact hdigit n hn
  have hpoint : Text.isBlank '.' = false := by decide
  rw [issue_eq, signed] at h
  simp only [String.toList_append, List.mem_append, part, String.toList_ofList] at h
  rcases h with (((h | h) | h) | h) | h
  · exact hencode _ h
  · obtain rfl : c = '.' := by simpa using h
    exact hpoint
  · exact hencode _ h
  · obtain rfl : c = '.' := by simpa using h
    exact hpoint
  · exact hencode _ h

end TokenCodec

end Courier
