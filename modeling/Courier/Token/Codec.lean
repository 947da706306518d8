import Courier.Text.Base64
import Courier.Text.Blank
import Courier.Text.Quoted
import Courier.Text.Utf8
import Courier.Token.Claim

/-!
# Tokens

A token carries a grant in a form that can be put into a link and that only its issuer can make.  It
has three parts with points between them: a header that names the way of signing, the grant, and
the signature of both as they are written.  The way of signing is a parameter, a
`SignatureScheme`: nothing here depends on how signatures come about.
-/

namespace Courier

/-- A way of signing with one key. -/
structure SignatureScheme where
  /-- The signature of a message. -/
  sign : List UInt8 → List UInt8
  /-- Whether bytes have the form of a signature. -/
  isSignature : List UInt8 → Bool
  /-- Whether the signature, the second argument, is one of the message. -/
  verifies : List UInt8 → List UInt8 → Bool

/-- What is wrong with a text that should be a token. -/
inductive TokenFault where
  /-- There are not three parts. -/
  | parts
  /-- The header cannot be read. -/
  | header
  /-- The header names another way of signing. -/
  | algorithm (name : String)
  /-- The third part is no signature. -/
  | signature
  /-- The signature is one of something else. -/
  | unverified
  /-- The grant cannot be read. -/
  | payload
  deriving DecidableEq

/-- Why a token is refused, or cannot be made. -/
inductive TokenError where
  /-- The grant is void by now. -/
  | expired
  /-- The text is no token of the issuer. -/
  | invalid (fault : TokenFault)
  /-- There is no key to sign with. -/
  | key
  deriving DecidableEq

namespace TokenError

/-- What was refused. -/
def summary : TokenError → String
  | expired => "Token expired"
  | invalid .parts => "Invalid token: expected three dot separated parts"
  | invalid .header => "Invalid token: header"
  | invalid (.algorithm name) => "Invalid token: unsupported algorithm " ++ Text.quoted name
  | invalid .signature => "Invalid token: signature"
  | invalid .unverified => "Invalid token: signature does not verify"
  | invalid .payload => "Invalid token: payload"
  | key => "Invalid signing key"

/-- Why it was refused, where the summary does not say all. -/
def detail? : TokenError → Option String
  | invalid .header => some "no header in the link safe base 64"
  | invalid .signature => some "no signature in the link safe base 64"
  | invalid .payload => some "no grant in the link safe base 64"
  | key => some "no private key of the curve P-256"
  | _ => none

/-- The whole description. -/
def message (e : TokenError) : String :=
  match e.detail? with
  | some detail => e.summary ++ ": " ++ detail
  | none => e.summary

end TokenError

/-- Everything that making and checking tokens needs. -/
structure TokenCodec where
  /-- How tokens are signed. -/
  scheme : SignatureScheme
  /-- Who stands for the claims. -/
  issuer : String
  /-- For how many seconds grants hold. -/
  lifetime : UInt64 := 3600

namespace TokenCodec

/-- The way of signing that headers name. -/
def algorithm : String := "ES256"

/-- The header of every token made. -/
def header : Json :=
  .record [("alg", .text algorithm), ("typ", .text "JWT")]

/-- The sum, or the greatest instant if the sum is greater. -/
def later (instant seconds : UInt64) : UInt64 :=
  .ofNat (min (instant.toNat + seconds.toNat) (UInt64.size - 1))

/-- The grant of the claim made now. -/
def grant (codec : TokenCodec) (claim : Claim) (now : UInt64) : Grant :=
  ⟨claim, codec.issuer, now, later now codec.lifetime⟩

/-- A part of a token that holds a value. -/
def part (value : Json) : String :=
  .ofList (Text.Base64.linkSafe.encode (Text.utf8 value.compact))

/-- The value that a part of a token holds. -/
def value? (part : String) : Option Json :=
  (Text.Base64.linkSafe.decode? part.toList).bind Json.ofBytes?

/-- What is signed: the first two parts as they are written. -/
def signed (header payload : String) : String :=
  header ++ "." ++ payload

/-- The token for the claim made now. -/
def issue (codec : TokenCodec) (claim : Claim) (now : UInt64) : String :=
  let message := signed (part header) (part (codec.grant claim now).toJson)
  message ++ "." ++ .ofList (Text.Base64.linkSafe.encode (codec.scheme.sign (Text.utf8 message)))

/-- The name of the way of signing in a header. -/
def algorithm? (header : Json) : Option String :=
  match Json.fields? ["alg", "typ"] 1 header with
  | some [name, type] => do
    let name ← Json.requiredText? name
    let _ ← Json.optionalText? type
    return name
  | _ => none

/-- The grant that a token carries, whether or not it is void. -/
def read (codec : TokenCodec) (token : String) : Except TokenFault Grant :=
  match Text.split '.' token with
  | [header, payload, signature] =>
    match (value? header).bind algorithm? with
    | none => .error .header
    | some name =>
      if name ≠ algorithm then .error (.algorithm name)
      else
        match Text.Base64.linkSafe.decode? signature.toList with
        | none => .error .signature
        | some bytes =>
          if !codec.scheme.isSignature bytes then .error .signature
          else if !codec.scheme.verifies (Text.utf8 (signed header payload)) bytes then
            .error .unverified
          else
            match (value? payload).bind Grant.ofJson? with
            | some g => .ok g
            | none => .error .payload
  | _ => .error .parts

/-- The grant that a token carries, if it still holds. -/
def verify (codec : TokenCodec) (token : String) (now : UInt64) : Except TokenError Grant :=
  match codec.read token with
  | .error fault => .error (.invalid fault)
  | .ok g => if g.isExpired now then .error .expired else .ok g

end TokenCodec

end Courier
