import Billboard.Account
import Billboard.Digest.Sha256
import Billboard.Text.Base64
import Billboard.Text.Split
import Billboard.Token.Header

/-! Signed tokens, verified from the outside in: parts, header, signature, claims, time, audience.
-/

namespace Billboard

namespace Token

open Text (Base64)

structure Claims where
  sub : String
  role : Role
  exp : Int
  iat : Int
deriving DecidableEq, Repr

namespace Claims

def isAdmin (c : Claims) : Bool := c.role.isAdmin

def fields (c : Claims) : List (String × Json) :=
  [("sub", .str c.sub), ("role", c.role.toJson), ("exp", .int c.exp), ("iat", .int c.iat)]

def text (c : Claims) : String := Json.writeRecord c.fields

def slots : List (Json.Slot Claims) :=
  [.required "sub" Json.string fun x c => { c with sub := x },
   .required "role" Role.reader fun x c => { c with role := x },
   .required "exp" Json.i64 fun x c => { c with exp := x },
   .required "iat" Json.i64 fun x c => { c with iat := x }]

def reader : Json.Reader Claims := Json.record "Claims" slots ⟨"", .user, 0, 0⟩

end Claims

inductive Flaw where
  | parts
  | base64
  | json
  | algorithm
  | signature
  | noExpiry
  | expired
  | audience
deriving DecidableEq, Repr

def Flaw.toError : Flaw → AuthError
  | .parts => .invalidToken "InvalidToken"
  | .base64 => .invalidToken "Base64 error"
  | .json => .invalidToken "JSON error"
  | .algorithm => .invalidToken "InvalidAlgorithm"
  | .signature => .invalidToken "InvalidSignature"
  | .noExpiry => .invalidToken "Missing required claim: exp"
  | .expired => .tokenExpired
  | .audience => .invalidToken "InvalidAudience"

def bytesOf (s : String) : List UInt8 := s.toUTF8.toList

def encodePart (s : String) : List Char := Base64.urlSafe.encode (bytesOf s)

def decodePart (cs : List Char) : Except Flaw ByteArray :=
  match Base64.urlSafe.decode? cs with
  | some bytes => .ok ⟨bytes.toArray⟩
  | none => .error .base64

def sign (secret : List UInt8) (signed : List Char) : List UInt8 :=
  Digest.hmacSha256 secret (bytesOf (String.ofList signed))

def signedPart (c : Claims) : List Char := encodePart Header.text ++ '.' :: encodePart c.text

def encode (secret : List UInt8) (c : Claims) : String :=
  String.ofList (signedPart c ++ '.' :: Base64.urlSafe.encode (sign secret (signedPart c)))

structure Parts where
  signed : List Char
  header : List Char
  claims : List Char
  signature : List Char
deriving DecidableEq, Repr

def split? (cs : List Char) : Option Parts := do
  let (signed, signature) ← Text.cutAtLast '.' cs
  let (header, claims) ← Text.cutAtLast '.' signed
  return ⟨signed, header, claims, signature⟩

def looseDate : Json.Reader Unit := fun b cs =>
  match Json.skipSpace cs with
  | '[' :: r =>
    match Json.skipSpace r with
    | ']' :: r => .ok ((), r)
    | _ => .error .malformed
  | '{' :: r =>
    match Json.skipSpace r with
    | '}' :: r => .ok ((), r)
    | _ => .error .malformed
  | r => Json.mapped (fun _ => ()) Json.any b r

def audienceSlots : List (Json.Slot (Option Json)) :=
  [.defaulted "exp" Json.any fun _ a => a, .defaulted "nbf" looseDate fun _ a => a,
   .nullable "sub" Json.any fun _ a => a, .nullable "iss" Json.any fun _ a => a,
   .nullable "aud" Json.any fun x _ => x]

def audienceReader : Json.Reader (Option Json) := Json.record "Registered" audienceSlots none

def namesAudience : Option Json → Bool
  | none => false
  | some (.str _) => true
  | some v => Header.isTextList v

def readClaims (bytes : ByteArray) : Except Flaw (Claims × Bool) :=
  match Json.decodeBytes Claims.reader bytes, Json.decodeBytes audienceReader bytes with
  | .ok c, .ok audience => .ok (c, namesAudience audience)
  | _, _ => .error .json

/-- No service is named as an audience, so a token that names one is meant for someone else. -/
def check (secret : List UInt8) (now : Int) (token : String) : Except Flaw Claims :=
  match split? token.toList with
  | none => .error .parts
  | some p => do
    let header ← decodePart p.header
    match Header.read? header with
    | none => .error .json
    | some .other => .error .algorithm
    | some .hs256 =>
      let signature ← decodePart p.signature
      if signature.data.toList ≠ sign secret p.signed then .error .signature
      else
        let payload ← decodePart p.claims
        let (c, audience) ← readClaims payload
        if c.exp < 0 then .error .noExpiry
        else if c.exp < now then .error .expired
        else if audience then .error .audience
        else .ok c

def verify (secret : List UInt8) (now : Int) (token : String) : Except AuthError Claims :=
  (check secret now token).mapError Flaw.toError

end Token

structure Signer where
  secret : List UInt8
  lifetime : Int
deriving DecidableEq, Repr

namespace Signer

def latest : Int := 9223372036854775807

def new (secret : String) (lifetime : Nat) : Signer :=
  ⟨Token.bytesOf secret, min lifetime latest⟩

def claims (s : Signer) (now : Int) (username : String) (role : Role) : Token.Claims :=
  ⟨username, role, min (now + s.lifetime) latest, now⟩

def issue (s : Signer) (now : Int) (username : String) (role : Role) : String :=
  Token.encode s.secret (s.claims now username role)

def verify (s : Signer) (now : Int) (token : String) : Except AuthError Token.Claims :=
  Token.verify s.secret now token

def describe (s : Signer) : String :=
  "JwtService \x7b ttl_secs: " ++ Text.intText s.lifetime ++ ", .. \x7d"

end Signer

end Billboard
