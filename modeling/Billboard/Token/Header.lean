import Billboard.Json.Shape
import Billboard.Json.Writer

/-! The header of a token. Its registered members have fixed types, and any other member is a
string. -/

namespace Billboard.Token

open Json (Reader Slot)

inductive Algorithm where
  | hs256
  | other
deriving DecidableEq, Repr

def Algorithm.named : List (String × Algorithm) :=
  [("HS256", .hs256), ("HS384", .other), ("HS512", .other), ("ES256", .other), ("ES384", .other),
   ("RS256", .other), ("RS384", .other), ("RS512", .other), ("PS256", .other), ("PS384", .other),
   ("PS512", .other), ("EdDSA", .other)]

namespace Header

def text : String := Json.writeRecord [("typ", .str "JWT"), ("alg", .str "HS256")]

def isText : Json → Bool
  | .str _ => true
  | _ => false

def isTextList : Json → Bool
  | .arr items => items.all isText
  | _ => false

def memberIs (test : Json → Bool) (key : Json) (name : String) : Bool :=
  match key.get? name with
  | none => true
  | some .null => true
  | some v => test v

def hasText (key : Json) (name : String) : Bool := ((key.get? name).map isText).getD false

def hasCurve (key : Json) : Bool :=
  match key.get? "crv" with
  | some (.str c) => ["P-256", "P-384", "P-521", "Ed25519"].contains c
  | _ => false

def isKey (key : Json) : Bool :=
  (match key.get? "kty" with
    | some (.str "EC") => hasCurve key && hasText key "x" && hasText key "y"
    | some (.str "RSA") => hasText key "n" && hasText key "e"
    | some (.str "oct") => hasText key "k"
    | some (.str "OKP") => hasCurve key && hasText key "x"
    | _ => false)
  && ["use", "alg", "kid", "x5u", "x5t", "x5t#S256"].all (memberIs isText key)
  && ["key_ops", "x5c"].all (memberIs isTextList key)

def keyReader : Reader Unit := fun b cs =>
  match Json.any b cs with
  | .error e => .error e
  | .ok (.null, r) => .ok ((), r)
  | .ok (v, r) => if isKey v then .ok ((), r) else .error .malformed

def textSlot (name : String) : Slot Algorithm := .nullable name Json.string fun _ a => a

def slots : List (Slot Algorithm) :=
  [.required "alg" (Json.variant Algorithm.named) fun x _ => x,
   .defaulted "jwk" keyReader fun _ a => a,
   .nullable "x5c" (Json.sequence Json.string) fun _ a => a,
   .nullable "crit" (Json.sequence Json.string) fun _ a => a]
  ++ ["typ", "cty", "jku", "kid", "x5u", "x5t", "x5t#S256", "enc", "zip", "url", "nonce"].map
    textSlot

def reader : Reader Algorithm := Json.record "Header" slots .other

def othersAreText (members : List (String × Json)) : Bool :=
  members.all fun (name, v) => (slots.any (·.name == name)) || isText v

def read? (bytes : ByteArray) : Option Algorithm :=
  match Json.decodeBytes Json.object bytes, Json.decodeBytes reader bytes with
  | .ok members, .ok a => if othersAreText members then some a else none
  | _, _ => none

end Header

end Billboard.Token
