import Billboard.Api.Bodies
import Billboard.Text.Utf8
import Billboard.Text.Split

namespace Billboard.Http

open Text

def formText (cs : List Char) : String :=
  let spaced := cs.map fun c => if c = '+' then ' ' else c
  readableText (percentDecode (String.ofList spaced).toUTF8.toList)

def queryPairs (query : List Char) : List (String × String) :=
  ((splitAt '&' query).filter (· ≠ [])).map fun piece =>
    match cutAt '=' piece with
    | some (name, value) => (formText name, formText value)
    | none => (formText piece, "")

inductive QueryFault where
  | invalid (name reason : String)
  | duplicate (name : String)
  | missing (name : String)
deriving DecidableEq, Repr

def QueryFault.message : QueryFault → String
  | .invalid name reason => name ++ ": " ++ reason
  | .duplicate name => "duplicate field `" ++ name ++ "`"
  | .missing name => "missing field `" ++ name ++ "`"

structure Param (σ : Type) where
  name : String
  read : String → Except String (σ → σ)
  needed : Bool := false

def missingParam (params : List (Param σ)) (seen : List String) : Option String :=
  (params.find? fun p => p.needed && !seen.contains p.name).map (·.name)

def readParams (params : List (Param σ)) : List String → σ → List (String × String) →
    Except QueryFault σ
  | seen, draft, [] =>
    match missingParam params seen with
    | some name => .error (.missing name)
    | none => .ok draft
  | seen, draft, (name, value) :: rest =>
    match params.find? (·.name == name) with
    | none => readParams params seen draft rest
    | some p =>
      if seen.contains name then .error (.duplicate name)
      else
        match p.read value with
        | .error reason => .error (.invalid name reason)
        | .ok put => readParams params (name :: seen) (put draft) rest

def intParam (range : IntRange) (put : Int → σ → σ) (s : String) : Except String (σ → σ) :=
  ((readInt range s.toList).mapError NumeralError.message).map put

def flagParam (put : Bool → σ → σ) (s : String) : Except String (σ → σ) :=
  if s = "true" then .ok (put true)
  else if s = "false" then .ok (put false)
  else .error "provided string was not `true` or `false`"

def pairParams : List (Param Api.PairQuery) :=
  [⟨"feature_id", intParam .i32 fun x q => { q with feature := x }, true⟩,
   ⟨"tag_id", intParam .i32 fun x q => { q with tag := x }, true⟩,
   ⟨"use_last_revision", flagParam fun x q => { q with lastRevision := x }, false⟩]

def listParams : List (Param Api.ListQuery) :=
  [⟨"feature_id", intParam .i32 fun x q => { q with feature := some x }, false⟩,
   ⟨"tag_id", intParam .i32 fun x q => { q with tag := some x }, false⟩,
   ⟨"offset", intParam .u32 fun x q => { q with offset := x.toNat }, false⟩,
   ⟨"limit", intParam .u32 fun x q => { q with limit := x.toNat }, false⟩]

def readQuery (params : List (Param σ)) (start : σ) (query : List Char) : Except ApiError σ :=
  (readParams params [] start (queryPairs query)).mapError fun fault =>
    .badRequest ("Failed to deserialize query string: " ++ fault.message)

end Billboard.Http
