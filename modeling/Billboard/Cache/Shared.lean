import Billboard.Banner.Wire
import Billboard.Cache.Call
import Billboard.Dialogue
import Billboard.Redis.Server

/-! The cache that several services share through a Redis server, which lets the payloads expire. -/

namespace Billboard

open Banner (payloadKey indexKey)
open Redis (Command Request Reply)

abbrev Exchange (α : Type) : Type := Dialogue (fun _ : Request => Reply) α

namespace SharedCache

def send (r : Request) : Exchange Reply := Dialogue.question r

def unexpected : CacheError := .backend "unexpected reply"

def ping : Exchange (Except CacheError Unit) := do
  match ← send (.one .ping) with
  | .error reason => return .error (.backend reason)
  | _ => return .ok ()

def commands (ttl : Nat) (b : Banner) : List Command :=
  .setex (payloadKey b.id) ttl b.encode
    :: b.indexKeys.map fun key => .sadd key (Text.intText b.id)

def put (ttl : Nat) (b : Banner) : Exchange (Except CacheError Unit) := do
  match ← send (.atomic (commands ttl b)) with
  | .error reason => return .error (.backend reason)
  | _ => return .ok ()

def firstServable (feature tag : Int) : List Int → Exchange (Except CacheError Banner)
  | [] => return .error (.notFound (indexKey feature tag))
  | id :: rest => do
    match ← send (.one (.get (payloadKey id))) with
    | .error reason => return .error (.backend reason)
    | .bulk none => firstServable feature tag rest
    | .bulk (some payload) =>
      match Banner.servable? payload feature tag with
      | some b => return .ok b
      | none => firstServable feature tag rest
    | _ => return .error unexpected

def idsOf (members : List String) : Option (List Int) :=
  members.mapM fun m => (Text.readInt .i64 m.toList).toOption

def get (visit : Visit) (feature tag : Int) : Exchange (Except CacheError Banner) := do
  match ← send (.one (.smembers (indexKey feature tag))) with
  | .error reason => return .error (.backend reason)
  | .array members =>
    match idsOf members with
    | none => return .error unexpected
    | some ids => firstServable feature tag (visit.order ids)
  | _ => return .error unexpected

def delete (id : Int) : Exchange (Except CacheError Unit) := do
  match ← send (.one (.del (payloadKey id))) with
  | .error reason => return .error (.backend reason)
  | .integer n => return if n = 0 then .error (.notFound (payloadKey id)) else .ok ()
  | _ => return .error unexpected

def call (ttl : Nat) (visit : Visit) : (c : CacheCall) → Exchange c.Answer
  | .put b => put ttl b
  | .get feature tag => get visit feature tag
  | .delete id => delete id
  | .ping => ping

def answer (ttl : Nat) (visit : Visit) (now : Nat) (c : CacheCall) (s : Redis.Server) :
    c.Answer × Redis.Server :=
  (call ttl visit c).run (fun r s => s.answer now r) s

end SharedCache

end Billboard
