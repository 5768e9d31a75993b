import Billboard.Banner.Wire
import Billboard.Cache.Call
import Billboard.Table

/-! The cache inside the process. Payloads expire, the index never shrinks. Times are milliseconds
of a clock that never goes back. -/

namespace Billboard

structure CacheEntry where
  payload : ByteArray
  cachedAt : Nat
  ttl : Nat

def CacheEntry.expired (e : CacheEntry) (now : Nat) : Bool := e.ttl ≤ now - e.cachedAt

structure LocalCache where
  ttl : Nat
  payloads : Table String CacheEntry := []
  index : Table String (List Int) := []

namespace LocalCache

open Banner (payloadKey indexKey)

def members (c : LocalCache) (key : String) : List Int := (c.index.get? key).getD []

def indexMembers (c : LocalCache) (feature tag : Int) : List Int := c.members (indexKey feature tag)

def keep (c : LocalCache) (id : Int) (payload : ByteArray) (now : Nat) : LocalCache :=
  { c with payloads := c.payloads.insert (payloadKey id) ⟨payload, now, c.ttl⟩ }

def enlist (c : LocalCache) (id : Int) (key : String) : LocalCache :=
  let ids := c.members key
  { c with index := c.index.insert key (if id ∈ ids then ids else ids ++ [id]) }

def live? (c : LocalCache) (id : Int) (now : Nat) : Option ByteArray :=
  match c.payloads.get? (payloadKey id) with
  | some e => if e.expired now then none else some e.payload
  | none => none

def evict (c : LocalCache) (id : Int) (now : Nat) : LocalCache :=
  match c.payloads.get? (payloadKey id) with
  | some e =>
    if e.expired now then { c with payloads := c.payloads.erase (payloadKey id) } else c
  | none => c

def remove (c : LocalCache) (id : Int) (now : Nat) : Bool × LocalCache :=
  ((c.live? id now).isSome, { c with payloads := c.payloads.erase (payloadKey id) })

def firstServable (feature tag : Int) (now : Nat) :
    List Int → LocalCache → Option Banner × LocalCache
  | [], c => (none, c)
  | id :: rest, c =>
    match c.live? id now with
    | none => firstServable feature tag now rest (c.evict id now)
    | some payload =>
      match Banner.servable? payload feature tag with
      | some b => (some b, c)
      | none => firstServable feature tag now rest c

def put (c : LocalCache) (b : Banner) (now : Nat) : LocalCache :=
  b.indexKeys.foldl (fun c key => c.enlist b.id key) (c.keep b.id b.encode now)

def get (c : LocalCache) (visit : Visit) (feature tag : Int) (now : Nat) :
    Except CacheError Banner × LocalCache :=
  match firstServable feature tag now (visit.order (c.indexMembers feature tag)) c with
  | (some b, c) => (.ok b, c)
  | (none, c) => (.error (.notFound (indexKey feature tag)), c)

def delete (c : LocalCache) (id : Int) (now : Nat) : Except CacheError Unit × LocalCache :=
  match c.remove id now with
  | (true, c) => (.ok (), c)
  | (false, c) => (.error (.notFound (payloadKey id)), c)

def answer (visit : Visit) (now : Nat) :
    (c : CacheCall) → LocalCache → c.Answer × LocalCache
  | .put b, s => (.ok (), s.put b now)
  | .get feature tag, s => s.get visit feature tag now
  | .delete id, s => s.delete id now
  | .ping, s => (.ok (), s)

end LocalCache

end Billboard
