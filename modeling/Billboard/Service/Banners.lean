import Billboard.Action
import Billboard.Service.Error

/-! The policy for banners. A read that is neither by an admin nor for the last revision asks the
cache first; what a write means for the cache is tried once and never fails the write. -/

namespace Billboard.Service

open Banner (Draft Filter FeatureFilter)

/-- What a read asks for. The first tag is the one that the cache is asked about. -/
structure ReadRequest where
  feature : FeatureFilter := .all
  tags : List Int := []
  isAdmin : Bool := false
  lastRevision : Bool := false
  offset : Nat := 0
  limit : Nat := 0
deriving DecidableEq, Repr

namespace ReadRequest

def cacheKey? (r : ReadRequest) : Option (Int × Int) :=
  if r.isAdmin || r.lastRevision then none
  else
    match r.feature, r.tags with
    | .only feature, tag :: _ => some (feature, tag)
    | _, _ => none

def toFilter (r : ReadRequest) : Filter :=
  ⟨r.feature, r.tags, !r.isAdmin, r.offset, r.limit⟩

def one (feature tag : Int) (isAdmin lastRevision : Bool) : ReadRequest where
  feature := .only feature
  tags := [tag]
  isAdmin := isAdmin
  lastRevision := lastRevision

end ReadRequest

def listFromStore (r : ReadRequest) : Action (Except ServiceError (List Banner)) := do
  match ← Action.store (.query r.toFilter) with
  | .ok banners => return .ok banners
  | .error e => return .error (.ofStore e)

def list (r : ReadRequest) : Action (Except ServiceError (List Banner)) :=
  match r.cacheKey? with
  | none => listFromStore r
  | some (feature, tag) => do
    match ← Action.cache (.get feature tag) with
    | .ok b => return .ok [b]
    | .error _ => listFromStore r

def pickOne (feature tag : Int) (isAdmin lastRevision : Bool) :
    Action (Except ServiceError Banner) := do
  match ← list (.one feature tag isAdmin lastRevision) with
  | .error e => return .error e
  | .ok [] => return .error .notFound
  | .ok (b :: rest) =>
    let i ← Action.pick rest.length
    return .ok ((b :: rest).get i)

def now : Action Clock.Timestamp := do return (← Action.clock).toMicros

def create (d : Draft) : Action (Except ServiceError Banner) :=
  match d.check with
  | .error flaw => return .error (.ofFlaw flaw)
  | .ok d => do
    let t ← now
    match ← Action.store (.create d t t) with
    | .error e => return .error (.ofStore e)
    | .ok id =>
      let b := Banner.ofDraft id d t t
      let _ ← Action.cache (.put b)
      return .ok b

/-- The cache keeps its copy until the copy expires or the cache is refreshed. -/
def update (id : Int) (d : Draft) : Action (Except ServiceError Unit) :=
  match d.check with
  | .error flaw => return .error (.ofFlaw flaw)
  | .ok d => do
    let t ← now
    match ← Action.store (.update id d t) with
    | .error e => return .error (.ofStore e)
    | .ok () => return .ok ()

def delete (id : Int) : Action (Except ServiceError Unit) := do
  match ← Action.store (.delete id) with
  | .error e => return .error (.ofStore e)
  | .ok () =>
    let _ ← Action.cache (.delete id)
    return .ok ()

def putAll : List Banner → Action (Except RefreshError Unit)
  | [] => return .ok ()
  | b :: rest => do
    match ← Action.cache (.put b) with
    | .error e => return .error (.cache b.id e)
    | .ok () => putAll rest

def refresh : Action (Except RefreshError Nat) := do
  match ← Action.store (.query {}) with
  | .error e => return .error (.store e)
  | .ok banners =>
    match ← putAll banners with
    | .error e => return .error e
    | .ok () => return .ok banners.length

def shutdown : Action Unit := do
  let _ ← Action.store .close
  return ()

end Billboard.Service
