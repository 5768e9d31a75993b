import Billboard.Redis.Command
import Billboard.Table

/-! A Redis server, as far as the cache uses it. Times are milliseconds of its clock. -/

namespace Billboard.Redis

structure Entry where
  payload : ByteArray
  expiresAt : Option Nat := none

def Entry.live (e : Entry) (now : Nat) : Bool :=
  match e.expiresAt with
  | none => true
  | some t => now < t

structure Server where
  strings : Table String Entry := []
  sets : Table String (List String) := []
  expiring : Bool := true
  broken : List String := []
  received : List (List String) := []

namespace Server

def string? (s : Server) (key : String) (now : Nat) : Option ByteArray :=
  match s.strings.get? key with
  | some e => if e.live now then some e.payload else none
  | none => none

def members (s : Server) (key : String) : List String := (s.sets.get? key).getD []

def insertSorted (x : String) : List String → List String
  | [] => [x]
  | y :: rest => if x < y then x :: y :: rest else if x = y then y :: rest
      else y :: insertSorted x rest

def setString (s : Server) (key : String) (e : Entry) : Server :=
  { s with strings := s.strings.insert key e }

def addMember (s : Server) (key member : String) : Server :=
  { s with sets := s.sets.insert key (insertSorted member (s.members key)) }

def remove (s : Server) (key : String) : Server :=
  { s with strings := s.strings.erase key, sets := s.sets.erase key }

def apply (now : Nat) : Command → Server → Reply × Server
  | .ping, s => (.status "PONG", s)
  | .setex key seconds payload, s =>
    let e : Entry := ⟨payload, if s.expiring then some (now + 1000 * seconds) else none⟩
    (.status "OK", s.setString key e)
  | .get key, s => (.bulk (s.string? key now), s)
  | .del key, s =>
    let found := (s.string? key now).isSome || (s.sets.get? key).isSome
    (.integer (if found then 1 else 0), s.remove key)
  | .sadd key member, s =>
    (.integer (if member ∈ s.members key then 0 else 1), s.addMember key member)
  | .smembers key, s => (.array (s.members key), s)

def note (s : Server) (words : List String) : Server := { s with received := words :: s.received }

def refusal : Reply := .error "ERR broken"

def execute (now : Nat) (c : Command) (s : Server) : Reply × Server :=
  let s := s.note c.words
  if c.name ∈ s.broken then (refusal, s) else s.apply now c

def executeAll (now : Nat) : List Command → Server → Option Reply × Server
  | [], s => (none, s)
  | c :: rest, s =>
    let (reply, s) := s.execute now c
    let (later, s) := executeAll now rest s
    (if reply.isError then some reply else later, s)

/-- Answers a request. Commands that are sent together wait in line between `MULTI` and `EXEC`; if
`MULTI` is refused there is no line, and if `EXEC` is refused the line is dropped. -/
def answer (now : Nat) : Request → Server → Reply × Server
  | .one c, s => s.execute now c
  | .atomic cs, s =>
    let s := s.note ["MULTI"]
    if "MULTI" ∈ s.broken then
      let (_, s) := executeAll now cs s
      (refusal, s.note ["EXEC"])
    else if "EXEC" ∈ s.broken then (refusal, s.note ["EXEC"])
    else
      let (failed, s) := executeAll now cs s
      (failed.getD (.status "OK"), s.note ["EXEC"])

end Server

end Billboard.Redis
