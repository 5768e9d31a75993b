import Billboard.Account
import Billboard.Cache.Call
import Billboard.Dialogue
import Billboard.Store.Call

/-! What the service asks of the outside world: its stores, the cache, the clock and chance. -/

namespace Billboard

inductive Effect where
  | store (c : StoreCall)
  | cache (c : CacheCall)
  | account (c : AccountCall)
  | clock
  | salt
  | pick (more : Nat)
deriving DecidableEq, Repr

abbrev Effect.Answer : Effect → Type
  | .store c => c.Answer
  | .cache c => c.Answer
  | .account c => c.Answer
  | .clock => Clock.Timestamp
  | .salt => Vector UInt8 16
  | .pick more => Fin (more + 1)

abbrev Action (α : Type) : Type := Dialogue Effect.Answer α

namespace Action

def store (c : StoreCall) : Action c.Answer := Dialogue.question (Effect.store c)

def cache (c : CacheCall) : Action c.Answer := Dialogue.question (Effect.cache c)

def account (c : AccountCall) : Action c.Answer := Dialogue.question (Effect.account c)

def clock : Action Clock.Timestamp := Dialogue.question Effect.clock

def salt : Action (Vector UInt8 16) := Dialogue.question Effect.salt

def pick (more : Nat) : Action (Fin (more + 1)) := Dialogue.question (Effect.pick more)

end Action

end Billboard
