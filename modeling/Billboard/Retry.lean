import Billboard.Json.Writer

/-! Waits between attempts to connect. A policy counts milliseconds, a clock may count finer. -/

namespace Billboard

structure RetryPolicy where
  initialDelay : Nat := 1000
  maxDelay : Nat := 10000
  maxWait : Nat := 60000
deriving DecidableEq, Repr

namespace RetryPolicy

def wordMax : Nat := 0xffffffffffffffff

def delay (p : RetryPolicy) (attempt : Nat) : Nat :=
  let factor := min (Nat.pow 2 (min (attempt - 1) 64)) wordMax
  min (min (p.initialDelay * factor) wordMax) p.maxDelay

def next? (p : RetryPolicy) (ticks attempt elapsed : Nat) : Option Nat :=
  let wait := p.delay attempt * ticks
  if p.maxWait * ticks < elapsed + wait then none else some wait

def fields (p : RetryPolicy) : List (String × Json) :=
  [("initial_delay_ms", .int p.initialDelay), ("max_delay_ms", .int p.maxDelay),
   ("max_wait_ms", .int p.maxWait)]

end RetryPolicy

structure Attempt (ε α : Type) where
  duration : Nat
  result : Except ε α

structure Connection (ε α : Type) where
  starts : List Nat
  elapsed : Nat
  result : Option (Except ε α)

namespace RetryPolicy

variable {ε α : Type}

def connectFrom (p : RetryPolicy) (ticks : Nat) : Nat → Nat → List (Attempt ε α) → Connection ε α
  | _, elapsed, [] => ⟨[], elapsed, none⟩
  | k, elapsed, a :: rest =>
    let ended := elapsed + a.duration
    match a.result with
    | .ok v => ⟨[elapsed], ended, some (.ok v)⟩
    | .error e =>
      match p.next? ticks k ended with
      | none => ⟨[elapsed], ended, some (.error e)⟩
      | some wait =>
        let run := p.connectFrom ticks (k + 1) (ended + wait) rest
        { run with starts := elapsed :: run.starts }

def connectBy (p : RetryPolicy) (ticks : Nat) (attempts : List (Attempt ε α)) : Connection ε α :=
  p.connectFrom ticks 1 0 attempts

def connect (p : RetryPolicy) (attempts : List (Attempt ε α)) : Connection ε α :=
  p.connectBy 1 attempts

end RetryPolicy

end Billboard
