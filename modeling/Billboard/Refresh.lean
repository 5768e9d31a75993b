import Billboard.Service.Banners

/-! The task that refreshes the cache, at once and then at every tick. Times are milliseconds. -/

namespace Billboard.Refresh

inductive Phase where
  | fresh
  | waiting (due : Nat)
  | calling (due : Nat) (q : Effect) (next : q.Answer → Action (Except RefreshError Nat))
  | ended
  | crashed

def lateness : Nat := 5

def nextDue (period due now : Nat) : Nat :=
  if due + lateness < now then now + period else due + period

namespace Phase

def ofCycle (due : Nat) : Action (Except RefreshError Nat) → Phase
  | .done _ => .waiting due
  | .ask q next => .calling due q next

def start (period now : Nat) : Phase :=
  if period = 0 then .crashed else .ofCycle (now + period) Service.refresh

def tick (period now : Nat) : Phase → Phase
  | .fresh => start period now
  | .waiting due =>
    if due ≤ now then .ofCycle (nextDue period due now) Service.refresh else .waiting due
  | p => p

def resume (answer : (q : Effect) → q.Answer) : Phase → Phase
  | .calling due q next => .ofCycle due (next (answer q))
  | p => p

def cancel (period : Nat) : Phase → Phase
  | .fresh => if period = 0 then .crashed else .ended
  | .crashed => .crashed
  | _ => .ended

def hasEnded : Phase → Bool
  | .ended => true
  | _ => false

def isOver : Phase → Bool
  | .ended => true
  | .crashed => true
  | _ => false

def call? : Phase → Option Effect
  | .calling _ q _ => some q
  | _ => none

end Phase

structure Loop where
  period : Nat
  phase : Phase := .fresh
  cancelled : Bool := false

/-- It looks in no fixed order at what is ready, so that it may take a tick or an answer although it
was told to end. -/
inductive Move where
  | cancel
  | tick (now : Nat)
  | answer (reply : (q : Effect) → q.Answer)
  | notice

namespace Loop

def after? (l : Loop) : Move → Option Loop
  | .cancel => some { l with cancelled := true }
  | .tick now =>
    match l.phase with
    | .fresh => some { l with phase := l.phase.tick l.period now }
    | .waiting due =>
      if due ≤ now then some { l with phase := l.phase.tick l.period now } else none
    | _ => none
  | .answer reply =>
    match l.phase with
    | .calling .. => some { l with phase := l.phase.resume reply }
    | _ => none
  | .notice =>
    if l.cancelled && !l.phase.isOver then some { l with phase := l.phase.cancel l.period } else none

end Loop

end Billboard.Refresh
