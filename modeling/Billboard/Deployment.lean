import Billboard.Cache.Local
import Billboard.Http.Server
import Billboard.Refresh
import Billboard.Store.Catalog

/-! The service with its stores in memory, its refresh task and a clock that moves only when it is
told to or when all wait for it. Times are milliseconds since the start. -/

namespace Billboard

inductive Fault where
  | store (e : StoreError)
  | cache (e : CacheError)
  | account (e : AuthError)
deriving DecidableEq, Repr

def Fault.answer? : Fault → (q : Effect) → Option q.Answer
  | .store e, .store _ => some (.error e)
  | .cache e, .cache _ => some (.error e)
  | .account e, .account _ => some (.error e)
  | _, _ => none

structure Gate where
  fault : Option Fault := none
  after : Nat := 0
  delay : Nat := 0
  calls : Nat := 0
deriving DecidableEq, Repr

structure Flight where
  ready : Nat
  fault : Option Fault := none
deriving DecidableEq, Repr

def Gate.admit (g : Gate) (now : Nat) : Flight × Gate :=
  (⟨now + g.delay, if g.after ≤ g.calls then g.fault else none⟩, { g with calls := g.calls + 1 })

structure CallCounts where
  queries : Nat := 0
  store : Nat := 0
  cache : Nat := 0
  closes : Nat := 0
deriving DecidableEq, Repr

structure RefreshTask where
  period : Nat
  phase : Refresh.Phase := .fresh
  flight : Flight := ⟨0, none⟩

structure Deployment where
  now : Nat := 0
  present : Clock.Timestamp
  salt : Vector UInt8 16
  turn : Nat := 0
  catalog : Catalog := {}
  cache : LocalCache
  accounts : Accounts := {}
  storeGate : Gate := {}
  cacheGate : Gate := {}
  createGate : Gate := {}
  findGate : Gate := {}
  counts : CallCounts := {}
  task : Option RefreshTask := none

namespace Deployment

def issue (s : Deployment) : Effect → Flight × Deployment
  | .store .close =>
    (⟨s.now, none⟩, { s with counts := { s.counts with closes := s.counts.closes + 1 } })
  | .store c =>
    let (flight, gate) := s.storeGate.admit s.now
    let queries := match c with
      | .query _ => s.counts.queries + 1
      | _ => s.counts.queries
    (flight, { s with
      storeGate := gate
      counts := { s.counts with queries := queries, store := s.counts.store + 1 } })
  | .cache _ =>
    let (flight, gate) := s.cacheGate.admit s.now
    (flight, { s with
      cacheGate := gate, counts := { s.counts with cache := s.counts.cache + 1 } })
  | .account (.create _) =>
    let (flight, gate) := s.createGate.admit s.now
    (flight, { s with createGate := gate })
  | .account (.find _) =>
    let (flight, gate) := s.findGate.admit s.now
    (flight, { s with findGate := gate })
  | _ => (⟨s.now, none⟩, s)

def serve (s : Deployment) : (q : Effect) → q.Answer × Deployment
  | .store c =>
    let (r, catalog) := s.catalog.answer c
    (r, { s with catalog := catalog })
  | .cache c =>
    let (r, cache) := s.cache.answer (.numbered s.turn) s.now c
    (r, { s with cache := cache })
  | .account c =>
    let (r, accounts) := s.accounts.answer c
    (r, { s with accounts := accounts })
  | .clock => (s.present, s)
  | .salt => (s.salt, s)
  | .pick more => (Fin.ofNat (more + 1) s.turn, s)

def answer (s : Deployment) (flight : Flight) (q : Effect) : q.Answer × Deployment :=
  match flight.fault.bind (·.answer? q) with
  | some r => (r, s)
  | none => s.serve q

def wake? (s : Deployment) : Option Nat :=
  s.task.bind fun t =>
    match t.phase with
    | .fresh => some s.now
    | .waiting due => some due
    | .calling .. => some t.flight.ready
    | .ended => none
    | .crashed => none

def enter (s : Deployment) (period : Nat) (phase : Refresh.Phase) : Deployment :=
  match phase with
  | .calling due q next =>
    let (flight, s) := s.issue q
    { s with task := some ⟨period, .calling due q next, flight⟩ }
  | phase => { s with task := some ⟨period, phase, ⟨s.now, none⟩⟩ }

def runTask (s : Deployment) : Deployment :=
  match s.task with
  | none => s
  | some t =>
    match t.phase with
    | .calling due q next =>
      let (r, s) := s.answer t.flight q
      s.enter t.period (.ofCycle due (next r))
    | phase => s.enter t.period (phase.tick t.period s.now)

def moveTo (s : Deployment) (time : Nat) : Deployment := { s with now := max s.now time }

def runTaskBefore (time : Nat) : Nat → Deployment → Deployment
  | 0, s => s
  | fuel + 1, s =>
    match s.wake? with
    | none => s
    | some w => if w < time then runTaskBefore time fuel (s.moveTo w).runTask else s

/-- Bounds how often the task wakes up before a time: each cycle begins later than the one before
and waits for a query and for each banner. -/
def wakeBound (s : Deployment) (time : Nat) : Nat :=
  (time - s.now + Refresh.lateness + 2) * (s.catalog.rows.length + 3)

def sleepUntil (s : Deployment) (time : Nat) : Deployment :=
  (runTaskBefore time (s.wakeBound time) s).moveTo time

def sleep (s : Deployment) (ms : Nat) : Deployment := s.sleepUntil (s.now + ms)

def runReady (s : Deployment) : Deployment :=
  runTaskBefore (s.now + 1) (s.wakeBound (s.now + 1)) s

def advance (s : Deployment) (ms : Nat) : Deployment :=
  let ready := match s.wake? with
    | some w => decide (w ≤ s.now)
    | none => false
  let s := s.moveTo (s.now + ms)
  if ready then s.runReady else s

def startRefresh (s : Deployment) (period : Nat) : Deployment :=
  { s with task := some { period := period } }

/-- What is ready is taken in no fixed order; here the cancellation is seen last. -/
def stopRefresh (s : Deployment) : Bool × Deployment :=
  let s := s.runReady
  match s.task with
  | none => (false, s)
  | some t =>
    let phase := t.phase.cancel t.period
    (phase.hasEnded, { s with task := some { t with phase := phase } })

def perform (deadline : Option Nat) : Action α → Deployment → Option α × Deployment
  | .done a, s => (some a, s)
  | .ask q next, s =>
    let (flight, s) := s.issue q
    let late := match deadline with
      | some d => decide (d ≤ flight.ready)
      | none => false
    if late then (none, s.sleepUntil (deadline.getD s.now))
    else
      let (r, s) := (s.sleepUntil flight.ready).answer flight q
      perform deadline (next r) s

def run : Action α → Deployment → α × Deployment
  | .done a, s => (a, s)
  | .ask q next, s =>
    let (flight, s) := s.issue q
    let (r, s) := (s.sleepUntil flight.ready).answer flight q
    run (next r) s

def request (s : Deployment) (context : Http.Context) (timeout : Nat) (r : Http.Request) :
    Http.Response × Deployment :=
  if timeout = 0 then (Http.finish r Http.timedOut, s)
  else
    let (response, s) := perform (some (s.now + timeout)) (Http.respond context r) s
    (Http.finish r (response.getD Http.timedOut), s)

end Deployment

end Billboard
