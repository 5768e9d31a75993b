import Billboard.Log
import Billboard.Refresh

/-! A server that listens: it drains at a signal, ends its refresh task, and closes the store last.
-/

namespace Billboard

inductive ServingEnd where
  | finished
  | failed (reason : String)
  | crashed (reason : String)
deriving DecidableEq, Repr

def ServingEnd.outcome : ServingEnd → Except String Unit
  | .finished => .ok ()
  | .failed reason => .error reason
  | .crashed reason => .error ("server task failed: " ++ reason)

inductive Stage where
  | serving
  | draining
  | winding (outcome : Except String Unit)
  | stopped (outcome : Except String Unit)

structure Lifecycle where
  stage : Stage := .serving
  refresh : Refresh.Loop
  closes : Nat := 0

namespace Lifecycle

inductive Event where
  | servingEnds (e : ServingEnd)
  | signal
  | graceEnds
  | refresh (m : Refresh.Move)
  | storeCloses

def windUp (s : Lifecycle) (outcome : Except String Unit) : Lifecycle :=
  { s with stage := .winding outcome, refresh := { s.refresh with cancelled := true } }

def after? (s : Lifecycle) (e : Event) : Option Lifecycle :=
  match e, s.stage with
  | .servingEnds how, .serving => some (s.windUp how.outcome)
  | .servingEnds how, .draining => some (s.windUp how.outcome)
  | .signal, .serving => some { s with stage := .draining }
  | .graceEnds, .draining => some (s.windUp (.ok ()))
  | .refresh .cancel, _ => none
  | .refresh m, _ => (s.refresh.after? m).map fun l => { s with refresh := l }
  | .storeCloses, .winding outcome =>
    if s.refresh.phase.isOver then
      some { s with stage := .stopped outcome, closes := s.closes + 1 }
    else none
  | _, _ => none

def outcome? (s : Lifecycle) : Option (Except String Unit) :=
  match s.stage with
  | .stopped outcome => some outcome
  | _ => none

def serverLine (level : Log.Level) (message : String) : Log.Line :=
  ⟨level, "banners_server::server", message⟩

def refreshLine (level : Log.Level) (message : String) : Log.Line :=
  ⟨level, "banners_server::refresh", message⟩

def refreshLines (before after : Refresh.Phase) : List Log.Line :=
  let begun := match before, after with
    | .fresh, .fresh => []
    | .fresh, _ => [refreshLine .info "cache refresh loop started"]
    | _, _ => []
  begun ++ if !before.hasEnded && after.hasEnded then
    [refreshLine .info "cache refresh loop stopped"] else []

def lines (s : Lifecycle) : Event → List Log.Line
  | .servingEnds _ => []
  | .signal => [serverLine .info "shutdown signal received"]
  | .graceEnds =>
    [serverLine .warn "shutdown grace period elapsed, dropping in-flight requests"]
  | .refresh m =>
    match s.refresh.after? m with
    | some l => refreshLines s.refresh.phase l.phase
    | none => []
  | .storeCloses =>
    (if s.refresh.phase.hasEnded then []
      else [serverLine .error "refresh loop ended abnormally"])
      ++ [serverLine .info "server stopped"]

def run (s : Lifecycle) : List Event → Lifecycle × List Log.Line
  | [] => (s, [])
  | e :: rest =>
    match s.after? e with
    | none => s.run rest
    | some t =>
      let (last, more) := t.run rest
      (last, s.lines e ++ more)

end Lifecycle

end Billboard
