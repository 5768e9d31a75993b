import Billboard.Lifecycle
import Billboard.Proofs.Refresh.Cycles
import Billboard.Proofs.Trace
import Mathlib.Data.List.Infix

/-! What is seen of a server and of its refresh task, in order. -/

namespace Billboard

def Stage.settled? : Stage → Option (Except String Unit)
  | .winding outcome => some outcome
  | .stopped outcome => some outcome
  | _ => none

def Stage.hasStopped : Stage → Bool
  | .stopped _ => true
  | _ => false

namespace Lifecycle

open Refresh (Standing Moved)

def Event.settles? : Event → Option (Except String Unit)
  | .servingEnds how => some how.outcome
  | .graceEnds => some (.ok ())
  | _ => none

inductive Sign where
  | refresh (a : Refresh.Sign)
  | tells
  | closes

def signs (s : Lifecycle) : Event → List Sign
  | .servingEnds _ => [.tells]
  | .signal => []
  | .graceEnds => [.tells]
  | .refresh m => (s.refresh.signs m).map .refresh
  | .storeCloses => [.closes]

/-- A server that listens has come to a state by events, and this has been seen of it. -/
def Run (period : Nat) (events : List Event) (history : List Sign) (s : Lifecycle) : Prop :=
  ∃ passages : List (Passage Lifecycle Event),
    Trace (fun s e t => s.after? e = some t) { refresh := { period } } passages s ∧
    events = passages.reverse.map Passage.move ∧
    history = passages.reverse.flatMap fun p => p.before.signs p.move

lemma Run.nil {period : Nat} : Run period [] [] { refresh := { period } } := ⟨[], .nil, rfl, rfl⟩

lemma Run.snoc {period : Nat} {events : List Event} {history : List Sign} {s t : Lifecycle}
    {e : Event} (h : Run period events history s) (hafter : s.after? e = some t) :
    Run period (events ++ [e]) (history ++ s.signs e) t := by
  obtain ⟨passages, trace, rfl, rfl⟩ := h
  refine ⟨_, trace.cons hafter, ?_, ?_⟩
  · rw [List.reverse_cons, List.map_append]
    rfl
  · rw [List.reverse_cons, List.flatMap_append, List.flatMap_singleton]

lemma run_exists {period : Nat} {events : List Event} {history : List Sign} {s : Lifecycle}
    (h : Run period events history s) (later : List Event) : ∃ happened history',
      happened.Sublist later ∧ Run period (events ++ happened) history' (s.run later).1 := by
  induction later generalizing events history s with
  | nil => exact ⟨[], history, .slnil, by rwa [List.append_nil]⟩
  | cons e later ih =>
    rw [run]
    cases hafter : s.after? e with
    | none =>
      obtain ⟨happened, history', hsub, hrun⟩ := ih h
      exact ⟨happened, history', hsub.cons e, hrun⟩
    | some t =>
      obtain ⟨happened, history', hsub, hrun⟩ := ih (h.snoc hafter)
      refine ⟨e :: happened, history', hsub.cons_cons e, ?_⟩
      rwa [List.append_assoc, List.singleton_append] at hrun

inductive Turned (s : Lifecycle) : Event → List Sign → Lifecycle → Prop
  | drains (hstage : s.stage = .serving) : Turned s .signal [] { s with stage := .draining }
  | winds {e : Event} {outcome : Except String Unit} (he : e.settles? = some outcome)
      (hstage : s.stage.settled? = none) : Turned s e [.tells] (s.windUp outcome)
  | refreshes {m : Refresh.Move} {signs : List Refresh.Sign} {l : Refresh.Loop}
      (hmoved : Moved s.refresh m signs l) (hsame : l.cancelled = s.refresh.cancelled) :
      Turned s (.refresh m) (signs.map .refresh) { s with refresh := l }
  | closes {outcome : Except String Unit} (hstage : s.stage = .winding outcome)
      (hover : s.refresh.phase.isOver = true) :
      Turned s .storeCloses [.closes] { s with stage := .stopped outcome, closes := s.closes + 1 }

lemma turned_of_after? {s t : Lifecycle} {e : Event} (h : s.after? e = some t) :
    Turned s e (s.signs e) t := by
  obtain ⟨stage, refresh, closes⟩ := s
  cases e with
  | servingEnds how =>
    cases stage with
    | serving =>
      cases h
      exact .winds rfl rfl
    | draining =>
      cases h
      exact .winds rfl rfl
    | _ => cases h
  | signal =>
    cases stage with
    | serving =>
      cases h
      exact .drains rfl
    | _ => cases h
  | graceEnds =>
    cases stage with
    | draining =>
      cases h
      exact .winds rfl rfl
    | _ => cases h
  | refresh m =>
    have hmove : m ≠ .cancel ∧ (refresh.after? m).map (fun l => (⟨stage, l, closes⟩ : Lifecycle)) =
        some t := by
      cases m with
      | cancel => cases h
      | _ => exact ⟨nofun, h⟩
    obtain ⟨hm, hmap⟩ := hmove
    obtain ⟨l, hl, rfl⟩ := Option.map_eq_some_iff.mp hmap
    have hmoved := Refresh.moved_of_after? hl
    exact .refreshes hmoved (hmoved.cancelled_eq hm)
  | storeCloses =>
    cases stage with
    | winding outcome =>
      simp only [after?] at h
      split_ifs at h with hover
      cases h
      exact .closes rfl hover
    | _ => cases h

/-- What a watcher remembers: where the refresh task stands, whether it was told to end, and whether
the store was closed. -/
structure Watch where
  loop : Standing := .fresh
  told : Bool := false
  closed : Bool := false

namespace Watch

def after? (w : Watch) : Sign → Option Watch
  | .refresh a =>
    if a.heeds && !w.told then none else (w.loop.after? a).map fun loop => { w with loop }
  | .tells => if w.told then none else some { w with told := true }
  | .closes =>
    if w.told && w.loop = .over && !w.closed then some { w with closed := true } else none

def through (w : Watch) (history : List Sign) : Option Watch := history.foldlM after? w

lemma through_append (w : Watch) (history later : List Sign) :
    w.through (history ++ later) = (w.through history).bind (·.through later) :=
  List.foldlM_append

lemma through_cons {w w' : Watch} {a : Sign} {later : List Sign} :
    w.through (a :: later) = some w' ↔
      ∃ w₁, w.after? a = some w₁ ∧ w₁.through later = some w' := by
  rw [through, List.foldlM_cons]
  exact Option.bind_eq_some_iff

end Watch

def Sign.begins : Sign → Bool
  | .refresh .begins => true
  | _ => false

def Sign.ends : Sign → Bool
  | .refresh (.finishes _) => true
  | .refresh .abandons => true
  | _ => false

def begun (history : List Sign) : Nat := history.countP Sign.begins

def finished (history : List Sign) : Nat := history.countP Sign.ends

lemma begun_snoc (history : List Sign) (a : Sign) :
    begun (history ++ [a]) = begun history + a.begins.toNat := by
  rw [begun, List.countP_append, List.countP_singleton]
  cases a.begins <;> rfl

lemma finished_snoc (history : List Sign) (a : Sign) :
    finished (history ++ [a]) = finished history + a.ends.toNat := by
  rw [finished, List.countP_append, List.countP_singleton]
  cases a.ends <;> rfl

def underWay : Standing → Nat
  | .within => 1
  | _ => 0

lemma underWay_of_after? {st st' : Standing} {a : Refresh.Sign} (h : st.after? a = some st') :
    underWay st + (Sign.refresh a).begins.toNat = underWay st' + (Sign.refresh a).ends.toNat := by
  cases st <;> cases a <;> cases h <;> rfl

structure Known (history : List Sign) (w : Watch) : Prop where
  cycles : begun history = finished history + underWay w.loop
  told : w.told = true ↔ .tells ∈ history
  ended : w.loop = .over ↔ .refresh .leaves ∈ history ∨ .refresh .breaks ∈ history
  fresh : w.loop = .fresh → ∀ a, .refresh a ∉ history
  broken : .refresh .breaks ∈ history → .refresh .begins ∉ history
  closed : w.closed = true ↔ .closes ∈ history
  closed_last : w.closed = true → w.told = true ∧ w.loop = .over

lemma known_nil : Known [] {} where
  cycles := rfl
  told := by simp
  ended := by simp
  fresh := by simp
  broken := by simp
  closed := by simp
  closed_last := nofun

namespace Known

variable {history : List Sign} {w w' : Watch}

lemma snoc_refresh (hk : Known history w) {a : Refresh.Sign} {loop : Standing}
    (h : w.loop.after? a = some loop) : Known (history ++ [.refresh a]) { w with loop } := by
  -- a task of which something is seen is not over, so the store is still open
  obtain ⟨hnotOver, hover⟩ := Standing.over_iff_of_after? h
  obtain ⟨hnotFresh, hfresh⟩ := Standing.fresh_of_after? h
  have hmem : ∀ b, Sign.refresh b ∈ history ++ [.refresh a] ↔ .refresh b ∈ history ∨ b = a := by
    simp
  refine ⟨?_, ?_, ?_, fun hl => (hnotFresh hl).elim, fun hbreaks hbegins => ?_, ?_,
    fun hclosed => (hnotOver (hk.closed_last hclosed).2).elim⟩
  · have hcycles := hk.cycles
    have hway := underWay_of_after? h
    show begun _ = finished _ + underWay loop
    rw [begun_snoc, finished_snoc]
    omega
  · simpa using hk.told
  · have hnone := mt hk.ended.mpr hnotOver
    rw [hmem, hmem, hover]
    grind
  · rw [hmem] at hbreaks hbegins
    rcases hbreaks with hbreaks | rfl
    · exact hnotOver (hk.ended.mpr (.inr hbreaks))
    · rcases hbegins with hbegins | hbegins
      · exact hk.fresh (hfresh rfl) _ hbegins
      · cases hbegins
  · simpa using hk.closed

lemma snoc (hk : Known history w) {a : Sign} (h : w.after? a = some w') :
    Known (history ++ [a]) w' := by
  cases a with
  | refresh a =>
    simp only [Watch.after?] at h
    split_ifs at h
    obtain ⟨loop, hloop, rfl⟩ := Option.map_eq_some_iff.mp h
    exact hk.snoc_refresh hloop
  | tells =>
    simp only [Watch.after?] at h
    split_ifs at h with htold
    cases h
    refine ⟨?_, by simp, by simpa using hk.ended, by simpa using hk.fresh, by simpa using hk.broken,
      by simpa using hk.closed, fun hclosed => (htold (hk.closed_last hclosed).1).elim⟩
    rw [begun_snoc, finished_snoc]
    exact hk.cycles
  | closes =>
    simp only [Watch.after?] at h
    split_ifs at h with hlast
    cases h
    simp only [Bool.and_eq_true, decide_eq_true_eq] at hlast
    refine ⟨?_, by simpa using hk.told, by simpa using hk.ended, by simpa using hk.fresh,
      by simpa using hk.broken, by simp, fun _ => hlast.1⟩
    rw [begun_snoc, finished_snoc]
    exact hk.cycles

lemma through (hk : Known history w) {later : List Sign} (h : w.through later = some w') :
    Known (history ++ later) w' := by
  induction later generalizing history w with
  | nil =>
    cases h
    rwa [List.append_nil]
  | cons a later ih =>
    obtain ⟨w₁, ha, hlater⟩ := Watch.through_cons.mp h
    have hall := ih (hk.snoc ha) hlater
    rwa [List.append_assoc, List.singleton_append] at hall

end Known

end Lifecycle

end Billboard
