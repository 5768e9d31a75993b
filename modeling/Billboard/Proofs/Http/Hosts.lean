import Billboard.Deployment
import Mathlib.Tactic.Common

/-! Hosts, which answer the questions of the service. A deployed service is one. -/

namespace Billboard

lemma Http.respond_eq (c : Context) {r : Request} {resource : Resource} (hm : r.method ≠ .options)
    (hpath : Resource.ofPath? r.path = some resource) :
    respond c r = (do return shared (← handle c r resource)) := by
  rw [respond, if_neg hm, hpath]

/-- Something that answers questions from its state; what it does not answer before the request's
time is over, it does not answer at all. -/
structure Host (σ : Type) where
  answer : (q : Effect) → σ → Option (q.Answer × σ)

namespace Host

variable {σ α β : Type} (h : Host σ)

def run : Action α → σ → Option α
  | .done a, _ => some a
  | .ask q next, s => (h.answer q s).bind fun p => run (next p.1) p.2

def exchanges : Action α → σ → List ((q : Effect) × Option q.Answer)
  | .done _, _ => []
  | .ask q next, s => ⟨q, (h.answer q s).map (·.1)⟩ ::
    ((h.answer q s).map fun p => exchanges (next p.1) p.2).getD []

def response (c : Http.Context) (r : Http.Request) (s : σ) : Http.Response :=
  Http.finish r ((h.run (Http.respond c r) s).getD Http.timedOut)

variable {h} {s t : σ} {q : Effect} {next : q.Answer → Action α} {a : q.Answer}

lemma run_ask (ha : h.answer q s = some (a, t)) : h.run (.ask q next) s = h.run (next a) t := by
  rw [run, ha]
  rfl

lemma exchanges_ask (ha : h.answer q s = some (a, t)) :
    h.exchanges (.ask q next) s = ⟨q, some a⟩ :: h.exchanges (next a) t := by
  rw [exchanges, ha]
  rfl

end Host

namespace Deployment

variable (s : Deployment)

lemma present_issue (q : Effect) : (s.issue q).2.present = s.present := by
  unfold issue
  split <;> rfl

lemma present_answer (flight : Flight) (q : Effect) :
    (s.answer flight q).2.present = s.present := by
  unfold answer
  split
  · rfl
  · cases q <;> rfl

lemma present_enter (period : Nat) (phase : Refresh.Phase) :
    (s.enter period phase).present = s.present := by
  unfold enter
  split
  · exact present_issue s _
  · rfl

lemma present_runTask : s.runTask.present = s.present := by
  unfold runTask
  split
  · rfl
  · split
    · exact (present_enter _ _ _).trans (present_answer s _ _)
    · exact present_enter _ _ _

lemma present_runTaskBefore (time fuel : Nat) :
    (runTaskBefore time fuel s).present = s.present := by
  induction fuel generalizing s with
  | zero => rfl
  | succ fuel ih =>
    rw [runTaskBefore]
    split
    · rfl
    · split_ifs
      · exact (ih _).trans (present_runTask _)
      · rfl

lemma present_sleepUntil (time : Nat) : (s.sleepUntil time).present = s.present :=
  present_runTaskBefore s time _

def host (deadline : Nat) : Host Deployment where
  answer q s :=
    if deadline ≤ (s.issue q).1.ready then none
    else some (((s.issue q).2.sleepUntil (s.issue q).1.ready).answer (s.issue q).1 q)

lemma host_clock {deadline : Nat} (h : s.now < deadline) :
    (host deadline).answer .clock s = some (s.present, s.sleepUntil s.now) := by
  refine (if_neg (Nat.not_le.mpr h)).trans (congrArg some (Prod.ext ?_ rfl))
  exact present_sleepUntil s s.now

lemma perform_eq {α : Type} (deadline : Nat) (act : Action α) :
    (perform (some deadline) act s).1 = (host deadline).run act s := by
  induction act generalizing s with
  | done a => rfl
  | ask q next ih =>
    rw [perform, Host.run, host]
    by_cases hlate : deadline ≤ (s.issue q).1.ready
    · simp only [hlate, decide_true, if_true]
      rfl
    · simp only [hlate, decide_false, if_false, Bool.false_eq_true]
      exact ih _ _

lemma request_eq (c : Http.Context) (r : Http.Request) {timeout : Nat} (ht : timeout ≠ 0) :
    (s.request c timeout r).1 = (host (s.now + timeout)).response c r s := by
  rw [request, if_neg ht, Host.response, ← perform_eq]

end Deployment

end Billboard
