import Billboard.Proofs.Dialogue
import Billboard.Refresh
import Mathlib.Tactic.Common

/-! What is seen of the refresh task: cycles, one after the other, with their calls. -/

namespace Billboard

namespace Service

def Refreshes (q : Effect) : Prop := q = .store (.query {}) ∨ ∃ b, q = .cache (.put b)

def OnlyRefreshes {α : Type} (d : Action α) : Prop :=
  d.Keeps (fun q (_ : Unit) => Refreshes q) (fun _ _ _ _ => True) ()

lemma onlyRefreshes_putAll (banners : List Banner) : OnlyRefreshes (putAll banners) := by
  induction banners with
  | nil => trivial
  | cons b rest ih =>
    refine ⟨.inr ⟨b, rfl⟩, fun a _ _ => ?_⟩
    cases a with
    | error e => trivial
    | ok u => exact ih

lemma onlyRefreshes_refresh : OnlyRefreshes refresh := by
  refine ⟨.inl rfl, fun a _ _ => ?_⟩
  cases a with
  | error e => trivial
  | ok banners =>
    show Dialogue.Keeps _ _ (putAll banners >>= _) _
    refine (onlyRefreshes_putAll banners).bind fun r _ => ?_
    cases r <;> trivial

end Service

namespace Refresh

inductive Sign where
  | begins
  | calls (q : Effect)
  | finishes (r : Except RefreshError Nat)
  | abandons
  | leaves
  | breaks

namespace Sign

def ofCycle : Action (Except RefreshError Nat) → List Sign
  | .done r => [.finishes r]
  | .ask q _ => [.calls q]

def heeds : Sign → Bool
  | .abandons => true
  | .leaves => true
  | _ => false

end Sign

def Loop.signs (l : Loop) (m : Move) : List Sign :=
  match l.phase, m with
  | .fresh, .tick _ => if l.period = 0 then [.breaks] else .begins :: Sign.ofCycle Service.refresh
  | .waiting _, .tick _ => .begins :: Sign.ofCycle Service.refresh
  | .calling _ _ next, .answer reply => Sign.ofCycle (next (reply _))
  | .fresh, .notice => if l.period = 0 then [.breaks] else [.leaves]
  | .waiting _, .notice => [.leaves]
  | .calling .., .notice => [.abandons, .leaves]
  | _, _ => []

inductive Standing where
  | fresh
  | between
  | within
  | over
deriving DecidableEq

namespace Standing

def after? : Standing → Sign → Option Standing
  | .fresh, .begins => some .within
  | .between, .begins => some .within
  | .within, .calls _ => some .within
  | .within, .finishes _ => some .between
  | .within, .abandons => some .between
  | .fresh, .leaves => some .over
  | .between, .leaves => some .over
  | .fresh, .breaks => some .over
  | _, _ => none

variable {st st' : Standing} {a : Sign}

lemma over_iff_of_after? (h : st.after? a = some st') :
    st ≠ .over ∧ (st' = .over ↔ a = .leaves ∨ a = .breaks) := by
  cases st <;> cases a <;> cases h <;> simp

lemma fresh_of_after? (h : st.after? a = some st') :
    st' ≠ .fresh ∧ (a = .breaks → st = .fresh) := by
  cases st <;> cases a <;> cases h <;> simp

end Standing

def Phase.standing : Phase → Standing
  | .fresh => .fresh
  | .waiting _ => .between
  | .calling .. => .within
  | .ended => .over
  | .crashed => .over

def Phase.OnlyRefreshes : Phase → Prop
  | .calling _ q next => Service.OnlyRefreshes (.ask q next)
  | _ => True

lemma standing_over {p : Phase} : p.standing = .over ↔ p.isOver = true := by
  cases p <;> simp [Phase.standing, Phase.isOver]

lemma standing_within {p : Phase} : p.standing = .within ↔ ∃ q, p.call? = some q := by
  cases p <;> simp [Phase.standing, Phase.call?]

lemma standing_between {p : Phase} (h : p.standing = .between) : ∃ due, p = .waiting due := by
  cases p with
  | waiting due => exact ⟨due, rfl⟩
  | _ => cases h

lemma through_ofCycle (due : Nat) (d : Action (Except RefreshError Nat)) :
    (Sign.ofCycle d).foldlM Standing.after? .within = some (Phase.ofCycle due d).standing := by
  cases d <;> rfl

lemma onlyRefreshes_ofCycle (due : Nat) {d : Action (Except RefreshError Nat)}
    (h : Service.OnlyRefreshes d) : (Phase.ofCycle due d).OnlyRefreshes := by
  cases d with
  | done r => trivial
  | ask q next => exact h

lemma refreshes_of_ofCycle {d : Action (Except RefreshError Nat)} (h : Service.OnlyRefreshes d)
    {q : Effect} (hq : .calls q ∈ Sign.ofCycle d) : Service.Refreshes q := by
  cases d with
  | done r => simp [Sign.ofCycle] at hq
  | ask q' next =>
    simp only [Sign.ofCycle, List.mem_singleton, Sign.calls.injEq] at hq
    exact hq ▸ h.1

lemma mem_ofCycle {d : Action (Except RefreshError Nat)} {a : Sign} (h : a ∈ Sign.ofCycle d) :
    (∃ q, a = .calls q) ∨ ∃ r, a = .finishes r := by
  cases d with
  | done r => exact .inr ⟨r, List.mem_singleton.mp h⟩
  | ask q next => exact .inl ⟨q, List.mem_singleton.mp h⟩

lemma ofCycle_refresh : Sign.ofCycle Service.refresh = [.calls (.store (.query {}))] := rfl

inductive Moved (l : Loop) : Move → List Sign → Loop → Prop
  | told : Moved l .cancel [] { l with cancelled := true }
  | breaks {m : Move} (hperiod : l.period = 0) (hphase : l.phase = .fresh) :
      Moved l m [.breaks] { l with phase := .crashed }
  | begins {now due : Nat} (hphase : l.phase.standing = .fresh ∨ l.phase.standing = .between) :
      Moved l (.tick now) (.begins :: Sign.ofCycle Service.refresh)
        { l with phase := .ofCycle due Service.refresh }
  | goesOn {due : Nat} {q : Effect} {next : q.Answer → Action (Except RefreshError Nat)}
      {reply : (q : Effect) → q.Answer} (hphase : l.phase = .calling due q next) :
      Moved l (.answer reply) (Sign.ofCycle (next (reply q)))
        { l with phase := .ofCycle due (next (reply q)) }
  | leaves (htold : l.cancelled = true)
      (hphase : l.phase.standing = .fresh ∨ l.phase.standing = .between) :
      Moved l .notice [.leaves] { l with phase := .ended }
  | abandons (htold : l.cancelled = true) (hphase : l.phase.standing = .within) :
      Moved l .notice [.abandons, .leaves] { l with phase := .ended }

lemma moved_of_after? {l l' : Loop} {m : Move} (h : l.after? m = some l') :
    Moved l m (l.signs m) l' := by
  obtain ⟨period, phase, cancelled⟩ := l
  cases m with
  | cancel =>
    cases h
    cases phase <;> exact .told
  | tick now =>
    cases phase with
    | fresh =>
      cases h
      by_cases hperiod : period = 0
      · simp only [Loop.signs, Phase.tick, Phase.start, if_pos hperiod]
        exact .breaks hperiod rfl
      · simp only [Loop.signs, Phase.tick, Phase.start, if_neg hperiod]
        exact .begins (.inl rfl)
    | waiting due =>
      simp only [Loop.after?, Phase.tick] at h
      split_ifs at h
      cases h
      exact .begins (.inr rfl)
    | _ => cases h
  | answer reply =>
    cases phase with
    | calling due q next =>
      cases h
      exact .goesOn rfl
    | _ => cases h
  | notice =>
    simp only [Loop.after?] at h
    split_ifs at h with hnotice
    obtain ⟨rfl, hover⟩ := Bool.and_eq_true_iff.mp hnotice
    cases h
    cases phase with
    | fresh =>
      by_cases hperiod : period = 0
      · simp only [Loop.signs, Phase.cancel, if_pos hperiod]
        exact .breaks hperiod rfl
      · simp only [Loop.signs, Phase.cancel, if_neg hperiod]
        exact .leaves rfl (.inl rfl)
    | waiting due => exact .leaves rfl (.inr rfl)
    | calling due q next => exact .abandons rfl rfl
    | ended => cases hover
    | crashed => cases hover

namespace Moved

variable {l l' : Loop} {m : Move} {signs : List Sign}

lemma period_eq (h : Moved l m signs l') : l'.period = l.period := by
  cases h <;> rfl

lemma cancelled_eq (h : Moved l m signs l') (hm : m ≠ .cancel) : l'.cancelled = l.cancelled := by
  cases h with
  | told => exact (hm rfl).elim
  | _ => rfl

lemma through (h : Moved l m signs l') :
    signs.foldlM Standing.after? l.phase.standing = some l'.phase.standing := by
  cases h with
  | told => rfl
  | breaks _ hphase =>
    rw [hphase]
    rfl
  | @begins now due hphase => rcases hphase with hphase | hphase <;> rw [hphase] <;> rfl
  | goesOn hphase =>
    rw [hphase]
    exact through_ofCycle _ _
  | leaves _ hphase => rcases hphase with hphase | hphase <;> rw [hphase] <;> rfl
  | abandons _ hphase =>
    rw [hphase]
    rfl

lemma told_of_heeds (h : Moved l m signs l') {a : Sign} (ha : a ∈ signs) (hheeds : a.heeds = true) :
    l.cancelled = true := by
  cases h with
  | told => cases ha
  | breaks _ _ =>
    rw [List.mem_singleton.mp ha] at hheeds
    cases hheeds
  | begins _ =>
    rw [ofCycle_refresh, List.mem_cons, List.mem_singleton] at ha
    rcases ha with rfl | rfl <;> cases hheeds
  | goesOn _ => rcases mem_ofCycle ha with ⟨q, rfl⟩ | ⟨r, rfl⟩ <;> cases hheeds
  | leaves htold _ => exact htold
  | abandons htold _ => exact htold

lemma period_of_breaks (h : Moved l m signs l') (hbreaks : .breaks ∈ signs) : l.period = 0 := by
  cases h with
  | breaks hperiod _ => exact hperiod
  | told => cases hbreaks
  | begins _ => simp [ofCycle_refresh] at hbreaks
  | goesOn _ => rcases mem_ofCycle hbreaks with ⟨q, hq⟩ | ⟨r, hr⟩ <;> contradiction
  | leaves _ _ => simp at hbreaks
  | abandons _ _ => simp at hbreaks

lemma call_seen (h : Moved l m signs l') {q : Effect} (hq : l'.phase.call? = some q) :
    .calls q ∈ signs ∨ l.phase.call? = some q := by
  have hcycle : ∀ {due : Nat} {d : Action (Except RefreshError Nat)},
      (Phase.ofCycle due d).call? = some q → .calls q ∈ Sign.ofCycle d := by
    intro due d hd
    cases d with
    | done r => cases hd
    | ask q' next =>
      cases hd
      exact List.mem_singleton_self _
  cases h with
  | told => exact .inr hq
  | begins _ => exact .inl (List.mem_cons_of_mem _ (hcycle hq))
  | goesOn _ => exact .inl (hcycle hq)
  | _ => cases hq

lemma onlyRefreshes (h : Moved l m signs l') (hl : l.phase.OnlyRefreshes) :
    l'.phase.OnlyRefreshes := by
  cases h with
  | told => exact hl
  | begins _ => exact onlyRefreshes_ofCycle _ Service.onlyRefreshes_refresh
  | @goesOn due q next reply hphase =>
    rw [hphase] at hl
    exact onlyRefreshes_ofCycle due (hl.2 (reply q) () trivial)
  | _ => trivial

lemma refreshes (h : Moved l m signs l') (hl : l.phase.OnlyRefreshes) {q : Effect}
    (hq : .calls q ∈ signs) : Service.Refreshes q := by
  cases h with
  | told => cases hq
  | begins _ =>
    refine refreshes_of_ofCycle Service.onlyRefreshes_refresh (List.mem_of_ne_of_mem ?_ hq)
    nofun
  | @goesOn due q' next reply hphase =>
    rw [hphase] at hl
    exact refreshes_of_ofCycle (hl.2 (reply q') () trivial) hq
  | breaks _ _ => simp at hq
  | leaves _ _ => simp at hq
  | abandons _ _ => simp at hq

end Moved

end Refresh

end Billboard
