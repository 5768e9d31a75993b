import Billboard.Deployment
import Billboard.Proofs.Banner.RoundTrip
import Billboard.Proofs.Cache.Local
import Billboard.Proofs.Refresh.Cycles
import Billboard.Proofs.Trace

/-! What the refresh task may still do after it was told to end. -/

namespace Billboard.Refresh

def Sign.works : Sign → Bool
  | .begins => true
  | .calls _ => true
  | _ => false

def Sign.isBegin : Sign → Bool
  | .begins => true
  | _ => false

lemma isBegin_ofCycle (d : Action (Except RefreshError Nat)) :
    (Sign.ofCycle d).countP Sign.isBegin = 0 := by
  cases d <;> rfl

def Phase.due? : Phase → Option Nat
  | .waiting due => some due
  | .calling due _ _ => some due
  | _ => none

lemma due?_ofCycle (due : Nat) (d : Action (Except RefreshError Nat)) :
    (Phase.ofCycle due d).due? = some due := by
  cases d <;> rfl

lemma add_le_nextDue (period due now : Nat) :
    now + period ≤ nextDue period due now + lateness := by
  unfold nextDue
  split_ifs <;> omega

/-- Whether something is there that a move can take. -/
def Phase.Ready (p : Phase) : Move → Prop
  | .tick now => p = .fresh ∨ ∃ due ≤ now, p = .waiting due
  | .answer _ => ∃ due q next, p = .calling due q next
  | _ => False

lemma ready_of_works {l l' : Loop} {m : Move} (h : l.after? m = some l') {a : Sign}
    (ha : a ∈ l.signs m) (hworks : a.works = true) : l.phase.Ready m := by
  have hm := moved_of_after? h
  generalize l.signs m = signs at ha hm
  cases hm with
  | told => cases ha
  | breaks _ _ =>
    rw [List.mem_singleton.mp ha] at hworks
    cases hworks
  | @begins now _ hphase =>
    obtain ⟨period, phase, cancelled⟩ := l
    cases phase with
    | fresh => exact .inl rfl
    | waiting due =>
      simp only [Loop.after?] at h
      split_ifs at h with hdue
      exact .inr ⟨due, hdue, rfl⟩
    | _ => rcases hphase with hphase | hphase <;> cases hphase
  | goesOn hphase => exact ⟨_, _, _, hphase⟩
  | leaves _ _ =>
    rw [List.mem_singleton.mp ha] at hworks
    cases hworks
  | abandons _ _ =>
    rw [List.mem_cons, List.mem_singleton] at ha
    rcases ha with rfl | rfl <;> cases hworks

lemma ticked_of_after? {l l' : Loop} {now : Nat} (h : l.after? (.tick now) = some l') :
    (l'.phase = .crashed ∧ (l.signs (.tick now)).countP Sign.isBegin = 0) ∨
    (l.phase.Ready (.tick now) ∧ (l.signs (.tick now)).countP Sign.isBegin = 1 ∧
      ∃ next, l'.phase = .ofCycle next Service.refresh ∧ now + l.period ≤ next + lateness) := by
  obtain ⟨period, phase, cancelled⟩ := l
  cases phase with
  | fresh =>
    cases h
    by_cases hperiod : period = 0
    · refine .inl ⟨?_, ?_⟩ <;> simp [Phase.tick, Phase.start, Loop.signs, hperiod, Sign.isBegin]
    · refine .inr ⟨.inl rfl, ?_, now + period, ?_, Nat.le_add_right _ _⟩
      · simp only [Loop.signs, if_neg hperiod]
        rfl
      · simp [Phase.tick, Phase.start, hperiod]
  | waiting due =>
    simp only [Loop.after?, Phase.tick] at h
    split_ifs at h with hdue
    cases h
    exact .inr ⟨.inr ⟨due, hdue, rfl⟩, rfl, _, rfl, add_le_nextDue period due now⟩
  | _ => cases h

lemma untimed_of_after? {l l' : Loop} {m : Move} (h : l.after? m = some l')
    (hm : ∀ now, m ≠ .tick now) : (l.signs m).countP Sign.isBegin = 0 ∧
      (l'.phase = .fresh → l.phase = .fresh) ∧
      ∀ due, l'.phase.due? = some due → l.phase.due? = some due := by
  have hmoved := moved_of_after? h
  generalize l.signs m = signs at hmoved ⊢
  cases hmoved with
  | told => exact ⟨rfl, fun hp => hp, fun _ hdue => hdue⟩
  | begins _ => exact (hm _ rfl).elim
  | @goesOn due q next reply hphase =>
    refine ⟨isBegin_ofCycle _, fun hp => ?_, fun due' hdue => ?_⟩
    · cases hd : next (reply q) <;> rw [hd] at hp <;> cases hp
    · rw [due?_ofCycle] at hdue
      rw [hphase]
      exact hdue
  | _ => exact ⟨rfl, nofun, nofun⟩

lemma idle_of_isOver {l l' : Loop} {m : Move} (h : l.after? m = some l')
    (hover : l.phase.isOver = true) : m = .cancel ∧ l.signs m = [] ∧ l'.phase = l.phase := by
  obtain ⟨period, phase, cancelled⟩ := l
  cases m with
  | cancel =>
    cases h
    exact ⟨rfl, by cases phase <;> rfl, rfl⟩
  | tick now => cases phase <;> cases hover <;> cases h
  | answer reply => cases phase <;> cases hover <;> cases h
  | notice =>
    simp only [Loop.after?] at h
    rw [hover, Bool.not_true, Bool.and_false] at h
    cases h

lemma isOver_cancel (p : Phase) (period : Nat) : (p.cancel period).isOver = true := by
  cases p with
  | fresh =>
    unfold Phase.cancel
    split_ifs <;> rfl
  | _ => rfl

def carryOut (now : Nat) (c : LocalCache) : (q : Effect) → q.Answer → LocalCache
  | .cache (.put b), .ok _ => c.put b now
  | _, _ => c

def Loop.carriedOut (l : Loop) (now : Nat) (m : Move) (c : LocalCache) : LocalCache :=
  match l.phase, m with
  | .calling _ q _, .answer reply => carryOut now c q (reply q)
  | _, _ => c

lemma carriedOut_of_not_answer {l : Loop} {m : Move} (hm : ∀ reply, m ≠ .answer reply) (now : Nat)
    (c : LocalCache) : l.carriedOut now m c = c := by
  cases m with
  | answer reply => exact (hm reply rfl).elim
  | _ => cases hp : l.phase <;> simp only [Loop.carriedOut, hp]

end Refresh

structure Refresher where
  now : Nat
  loop : Refresh.Loop
  cache : LocalCache

abbrev RefreshEvent : Type := Passage Refresher Refresh.Move

namespace Refresher

open Refresh

def start (period : Nat) (cache : LocalCache) (now : Nat) : Refresher := ⟨now, { period }, cache⟩

/-- What a move does. Time may pass before it. -/
structure Step (s : Refresher) (m : Refresh.Move) (t : Refresher) : Prop where
  now_le : s.now ≤ t.now
  tick : ∀ now, m = .tick now → now = t.now
  loop : s.loop.after? m = some t.loop
  cache : t.cache = s.loop.carriedOut t.now m s.cache

abbrev Run (s : Refresher) : List RefreshEvent → Refresher → Prop := Trace Step s

/-- What is seen of the task as a move is made. -/
def seen (e : RefreshEvent) : List Sign := e.before.loop.signs e.move

def begun (history : List RefreshEvent) : Nat :=
  (history.flatMap seen).countP Sign.isBegin

variable {period now : Nat} {cache : LocalCache} {s t : Refresher} {m : Refresh.Move}
  {history : List RefreshEvent} {e : RefreshEvent}

lemma begun_cons (e : RefreshEvent) (history : List RefreshEvent) :
    begun (e :: history) = (seen e).countP Sign.isBegin + begun history := by
  rw [begun, List.flatMap_cons, List.countP_append, begun]

lemma Run.now_le (h : s.Run history t) : s.now ≤ t.now :=
  h.preserves (p := fun u => s.now ≤ u.now) (fun step hle => hle.trans step.now_le) le_rfl

lemma Step.period_eq (h : s.Step m t) : t.loop.period = s.loop.period :=
  (moved_of_after? h.loop).period_eq

lemma Run.period_eq (h : s.Run history t) : t.loop.period = s.loop.period :=
  h.preserves (p := fun u => u.loop.period = s.loop.period)
    (fun step he => step.period_eq.trans he) rfl

lemma Run.onlyRefreshes (h : (start period cache now).Run history s) :
    s.loop.phase.OnlyRefreshes :=
  h.preserves (p := fun u => u.loop.phase.OnlyRefreshes)
    (fun step honly => (moved_of_after? step.loop).onlyRefreshes honly) trivial

lemma Step.told (h : s.Step .cancel t) : t.loop.cancelled = true := by
  rw [← Option.some.inj h.loop]

lemma Step.cancelled (h : s.Step m t) (htold : s.loop.cancelled = true) :
    t.loop.cancelled = true := by
  by_cases hm : m = .cancel
  · exact (hm ▸ h).told
  · exact ((moved_of_after? h.loop).cancelled_eq hm).trans htold

lemma Run.cancelled (h : s.Run history t) (htold : s.loop.cancelled = true) :
    t.loop.cancelled = true :=
  h.preserves (p := fun u => u.loop.cancelled = true) (fun step => step.cancelled) htold

lemma Step.cache_eq (h : s.Step m t) (hm : ∀ reply, m ≠ .answer reply) : t.cache = s.cache :=
  h.cache.trans (carriedOut_of_not_answer hm _ _)

lemma Run.cache_eq (h : s.Run history t) (hm : ∀ e ∈ history, ∀ reply, e.move ≠ .answer reply) :
    t.cache = s.cache := by
  induction h with
  | nil => rfl
  | cons _ step ih =>
    obtain ⟨hlast, hm⟩ := List.forall_mem_cons.mp hm
    exact (step.cache_eq hlast).trans (ih hm)

lemma Step.not_works (h : s.Step m t) (hm : m = .notice ∨ m = .cancel) {a : Sign}
    (ha : a ∈ s.loop.signs m) : a.works = false := by
  by_contra hworks
  have hready := ready_of_works h.loop ha (Bool.eq_true_of_not_eq_false hworks)
  rcases hm with rfl | rfl <;> exact hready

lemma Run.idle (h : s.Run history t) (hover : s.loop.phase.isOver = true) :
    (∀ e ∈ history, seen e = []) ∧ t.loop.phase.isOver = true ∧ t.cache = s.cache := by
  induction h with
  | nil => exact ⟨List.forall_mem_nil _, hover, rfl⟩
  | cons _ step ih =>
    obtain ⟨hquiet, hover, hcache⟩ := ih
    obtain ⟨rfl, hsigns, hphase⟩ := idle_of_isOver step.loop hover
    exact ⟨List.forall_mem_cons.mpr ⟨hsigns, hquiet⟩, hphase ▸ hover,
      (step.cache_eq nofun).trans hcache⟩

lemma exists_notice (htold : s.loop.cancelled = true) (hover : s.loop.phase.isOver = false) :
    ∃ t, s.Step .notice t ∧ t.loop.phase.isOver = true ∧ t.cache = s.cache := by
  let t : Refresher :=
    ⟨s.now, { s.loop with phase := s.loop.phase.cancel s.loop.period }, s.cache⟩
  have hloop : s.loop.after? .notice = some t.loop := by
    simp only [Loop.after?, htold, hover, Bool.not_false, Bool.and_self, if_true, t]
  have hcache : t.cache = s.loop.carriedOut t.now .notice s.cache :=
    (carriedOut_of_not_answer (m := .notice) (by rintro _ ⟨⟩) _ _).symm
  exact ⟨t, ⟨le_rfl, by rintro _ ⟨⟩, hloop, hcache⟩, isOver_cancel _ _, rfl⟩

lemma Step.over_of_notice (h : s.Step .notice t) : t.loop.phase.isOver = true := by
  have hloop := h.loop
  simp only [Loop.after?] at hloop
  split_ifs at hloop
  rw [← Option.some.inj hloop]
  exact isOver_cancel _ _

structure Spaced (since k : Nat) (s : Refresher) : Prop where
  fresh : s.loop.phase = .fresh → k = 0
  now : ∀ i, k = i + 1 → since + i * s.loop.period ≤ s.now + i * lateness
  due : ∀ due, s.loop.phase.due? = some due →
    k = 0 ∨ since + k * s.loop.period ≤ due + k * lateness

section

variable {since k : Nat}

lemma Spaced.now_step (hs : Spaced since k s) (h : s.Step m t) :
    ∀ i, k = i + 1 → since + i * t.loop.period ≤ t.now + i * lateness := by
  intro i hi
  rw [h.period_eq]
  exact (hs.now i hi).trans (Nat.add_le_add_right h.now_le _)

lemma Spaced.untimed (hs : Spaced since k s) (h : s.Step m t) (hm : ∀ now, m ≠ .tick now) :
    Spaced since ((s.loop.signs m).countP Sign.isBegin + k) t := by
  obtain ⟨hcount, hfresh, hdue⟩ := untimed_of_after? h.loop hm
  rw [hcount, Nat.zero_add]
  refine ⟨fun hp => hs.fresh (hfresh hp), hs.now_step h, fun due hd => ?_⟩
  rw [h.period_eq]
  exact hs.due due (hdue due hd)

lemma Spaced.le_of_ready (hs : Spaced since k s) (hsince : since ≤ now)
    (hready : s.loop.phase.Ready (.tick now)) :
    since + k * s.loop.period ≤ now + k * lateness := by
  rcases hready with hfresh | ⟨due, hdue, hwaiting⟩
  · rw [hs.fresh hfresh]
    omega
  · rcases hs.due due (by rw [hwaiting]; rfl) with rfl | hle
    · omega
    · omega

lemma Spaced.tick (hs : Spaced since k s) (hsince : since ≤ s.now) (h : s.Step (.tick now) t) :
    Spaced since ((s.loop.signs (.tick now)).countP Sign.isBegin + k) t := by
  obtain rfl := h.tick now rfl
  rcases ticked_of_after? h.loop with ⟨hcrashed, hcount⟩ | ⟨hready, hcount, next, hphase, hnext⟩
  · rw [hcount, Nat.zero_add]
    refine ⟨?_, hs.now_step h, ?_⟩ <;> rw [hcrashed] <;> nofun
  · have hle := hs.le_of_ready (hsince.trans h.now_le) hready
    rw [hcount, Nat.add_comm]
    refine ⟨?_, fun i hi => ?_, fun due hdue => .inr ?_⟩
    · rw [hphase]
      nofun
    · obtain rfl := Nat.succ.inj hi
      rwa [h.period_eq]
    · rw [hphase, due?_ofCycle] at hdue
      obtain rfl := Option.some.inj hdue
      rw [h.period_eq, Nat.add_mul, Nat.add_mul]
      omega

lemma Spaced.step (hs : Spaced since k s) (hsince : since ≤ s.now) (h : s.Step m t) :
    Spaced since ((s.loop.signs m).countP Sign.isBegin + k) t := by
  cases m with
  | tick now => exact hs.tick hsince h
  | _ => exact hs.untimed h nofun

end

lemma Run.spaced (h : s.Run history t) : Spaced s.now (begun history) t := by
  induction h with
  | nil => exact ⟨fun _ => rfl, nofun, fun _ _ => .inl rfl⟩
  | cons trace step ih =>
    rw [begun_cons]
    exact ih.step (Run.now_le trace) step

/-- A task that is told to end can end at once, and then for good. But a tick that is due or an
answer that is there may be taken before. -/
theorem Run.told_to_end {later earlier : List RefreshEvent}
    (h : (start period cache now).Run (later ++ e :: earlier) s) (he : e.move = .cancel) :
    (s.loop.phase.isOver = true ∨
      ∃ t, s.Step .notice t ∧ t.loop.phase.isOver = true ∧ t.cache = s.cache) ∧
    (∀ newer d older, later = newer ++ d :: older → d.move = .notice →
      (∀ a ∈ seen d, a.works = false) ∧ (∀ d' ∈ newer, seen d' = []) ∧ s.cache = d.before.cache) ∧
    ((∀ d ∈ later, d.move = .notice ∨ d.move = .cancel) →
      (∀ d ∈ later, ∀ a ∈ seen d, a.works = false) ∧ s.cache = e.before.cache) ∧
    (∀ d ∈ later, ∀ a ∈ seen d, a.works = true →
      d.before.loop.phase.Ready d.move ∧ ∀ q, a = .calls q → Service.Refreshes q) ∧
    ∀ k, begun later = k + 1 → e.after.now + k * period ≤ s.now + k * lateness := by
  obtain ⟨-, htell, hlater⟩ := h.at_passage
  rw [he] at htell
  have htold : s.loop.cancelled = true := Run.cancelled hlater htell.told
  refine ⟨?_, ?_, fun hfirst => ⟨?_, ?_⟩, ?_, ?_⟩
  · cases hover : s.loop.phase.isOver with
    | true => exact .inl rfl
    | false => exact .inr (exists_notice htold hover)
  · rintro newer d older rfl hnotice
    obtain ⟨-, step, hafter⟩ := hlater.at_passage
    obtain ⟨hquiet, -, hcache⟩ :=
      Run.idle hafter (hnotice ▸ step).over_of_notice
    refine ⟨fun a => step.not_works (.inl hnotice), hquiet, hcache.trans (step.cache_eq ?_)⟩
    rw [hnotice]
    nofun
  · intro d hd a
    obtain ⟨_, _, -, -, step, -⟩ := hlater.at_mem hd
    exact step.not_works (hfirst d hd)
  · refine (Run.cache_eq hlater fun d hd reply => ?_).trans (htell.cache_eq nofun)
    rcases hfirst d hd with hd | hd <;> rw [hd] <;> nofun
  · intro d hd a ha hworks
    obtain ⟨_, _, -, run, step, -⟩ := h.at_mem (List.mem_append_left _ hd)
    refine ⟨ready_of_works step.loop ha hworks, fun q hq => ?_⟩
    exact (moved_of_after? step.loop).refreshes (Run.onlyRefreshes run) (hq ▸ ha)
  · intro k hk
    have hperiod : s.loop.period = period := h.period_eq
    rw [← hperiod]
    exact (Run.spaced hlater).now k hk

def oneBanner : Deployment where
  present := ⟨0, 0⟩
  salt := Vector.replicate 16 0
  cache := ⟨100, [], []⟩
  catalog := ⟨[.sample 1], 2⟩

lemma serve_oneBanner : (oneBanner.serve (.store (.query {}))).1 = .ok [.sample 1] := by
  have hrows : [Banner.sample 1].filter ({} : Banner.Filter).admits = [.sample 1] := rfl
  show Except.ok (Banner.Filter.select {} [.sample 1]) = _
  rw [Banner.Filter.select, hrows, List.mergeSort_singleton]
  rfl

lemma exists_refresh_one (b : Banner) : ∃ next after,
    Service.refresh = .ask (.store (.query {})) next ∧
    next (.ok [b]) = .ask (.cache (.put b)) after ∧ after (.ok ()) = .done (.ok 1) :=
  ⟨_, _, rfl, rfl, rfl⟩

lemma exists_run_late : ∃ later told s,
    (start 100 ⟨100, [], []⟩ 0).Run (later ++ [told]) s ∧ told.move = .cancel ∧
    later.flatMap seen = [.leaves, .finishes (.ok 1), .calls (.cache (.put (.sample 1))), .begins,
      .calls (.store (.query {}))] ∧
    told.before.cache = ⟨100, [], []⟩ ∧
    s.cache = LocalCache.put ⟨100, [], []⟩ (.sample 1) 0 := by
  let reply : (q : Effect) → q.Answer := fun q => (oneBanner.serve q).1
  obtain ⟨next, after, hcycle, hnext, hafter⟩ := exists_refresh_one (.sample 1)
  have hquery : next (reply (.store (.query {}))) = .ask (.cache (.put (.sample 1))) after :=
    (congrArg next serve_oneBanner).trans hnext
  have hput : after (reply (.cache (.put (.sample 1)))) = .done (.ok 1) := hafter
  let s₀ := start 100 ⟨100, [], []⟩ 0
  let s₁ : Refresher := { s₀ with loop := { s₀.loop with cancelled := true } }
  let s₂ : Refresher := { s₁ with
    loop := { s₁.loop with phase := .calling 100 (.store (.query {})) next } }
  let s₃ : Refresher := { s₂ with
    loop := { s₂.loop with phase := .calling 100 (.cache (.put (.sample 1))) after } }
  let s₄ : Refresher := { s₃ with
    loop := { s₃.loop with phase := .waiting 100 }, cache := s₃.cache.put (.sample 1) 0 }
  let s₅ : Refresher := { s₄ with loop := { s₄.loop with phase := .ended } }
  have h₁ : s₀.Step .cancel s₁ := ⟨le_rfl, by rintro _ ⟨⟩, rfl, rfl⟩
  have h₂ : s₁.Step (.tick 0) s₂ := by
    refine ⟨le_rfl, fun _ h => (Refresh.Move.tick.inj h).symm, ?_, rfl⟩
    show some ({ s₁.loop with phase := .ofCycle 100 Service.refresh } : Loop) = _
    rw [hcycle]
    rfl
  have h₃ : s₂.Step (.answer reply) s₃ := by
    refine ⟨le_rfl, by rintro _ ⟨⟩, ?_, rfl⟩
    show some ({ s₂.loop with phase := .ofCycle 100 (next (reply _)) } : Loop) = _
    rw [hquery]
    rfl
  have h₄ : s₃.Step (.answer reply) s₄ := by
    refine ⟨le_rfl, by rintro _ ⟨⟩, ?_, rfl⟩
    show some ({ s₃.loop with phase := .ofCycle 100 (after (reply _)) } : Loop) = _
    rw [hput]
    rfl
  have h₅ : s₄.Step .notice s₅ := ⟨le_rfl, by rintro _ ⟨⟩, rfl, rfl⟩
  have hrun := (((Trace.nil.cons h₂).cons h₃).cons h₄).cons h₅
  refine ⟨_, ⟨s₀, .cancel, s₁⟩, s₅, (Trace.nil.cons h₁).append hrun, rfl, ?_, rfl, rfl⟩
  show [.leaves] ++ (Sign.ofCycle (after (reply _)) ++ (Sign.ofCycle (next (reply _)) ++ _)) = _
  rw [hput, hquery]
  rfl

/-- The word to end comes before a whole cycle, which queries the store and fills the cache. -/
theorem Run.works_after_told : ∃ later told s,
    (start 100 ⟨100, [], []⟩ 0).Run (later ++ [told]) s ∧ told.move = .cancel ∧
    (∃ d ∈ later, .begins ∈ seen d) ∧
    (∃ d ∈ later, .calls (.store (.query {})) ∈ seen d) ∧
    (∃ d ∈ later, .calls (.cache (.put (.sample 1))) ∈ seen d) ∧
    told.before.cache.indexMembers 1 2 = [] ∧ s.cache.indexMembers 1 2 = [1] := by
  obtain ⟨later, told, s, hrun, htold, hseen, hbefore, hs⟩ := exists_run_late
  refine ⟨later, told, s, hrun, htold, ?_, ?_, ?_, ?_, ?_⟩
  · exact List.mem_flatMap.mp (by simp [hseen])
  · exact List.mem_flatMap.mp (by simp [hseen])
  · exact List.mem_flatMap.mp (by simp [hseen])
  · rw [hbefore]
    rfl
  · rw [hs]
    decide +kernel

theorem Run.told_to_end_late : ∃ later told s,
    (start 100 ⟨100, [], []⟩ 0).Run (later ++ [told]) s ∧ told.move = .cancel ∧ begun later = 1 ∧
    ∀ d ∈ later, ∀ a ∈ seen d, a.works = true → d.before.loop.phase.Ready d.move := by
  obtain ⟨later, told, s, hrun, htold, hseen, -⟩ := exists_run_late
  refine ⟨later, told, s, hrun, htold, ?_, fun d hd a ha hworks => ?_⟩
  · rw [begun, hseen]
    rfl
  · obtain ⟨-, -, -, hworks_only, -⟩ := Run.told_to_end hrun htold
    exact (hworks_only d hd a ha hworks).1

end Refresher

end Billboard
