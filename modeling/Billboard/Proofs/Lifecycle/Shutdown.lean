import Billboard.Proofs.Lifecycle.History

/-! A server that stops has ended its refresh task, and then closed the store, once. -/

namespace Billboard

namespace Lifecycle

open Refresh (Standing Moved)

def watch (s : Lifecycle) : Watch :=
  ⟨s.refresh.phase.standing, s.refresh.cancelled, s.stage.hasStopped⟩

structure Kept (period : Nat) (events : List Event) (history : List Sign) (s : Lifecycle) :
    Prop where
  period_eq : s.refresh.period = period
  watched : Watch.through {} history = some s.watch
  told : s.refresh.cancelled = s.stage.settled?.isSome
  settled : events.filterMap Event.settles? = s.stage.settled?.toList
  closes_eq : s.closes = if s.stage.hasStopped then 1 else 0
  onlyRefreshes : s.refresh.phase.OnlyRefreshes
  calls : ∀ q, .refresh (.calls q) ∈ history → Service.Refreshes q
  called : ∀ q, s.refresh.phase.call? = some q → .refresh (.calls q) ∈ history
  broken : .refresh .breaks ∈ history → period = 0

variable {period : Nat} {events : List Event} {history : List Sign} {s t : Lifecycle} {e : Event}

lemma kept_initial : Kept period [] [] { refresh := { period } } where
  period_eq := rfl
  watched := rfl
  told := rfl
  settled := rfl
  closes_eq := rfl
  onlyRefreshes := trivial
  calls := nofun
  called := nofun
  broken := nofun

lemma through_refresh {w : Watch} {signs : List Refresh.Sign} {loop : Standing}
    (hheeds : ∀ a ∈ signs, a.heeds = true → w.told = true)
    (h : signs.foldlM Standing.after? w.loop = some loop) :
    w.through (signs.map .refresh) = some { w with loop } := by
  induction signs generalizing w with
  | nil =>
    cases h
    rfl
  | cons a signs ih =>
    rw [List.forall_mem_cons] at hheeds
    rw [List.foldlM_cons] at h
    obtain ⟨st, ha, h⟩ := Option.bind_eq_some_iff.mp h
    have hafter : w.after? (.refresh a) = some { w with loop := st } := by
      have hopen : ¬ (a.heeds && !w.told) = true := by
        cases hh : a.heeds with
        | false => simp
        | true => simp [hheeds.1 hh]
      rw [Watch.after?, if_neg hopen, ha, Option.map_some]
    rw [List.map_cons, Watch.through_cons]
    exact ⟨_, hafter, ih hheeds.2 h⟩

namespace Kept

lemma through_append (hk : Kept period events history s) (signs : List Sign) :
    Watch.through {} (history ++ signs) = s.watch.through signs := by
  rw [Watch.through_append, hk.watched, Option.bind_some]

lemma drains (hk : Kept period events history s) (hstage : s.stage = .serving) :
    Kept period (events ++ [.signal]) (history ++ []) { s with stage := .draining } := by
  have htold := hk.told
  have hsettled := hk.settled
  have hcloses := hk.closes_eq
  rw [hstage] at htold hsettled hcloses
  refine ⟨hk.period_eq, ?_, htold, ?_, hcloses, hk.onlyRefreshes, ?_, ?_, ?_⟩
  · rw [hk.through_append, watch, hstage]
    rfl
  · rw [List.filterMap_append, hsettled]
    rfl
  · simpa using hk.calls
  · simpa using hk.called
  · simpa using hk.broken

lemma winds (hk : Kept period events history s) {outcome : Except String Unit}
    (he : e.settles? = some outcome) (hstage : s.stage.settled? = none) :
    Kept period (events ++ [e]) (history ++ [.tells]) (s.windUp outcome) := by
  have hstopped : s.stage.hasStopped = false := by
    cases hs : s.stage with
    | stopped outcome => simp [hs, Stage.settled?] at hstage
    | _ => rfl
  have htold := hk.told
  have hsettled := hk.settled
  have hcloses := hk.closes_eq
  rw [hstage] at htold hsettled
  rw [hstopped] at hcloses
  refine ⟨hk.period_eq, ?_, rfl, ?_, hcloses, hk.onlyRefreshes, ?_, ?_, ?_⟩
  · rw [hk.through_append, watch, htold, hstopped]
    rfl
  · rw [List.filterMap_append, hsettled, List.filterMap_cons, he]
    rfl
  · simpa using hk.calls
  · exact fun q hq => List.mem_append_left _ (hk.called q hq)
  · simpa using hk.broken

lemma refreshes (hk : Kept period events history s) {m : Refresh.Move}
    {signs : List Refresh.Sign} {l : Refresh.Loop} (hmoved : Moved s.refresh m signs l)
    (hsame : l.cancelled = s.refresh.cancelled) :
    Kept period (events ++ [.refresh m]) (history ++ signs.map .refresh)
      { s with refresh := l } := by
  have hmem : ∀ a, .refresh a ∈ history ++ signs.map Sign.refresh →
      .refresh a ∈ history ∨ a ∈ signs := fun a ha => by simpa using ha
  refine ⟨hmoved.period_eq.trans hk.period_eq, ?_, hsame.trans hk.told, ?_, hk.closes_eq,
    hmoved.onlyRefreshes hk.onlyRefreshes, fun q hq => ?_, fun q hq => ?_, fun hbreaks => ?_⟩
  · have hthrough : s.watch.through (signs.map .refresh) =
        some { s.watch with loop := l.phase.standing } :=
      through_refresh (fun a ha hheeds => hmoved.told_of_heeds ha hheeds) hmoved.through
    rw [hk.through_append, hthrough, watch, watch, hsame]
  · rw [List.filterMap_append, hk.settled]
    exact List.append_nil _
  · rcases hmem _ hq with hq | hq
    · exact hk.calls q hq
    · exact hmoved.refreshes hk.onlyRefreshes hq
  · rcases hmoved.call_seen hq with hq | hq
    · exact List.mem_append_right _ (List.mem_map_of_mem hq)
    · exact List.mem_append_left _ (hk.called q hq)
  · rcases hmem _ hbreaks with hbreaks | hbreaks
    · exact hk.broken hbreaks
    · exact hk.period_eq.symm.trans (hmoved.period_of_breaks hbreaks)

lemma closes (hk : Kept period events history s) {outcome : Except String Unit}
    (hstage : s.stage = .winding outcome) (hover : s.refresh.phase.isOver = true) :
    Kept period (events ++ [.storeCloses]) (history ++ [.closes])
      { s with stage := .stopped outcome, closes := s.closes + 1 } := by
  have htold := hk.told
  have hsettled := hk.settled
  have hcloses := hk.closes_eq
  rw [hstage] at htold hsettled hcloses
  refine ⟨hk.period_eq, ?_, htold, ?_, ?_, hk.onlyRefreshes, ?_, ?_, ?_⟩
  · rw [hk.through_append, watch, watch, hstage, Refresh.standing_over.mpr hover, htold]
    rfl
  · rw [List.filterMap_append, hsettled]
    rfl
  · rw [hcloses]
    rfl
  · simpa using hk.calls
  · simpa using hk.called
  · simpa using hk.broken

lemma turned (hk : Kept period events history s) {signs : List Sign} (h : Turned s e signs t) :
    Kept period (events ++ [e]) (history ++ signs) t := by
  cases h with
  | drains hstage => exact hk.drains hstage
  | winds he hstage => exact hk.winds he hstage
  | refreshes hmoved hsame => exact hk.refreshes hmoved hsame
  | closes hstage hover => exact hk.closes hstage hover

end Kept

lemma kept_of_run (h : Run period events history s) : Kept period events history s := by
  obtain ⟨passages, trace, rfl, rfl⟩ := h
  induction trace with
  | nil => exact kept_initial
  | cons _ step ih =>
    rw [List.reverse_cons, List.map_append, List.flatMap_append, List.flatMap_singleton]
    exact ih.turned (turned_of_after? step)

namespace Kept

variable {before later : List Sign} {a : Sign}

lemma known_before (hk : Kept period events history s) (h : before <+: history) :
    ∃ w, Known before w := by
  obtain ⟨later, rfl⟩ := h
  have hwatched := hk.watched
  rw [Watch.through_append] at hwatched
  obtain ⟨w, hw, -⟩ := Option.bind_eq_some_iff.mp hwatched
  exact ⟨w, known_nil.through hw⟩

lemma known_at (hk : Kept period events history s) (h : history = before ++ a :: later) :
    ∃ w w', Known before w ∧ w.after? a = some w' ∧ w'.through later = some s.watch := by
  have hwatched := hk.watched
  rw [h, Watch.through_append] at hwatched
  obtain ⟨w, hw, hlater⟩ := Option.bind_eq_some_iff.mp hwatched
  obtain ⟨w', ha, hlater⟩ := Watch.through_cons.mp hlater
  exact ⟨w, w', known_nil.through hw, ha, hlater⟩

lemma one_cycle (hk : Kept period events history s) (h : before <+: history) :
    finished before ≤ begun before ∧ begun before ≤ finished before + 1 := by
  obtain ⟨w, hw⟩ := hk.known_before h
  have hcycles := hw.cycles
  have hway : underWay w.loop ≤ 1 := by cases w.loop <;> decide
  omega

lemma call_within (hk : Kept period events history s) {q : Effect}
    (h : history = before ++ .refresh (.calls q) :: later) :
    begun before = finished before + 1 ∧ .closes ∉ before ∧ Service.Refreshes q := by
  obtain ⟨w, w', hw, ha, -⟩ := hk.known_at h
  have hloop : w.loop = .within := by
    cases hl : w.loop <;> simp [Watch.after?, hl, Standing.after?] at ha ⊢
  have hcycles := hw.cycles
  rw [hloop] at hcycles
  refine ⟨hcycles, fun hclosed => ?_, hk.calls q (by rw [h]; simp)⟩
  have hover := (hw.closed_last (hw.closed.mpr hclosed)).2
  cases hloop.symm.trans hover

lemma tells_before_leaves (hk : Kept period events history s)
    (h : history = before ++ .refresh .leaves :: later) : .tells ∈ before := by
  obtain ⟨w, w', hw, ha, -⟩ := hk.known_at h
  refine hw.told.mp ?_
  cases htold : w.told with
  | true => rfl
  | false => simp [Watch.after?, Refresh.Sign.heeds, htold] at ha

lemma nil_of_closed {w w' : Watch} (hw : Known before w) (hclosed : w.closed = true)
    (h : w.through later = some w') : later = [] := by
  cases later with
  | nil => rfl
  | cons a later =>
    -- by then the task was told to end and is over, so neither can be seen again
    obtain ⟨htold, hloop⟩ := hw.closed_last hclosed
    obtain ⟨_, ha, -⟩ := Watch.through_cons.mp h
    cases a with
    | refresh a => simp [Watch.after?, hloop, htold, Standing.after?] at ha
    | tells => simp [Watch.after?, htold] at ha
    | closes => simp [Watch.after?, hclosed] at ha

lemma closes_last (hk : Kept period events history s) (h : history = before ++ .closes :: later) :
    .tells ∈ before ∧ (.refresh .leaves ∈ before ∨ .refresh .breaks ∈ before) ∧
      .closes ∉ before ∧ later = [] := by
  obtain ⟨w, w', hw, ha, hlater⟩ := hk.known_at h
  have hknown := hw.snoc ha
  simp only [Watch.after?] at ha
  split_ifs at ha with hlast
  cases ha
  simp only [Bool.and_eq_true, decide_eq_true_eq, Bool.not_eq_true'] at hlast
  obtain ⟨⟨htold, hover⟩, hopen⟩ := hlast
  refine ⟨hw.told.mp htold, hw.ended.mp hover, fun hclosed => ?_, nil_of_closed hknown rfl hlater⟩
  rw [hw.closed.mpr hclosed] at hopen
  cases hopen

lemma loop_of_no_refresh {w w' : Watch} (h : w.through later = some w')
    (hnone : ∀ a, .refresh a ∉ later) : w'.loop = w.loop := by
  induction later generalizing w with
  | nil =>
    cases h
    rfl
  | cons b later ih =>
    obtain ⟨w₁, hb, h⟩ := Watch.through_cons.mp h
    rw [ih h fun a ha => hnone a (List.mem_cons_of_mem _ ha)]
    cases b with
    | refresh a => exact (hnone a List.mem_cons_self).elim
    | tells =>
      simp only [Watch.after?] at hb
      split_ifs at hb
      cases hb
      rfl
    | closes =>
      simp only [Watch.after?] at hb
      split_ifs at hb
      cases hb
      rfl

lemma waiting_of_finishes (hk : Kept period events history s) {r : Except RefreshError Nat}
    (h : history = before ++ .refresh (.finishes r) :: later)
    (hnone : ∀ a, .refresh a ∉ later) : ∃ due, s.refresh.phase = .waiting due := by
  obtain ⟨w, w', hw, ha, hlater⟩ := hk.known_at h
  have hloop : w'.loop = .between := by
    cases hl : w.loop <;> simp [Watch.after?, hl, Standing.after?, Refresh.Sign.heeds] at ha
    rw [← ha]
  exact Refresh.standing_between ((loop_of_no_refresh hlater hnone).trans hloop)

lemma outcome_iff (hk : Kept period events history s) {outcome : Except String Unit}
    (h : s.stage = .stopped outcome) : (∃ reason, outcome = .error reason) ↔
      ∃ reason, .servingEnds (.failed reason) ∈ events ∨
        .servingEnds (.crashed reason) ∈ events := by
  have hsettled := hk.settled
  rw [h] at hsettled
  have hmem : ∀ o, o = outcome ↔ ∃ e ∈ events, e.settles? = some o := fun o => by
    rw [← List.mem_filterMap, hsettled]
    simp [Stage.settled?]
  constructor
  · rintro ⟨reason, hreason⟩
    obtain ⟨e, he, hsettles⟩ := (hmem _).mp hreason.symm
    cases e with
    | servingEnds how =>
      cases how with
      | finished => cases hsettles
      | failed cause => exact ⟨cause, .inl he⟩
      | crashed cause => exact ⟨cause, .inr he⟩
    | _ => cases hsettles
  · rintro ⟨reason, he | he⟩
    · exact ⟨_, ((hmem _).mpr ⟨_, he, rfl⟩).symm⟩
    · exact ⟨_, ((hmem _).mpr ⟨_, he, rfl⟩).symm⟩

end Kept

lemma begins_of_waiting {due now : Nat} (h : s.refresh.phase = .waiting due) (hdue : due ≤ now) :
    (∃ t, s.after? (.refresh (.tick now)) = some t) ∧ s.signs (.refresh (.tick now)) =
      [.refresh .begins, .refresh (.calls (.store (.query {})))] := by
  constructor
  · simp [after?, Refresh.Loop.after?, h, hdue]
  · simp only [signs, Refresh.Loop.signs, h, Refresh.ofCycle_refresh, List.map_cons, List.map_nil]

lemma stops_of_over {outcome : Except String Unit} (h : Run period events history s)
    (hstage : s.stage = .winding outcome) (hover : s.refresh.phase.isOver = true) :
    ∃ later history' t, Run period (events ++ later) history' t ∧ t.outcome? = some outcome := by
  have hafter : s.after? .storeCloses =
      some { s with stage := .stopped outcome, closes := s.closes + 1 } := by
    simp only [after?, hstage, hover, if_true]
  exact ⟨_, _, _, h.snoc hafter, rfl⟩

lemma stops_of_winding {outcome : Except String Unit} (h : Run period events history s)
    (hstage : s.stage = .winding outcome) :
    ∃ later history' t, Run period (events ++ later) history' t ∧ t.outcome? = some outcome := by
  by_cases hover : s.refresh.phase.isOver = true
  · exact stops_of_over h hstage hover
  · have htold : s.refresh.cancelled = true := by
      rw [(kept_of_run h).told, hstage]
      rfl
    rw [Bool.not_eq_true] at hover
    have hafter : s.after? (.refresh .notice) = some { s with refresh :=
        { s.refresh with phase := s.refresh.phase.cancel s.refresh.period } } := by
      simp [after?, Refresh.Loop.after?, htold, hover]
    have hend : (s.refresh.phase.cancel s.refresh.period).isOver = true := by
      cases s.refresh.phase <;> simp only [Refresh.Phase.cancel] <;> (try split) <;> rfl
    obtain ⟨later, history', t, hrun, ht⟩ := stops_of_over (h.snoc hafter) hstage hend
    refine ⟨.refresh .notice :: later, history', t, ?_, ht⟩
    rwa [List.append_assoc, List.singleton_append] at hrun

lemma stops (h : Run period events history s) : ∃ later history' t outcome,
    Run period (events ++ later) history' t ∧ t.outcome? = some outcome := by
  have hfinished : ∀ {t}, s.after? (.servingEnds .finished) = some t → t = s.windUp (.ok ()) →
      ∃ later history' t outcome, Run period (events ++ later) history' t ∧
        t.outcome? = some outcome := by
    rintro t hafter rfl
    obtain ⟨later, history', t, hrun, ht⟩ := stops_of_winding (h.snoc hafter) rfl
    refine ⟨.servingEnds .finished :: later, history', t, _, ?_, ht⟩
    rwa [List.append_assoc, List.singleton_append] at hrun
  cases hstage : s.stage with
  | serving => exact hfinished (by simp only [after?, hstage]; rfl) rfl
  | draining => exact hfinished (by simp only [after?, hstage]; rfl) rfl
  | winding outcome =>
    obtain ⟨later, history', t, hrun, ht⟩ := stops_of_winding h hstage
    exact ⟨later, history', t, outcome, hrun, ht⟩
  | stopped outcome =>
    refine ⟨[], history, s, outcome, by rwa [List.append_nil], ?_⟩
    rw [outcome?, hstage]

/-- How a server and its refresh task get on. A task without time between its ticks breaks down
before it enters its loop. -/
structure Orderly (period : Nat) (events : List Event) (history : List Sign) (s : Lifecycle) :
    Prop where
  under_way : (∃ q, s.refresh.phase.call? = some q) ↔ begun history = finished history + 1
  called : ∀ q, s.refresh.phase.call? = some q → .refresh (.calls q) ∈ history
  tells_iff : .tells ∈ history ↔ s.refresh.cancelled = true
  over_iff : s.refresh.phase.isOver = true ↔
    .refresh .leaves ∈ history ∨ .refresh .breaks ∈ history
  one_cycle : ∀ before, before <+: history →
    finished before ≤ begun before ∧ begun before ≤ finished before + 1
  call_within : ∀ before q later, history = before ++ .refresh (.calls q) :: later →
    begun before = finished before + 1 ∧ .closes ∉ before ∧ Service.Refreshes q
  goes_on : ∀ before r later, history = before ++ .refresh (.finishes r) :: later →
    (∀ a, .refresh a ∉ later) → ∃ due, s.refresh.phase = .waiting due ∧ ∀ now ≥ due,
      (∃ t, s.after? (.refresh (.tick now)) = some t) ∧ s.signs (.refresh (.tick now)) =
        [.refresh .begins, .refresh (.calls (.store (.query {})))]
  tells_before_leaves : ∀ before later, history = before ++ .refresh .leaves :: later →
    .tells ∈ before
  breaks : .refresh .breaks ∈ history → period = 0 ∧ .refresh .begins ∉ history
  closes_last : ∀ before later, history = before ++ .closes :: later →
    .tells ∈ before ∧ (.refresh .leaves ∈ before ∨ .refresh .breaks ∈ before) ∧
      .closes ∉ before ∧ later = []
  closes_iff : .closes ∈ history ↔ ∃ outcome, s.outcome? = some outcome
  closes_eq : (.closes ∈ history → s.closes = 1) ∧ (.closes ∉ history → s.closes = 0)
  outcome_iff : ∀ outcome, s.outcome? = some outcome → ((∃ reason, outcome = .error reason) ↔
    ∃ reason, .servingEnds (.failed reason) ∈ events ∨ .servingEnds (.crashed reason) ∈ events)
  stops : ∃ later history' t outcome, Run period (events ++ later) history' t ∧
    t.outcome? = some outcome

lemma outcome?_isSome : (∃ outcome, s.outcome? = some outcome) ↔ s.stage.hasStopped = true := by
  cases hstage : s.stage <;> simp [outcome?, hstage, Stage.hasStopped]

lemma stage_of_outcome? {outcome : Except String Unit} (h : s.outcome? = some outcome) :
    s.stage = .stopped outcome := by
  unfold outcome? at h
  split at h <;> cases h
  assumption

/-- A server gets on in order, whatever happens to it and in which order. -/
theorem orderly_of_run (h : Run period events history s) : Orderly period events history s := by
  have hk := kept_of_run h
  have hknown : Known history s.watch := known_nil.through hk.watched
  have hclosed : .closes ∈ history ↔ s.stage.hasStopped = true := hknown.closed.symm
  have hcycles : begun history = finished history + underWay s.refresh.phase.standing :=
    hknown.cycles
  refine ⟨?_, hk.called, hknown.told.symm, Refresh.standing_over.symm.trans hknown.ended,
    fun _ => hk.one_cycle, fun _ _ _ => hk.call_within, fun _ _ _ hsplit hnone => ?_,
    fun _ _ => hk.tells_before_leaves, fun hbreaks => ⟨hk.broken hbreaks, hknown.broken hbreaks⟩,
    fun _ _ => hk.closes_last, hclosed.trans outcome?_isSome.symm, ⟨fun hmem => ?_, fun hmem => ?_⟩,
    fun _ houtcome => hk.outcome_iff (stage_of_outcome? houtcome), stops h⟩
  · rw [← Refresh.standing_within, hcycles]
    cases s.refresh.phase.standing <;> simp [underWay]
  · obtain ⟨due, hdue⟩ := hk.waiting_of_finishes hsplit hnone
    exact ⟨due, hdue, fun now hnow => begins_of_waiting hdue hnow⟩
  · rw [hk.closes_eq, if_pos (hclosed.mp hmem)]
  · rw [hk.closes_eq, if_neg (mt hclosed.mpr hmem)]

def unreachable : (q : Effect) → q.Answer
  | .store _ => .error (.connection "gone")
  | .cache _ => .error (.backend "gone")
  | .account _ => .error (.storage "gone")
  | .clock => ⟨0, 0⟩
  | .salt => .replicate 16 0
  | .pick _ => ⟨0, Nat.succ_pos _⟩

theorem orderly_of_run_failed :
    let events := [.refresh (.tick 0), .refresh (.answer unreachable), .refresh (.tick 30000),
      .servingEnds (.failed "broken pipe"), .refresh .notice, .storeCloses]
    ∃ history s, Run 30000 events history s ∧ Orderly 30000 events history s ∧ begun history = 2 ∧
      s.closes = 1 ∧ s.outcome? = some (.error "broken pipe") := by
  intro events
  have hlistens : Run 30000 [] [] _ := .nil
  have hfails := (hlistens.snoc (e := .refresh (.tick 0)) rfl).snoc
    (e := .refresh (.answer unreachable)) rfl
  have hends := (hfails.snoc (e := .refresh (.tick 30000)) rfl).snoc
    (e := .servingEnds (.failed "broken pipe")) rfl
  have hrun : Run 30000 events _ _ :=
    (hends.snoc (e := .refresh .notice) rfl).snoc (e := .storeCloses) rfl
  exact ⟨_, _, hrun, orderly_of_run hrun, rfl, rfl, rfl⟩

end Lifecycle

end Billboard
