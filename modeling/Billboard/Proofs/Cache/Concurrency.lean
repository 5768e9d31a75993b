import Billboard.Proofs.Banner.Identity
import Billboard.Proofs.Cache.Steps
import Billboard.Proofs.Trace
import Mathlib.Logic.Function.Basic

/-! Calls of the cache inside the process that go on side by side, with time between their steps. -/

namespace Billboard

open Banner (indexKey)
open Stepwise (Record OnlyMakes Searched)

structure CacheTask where
  call : CacheCall
  visit : Visit
  rest : Stepwise call.Answer

structure CacheSystem where
  now : Nat
  cache : LocalCache
  tasks : Nat → Option CacheTask := fun _ => none
  begun : Nat := 0

inductive CacheMove where
  | launch (visit : Visit) (c : CacheCall)
  | step (i : Nat) (q : CacheStep) (a : q.Answer)
  | wait (ms : Nat)

abbrev CacheEvent : Type := Passage CacheSystem CacheMove

def CacheStep.Supersedes (id : Int) : CacheStep → Prop
  | .keep b => b.id = id
  | .remove j => j = id
  | _ => False

def CacheMove.Supersedes (id : Int) : CacheMove → Prop
  | .step _ q _ => q.Supersedes id
  | _ => False

/-- Whether a call may be the end of what is kept under an id at a moment. -/
def CacheCall.MayDrop (now : Nat) (id : Int) (x : CacheEntry) : CacheCall → Prop
  | .put b => b.id = id
  | .get .. => x.expired now = true
  | .delete j => j = id
  | .ping => False

lemma CacheCall.Makes.mayDrop {c : CacheCall} {q : CacheStep} (h : c.Makes q) {now : Nat} {id : Int}
    {x : CacheEntry} (hq : q.Supersedes id ∨ (q = .evict id ∧ x.expired now = true)) :
    c.MayDrop now id x := by
  cases c with
  | put b =>
    rcases h with rfl | ⟨key, rfl⟩
    · exact hq.resolve_right fun ⟨he, _⟩ => nomatch he
    · exact (hq.resolve_right fun ⟨he, _⟩ => nomatch he).elim
  | get f t =>
    rcases hq with hq | ⟨-, hexp⟩
    · rcases h with rfl | ⟨j, rfl | rfl⟩ <;> exact hq.elim
    · exact hexp
  | delete j =>
    obtain rfl := h
    exact hq.resolve_right fun ⟨he, _⟩ => nomatch he
  | ping => exact h.elim

namespace CacheSystem

def start (cache : LocalCache) (now : Nat) : CacheSystem := { now, cache }

def launched (s : CacheSystem) (visit : Visit) (c : CacheCall) : CacheSystem :=
  { s with
    tasks := Function.update s.tasks s.begun (some ⟨c, visit, Stepwise.call visit c⟩)
    begun := s.begun + 1 }

def Step (s : CacheSystem) : CacheMove → CacheSystem → Prop
  | .launch visit c, t => t = s.launched visit c
  | .step i q a, t => ∃ c visit next, s.tasks i = some ⟨c, visit, .ask q next⟩ ∧
      a = (s.cache.step s.now q).1 ∧ t = { s with
        cache := (s.cache.step s.now q).2
        tasks := Function.update s.tasks i (some ⟨c, visit, next a⟩) }
  | .wait ms, t => t = { s with now := s.now + ms }

abbrev Run (s : CacheSystem) : List CacheEvent → CacheSystem → Prop := Trace Step s

variable {s t : CacheSystem} {m : CacheMove} {e : CacheEvent} {history : List CacheEvent}

lemma Step.now_le (h : s.Step m t) : s.now ≤ t.now := by
  cases m with
  | launch visit c =>
    rw [h, launched]
  | step i q a =>
    obtain ⟨c, visit, next, -, -, rfl⟩ := h
    exact le_rfl
  | wait ms =>
    rw [h]
    exact Nat.le_add_right _ _

lemma Step.cache (h : s.Step m t) : t.cache = s.cache ∨
    ∃ i q, m = .step i q (s.cache.step s.now q).1 ∧ t.cache = (s.cache.step s.now q).2 := by
  cases m with
  | launch visit c =>
    rw [h]
    exact .inl rfl
  | step i q a =>
    obtain ⟨c, visit, next, -, rfl, rfl⟩ := h
    exact .inr ⟨i, q, rfl, rfl⟩
  | wait ms =>
    rw [h]
    exact .inl rfl

lemma Step.ttl (h : s.Step m t) : t.cache.ttl = s.cache.ttl := by
  rcases h.cache with he | ⟨i, q, -, he⟩
  · rw [he]
  · rw [he, LocalCache.ttl_step]

lemma Step.members (h : s.Step m t) {key : String} {id : Int} (hid : id ∈ s.cache.members key) :
    id ∈ t.cache.members key := by
  rcases h.cache with he | ⟨i, q, -, he⟩
  · rwa [he]
  · rw [he]
    exact LocalCache.mem_members_step.mpr (.inl hid)

lemma Step.kept (h : s.Step m t) {id : Int} {x : CacheEntry} (hx : s.cache.kept? id = some x) :
    t.cache.kept? id = some x ∨ m.Supersedes id ∨
      (x.expired s.now = true ∧ ∃ i, m = .step i (.evict id) ()) := by
  rcases h.cache with he | ⟨i, q, rfl, he⟩
  · exact .inl (he ▸ hx)
  · rw [he]
    rcases s.cache.kept?_step s.now q id with hsame | ⟨b, rfl, hb⟩ | rfl | ⟨y, rfl, hy, hexp⟩
    · exact .inl (hsame.trans hx)
    · exact .inr (.inl hb)
    · exact .inr (.inl rfl)
    · obtain rfl := Option.some.inj (hx.symm.trans hy)
      exact .inr (.inr ⟨hexp, i, rfl⟩)

lemma Run.ttl (h : s.Run history t) : t.cache.ttl = s.cache.ttl :=
  h.preserves (p := fun u => u.cache.ttl = s.cache.ttl) (fun step he => step.ttl.trans he) rfl

lemma Run.members (h : s.Run history t) {key : String} {id : Int}
    (hid : id ∈ s.cache.members key) : id ∈ t.cache.members key :=
  h.preserves (p := fun u => id ∈ u.cache.members key) (fun step => step.members) hid

lemma Run.kept (h : s.Run history t) {id : Int} {x : CacheEntry}
    (hx : s.cache.kept? id = some x) (hkeeps : ∀ e ∈ history, ¬ e.move.Supersedes id) :
    t.cache.kept? id = some x ∨ x.expired t.now = true := by
  induction h with
  | nil => exact .inl hx
  | cons _ step ih =>
    obtain ⟨hlast, hkeeps⟩ := List.forall_mem_cons.mp hkeeps
    rcases ih hkeeps with hx | hexp
    · rcases step.kept hx with hx | hsupersedes | ⟨hexp, -⟩
      · exact .inl hx
      · exact (hlast hsupersedes).elim
      · exact .inr (CacheEntry.expired_mono hexp step.now_le)
    · exact .inr (CacheEntry.expired_mono hexp step.now_le)

lemma Step.tasks {i : Nat} {τ : CacheTask} (h : s.Step m t) (hi : t.tasks i = some τ) :
    (s.tasks i = some τ ∧ ∀ q a, m ≠ .step i q a) ∨
    (∃ visit c, m = .launch visit c ∧ i = s.begun ∧ τ = ⟨c, visit, Stepwise.call visit c⟩) ∨
    ∃ c visit q next a, m = .step i q a ∧ s.tasks i = some ⟨c, visit, .ask q next⟩ ∧
      τ = ⟨c, visit, next a⟩ := by
  cases m with
  | launch visit c =>
    rw [h, launched] at hi
    simp only [Function.update_apply] at hi
    split_ifs at hi with hib
    · exact .inr (.inl ⟨visit, c, rfl, hib, (Option.some.inj hi).symm⟩)
    · exact .inl ⟨hi, nofun⟩
  | wait ms =>
    rw [h] at hi
    exact .inl ⟨hi, nofun⟩
  | step j q a =>
    obtain ⟨c, visit, next, hj, -, rfl⟩ := h
    simp only [Function.update_apply] at hi
    split_ifs at hi with hij
    · subst hij
      exact .inr (.inr ⟨c, visit, q, next, a, rfl, hj, (Option.some.inj hi).symm⟩)
    · refine .inl ⟨hi, fun q' a' he => hij ?_⟩
      cases he
      rfl

end CacheSystem

def CacheMove.said (i : Nat) : CacheMove → Record
  | .step j q a => if j = i then [⟨q, a⟩] else []
  | _ => []

def record (history : List CacheEvent) (i : Nat) : Record :=
  history.reverse.flatMap fun e => e.move.said i

section

variable {history : List CacheEvent} {e : CacheEvent} {i : Nat} {q : CacheStep} {a : q.Answer}

lemma record_cons (e : CacheEvent) (history : List CacheEvent) (i : Nat) :
    record (e :: history) i = record history i ++ e.move.said i := by
  rw [record, List.reverse_cons, List.flatMap_append, List.flatMap_singleton]
  rfl

lemma CacheMove.mem_said {m : CacheMove} : ⟨q, a⟩ ∈ m.said i ↔ m = .step i q a := by
  cases m with
  | launch visit c => exact ⟨fun h => (List.not_mem_nil h).elim, nofun⟩
  | wait ms => exact ⟨fun h => (List.not_mem_nil h).elim, nofun⟩
  | step j p b =>
    rw [said]
    split_ifs with hj
    · rw [List.mem_singleton, hj]
      constructor
      · intro h
        cases h
        rfl
      · intro h
        cases h
        rfl
    · refine ⟨fun h => (List.not_mem_nil h).elim, fun h => ?_⟩
      cases h
      exact (hj rfl).elim

lemma mem_record : ⟨q, a⟩ ∈ record history i ↔ ∃ e ∈ history, e.move = .step i q a := by
  simp only [record, List.mem_flatMap, List.mem_reverse, CacheMove.mem_said]

end

namespace CacheSystem

variable {cache : LocalCache} {now : Nat} {s t : CacheSystem} {m : CacheMove}
  {history : List CacheEvent} {e : CacheEvent} {i : Nat}

lemma Run.unbegun (h : (start cache now).Run history s) :
    ∀ i, s.begun ≤ i → s.tasks i = none ∧ record history i = [] := by
  induction h with
  | nil => exact fun _ _ => ⟨rfl, rfl⟩
  | @cons history s m t _ step ih =>
    intro i hi
    rw [record_cons]
    cases m with
    | launch visit c =>
      rw [step] at hi ⊢
      have hlt : s.begun < i := hi
      obtain ⟨hnone, hnil⟩ := ih i hlt.le
      exact ⟨(Function.update_of_ne hlt.ne' _ _).trans hnone, congrArg (· ++ []) hnil⟩
    | wait ms =>
      rw [step] at hi ⊢
      obtain ⟨hnone, hnil⟩ := ih i hi
      exact ⟨hnone, congrArg (· ++ []) hnil⟩
    | step j q a =>
      obtain ⟨c, visit, next, hj, -, rfl⟩ := step
      obtain ⟨hnone, hnil⟩ := ih i hi
      have hij : i ≠ j := fun he => by
        rw [he, hj] at hnone
        cases hnone
      refine ⟨(Function.update_of_ne hij _ _).trans hnone, ?_⟩
      rw [hnil, CacheMove.said, if_neg hij.symm, List.append_nil]

lemma Run.leads (h : (start cache now).Run history s) :
    ∀ i τ, s.tasks i = some τ → OnlyMakes τ.call.Makes τ.rest ∧
      (Stepwise.call τ.visit τ.call).Leads (record history i) τ.rest := by
  induction h with
  | nil => nofun
  | @cons history s m t run step ih =>
    intro i τ hτ
    rw [record_cons]
    rcases step.tasks hτ with ⟨hs, hm⟩ | ⟨visit, c, rfl, rfl, rfl⟩ |
      ⟨c, visit, q, next, a, rfl, hs, rfl⟩
    · have hnil : m.said i = [] := List.eq_nil_iff_forall_not_mem.mpr fun ⟨q, a⟩ hmem =>
        hm q a (CacheMove.mem_said.mp hmem)
      rw [hnil, List.append_nil]
      exact ih i τ hs
    · rw [(Run.unbegun run _ le_rfl).2]
      exact ⟨Stepwise.onlyMakes_call visit c, .nil _⟩
    · obtain ⟨honly, hleads⟩ := ih i _ hs
      rw [CacheMove.said, if_pos rfl]
      exact ⟨honly.2 a () trivial, hleads.snoc a⟩

lemma Run.step (h : (start cache now).Run history s) {q : CacheStep} {a : q.Answer}
    (he : e ∈ history) (hm : e.move = .step i q a) :
    a = (e.before.cache.step e.before.now q).1 ∧
      ∃ τ, e.before.tasks i = some τ ∧ τ.call.Makes q := by
  obtain ⟨_, _, -, run, step, -⟩ := h.at_mem he
  rw [hm] at step
  obtain ⟨c, visit, next, hi, ha, -⟩ := step
  exact ⟨ha, _, hi, (Run.leads run i _ hi).1.1⟩

lemma Run.dropped (h : (start cache now).Run history s) (he : e ∈ history) {id : Int}
    {x : CacheEntry} (hx : e.before.cache.kept? id = some x)
    (hgone : e.after.cache.kept? id ≠ some x) :
    ∃ i q a τ, e.move = .step i q a ∧ e.before.tasks i = some τ ∧
      τ.call.MayDrop e.before.now id x := by
  obtain ⟨_, _, -, -, step, -⟩ := h.at_mem he
  rcases step.kept hx with hsame | hsupersedes | ⟨hexp, i, hm⟩
  · exact (hgone hsame).elim
  · cases hm : e.move with
    | step i q a =>
      obtain ⟨-, τ, hi, hmakes⟩ := h.step he hm
      rw [hm] at hsupersedes
      exact ⟨i, q, a, τ, rfl, hi, hmakes.mayDrop (.inl hsupersedes)⟩
    | _ =>
      rw [hm] at hsupersedes
      exact hsupersedes.elim
  · obtain ⟨-, τ, hi, hmakes⟩ := h.step he hm
    exact ⟨i, _, _, τ, hm, hi, hmakes.mayDrop (.inr ⟨rfl, hexp⟩)⟩

lemma Run.served (h : (start cache now).Run history s) {f t : Int} {visit : Visit} {b : Banner}
    (hi : s.tasks i = some ⟨.get f t, visit, .done (.ok b)⟩) :
    ∃ e ∈ history, ∃ id x, e.move = .step i (.read id) (some x.payload) ∧
      e.before.cache.kept? id = some x ∧ x.expired e.before.now = false ∧
      Banner.decode? x.payload = some b ∧ b.active = true ∧ b.serves f t = true := by
  obtain ⟨ids, found, -, hsearched, hr⟩ := Stepwise.get_told (h.leads i _ hi).2
  cases hsearched with
  | nothing _ => cases hr
  | @found id payload b' hread hb =>
    cases hr
    obtain ⟨e, he, hm⟩ := mem_record.mp hread
    obtain ⟨x, hx, hexp, rfl⟩ := LocalCache.live?_eq_some.mp (h.step he hm).1.symm
    rw [Banner.servable?, Option.filter_eq_some_iff, Bool.and_eq_true] at hb
    exact ⟨e, he, id, x, hm, hx, hexp, hb⟩

lemma Run.put_done (h : (start cache now).Run history s) {b : Banner} {visit : Visit}
    {r : Except CacheError Unit} (hi : s.tasks i = some ⟨.put b, visit, .done r⟩) :
    (∃ e ∈ history, e.move = .step i (.keep b) ()) ∧
      ∀ f t, b.serves f t = true → b.id ∈ s.cache.members (indexKey f t) := by
  obtain ⟨hkeep, hlist⟩ := Stepwise.put_told (h.leads i _ hi).2
  refine ⟨mem_record.mp hkeep, fun f t hserves => ?_⟩
  obtain ⟨e, he, hm⟩ := mem_record.mp (hlist _ (Banner.mem_indexKeys.mpr hserves))
  obtain ⟨_, _, -, -, step, later⟩ := h.at_mem he
  rw [hm] at step
  obtain ⟨c, visit, next, -, -, hafter⟩ := step
  refine Run.members later ?_
  rw [hafter]
  exact LocalCache.mem_members_step.mpr (.inr rfl)

lemma Run.mem_later {later earlier : List CacheEvent} {launch : CacheEvent}
    (h : (start cache now).Run (later ++ launch :: earlier) s) {visit : Visit} {c : CacheCall}
    (hlaunch : launch.move = .launch visit c) {q : CacheStep} {a : q.Answer}
    (hsaid : ⟨q, a⟩ ∈ record (later ++ launch :: earlier) launch.before.begun) :
    ∃ e ∈ later, e.move = .step launch.before.begun q a := by
  obtain ⟨e, he, hm⟩ := mem_record.mp hsaid
  refine ⟨e, ?_, hm⟩
  rcases List.mem_append.mp he with he | he
  · exact he
  · rcases List.mem_cons.mp he with rfl | he
    · rw [hlaunch] at hm
      cases hm
    · have hnil := (Run.unbegun h.at_passage.1 _ le_rfl).2
      have hearlier := mem_record.mpr ⟨e, he, hm⟩
      rw [hnil] at hearlier
      exact (List.not_mem_nil hearlier).elim

lemma Run.read {mid older newer : List CacheEvent} {put : CacheEvent} {b : Banner} {j : Nat}
    (h : (start cache now).Run (newer ++ e :: (mid ++ put :: older)) s)
    (hput : put.move = .step j (.keep b) ()) {a : Option ByteArray}
    (hread : e.move = .step i (.read b.id) a) (hkeeps : ∀ e ∈ mid, ¬ e.move.Supersedes b.id)
    (hlasts : (CacheEntry.mk b.encode put.before.now cache.ttl).expired e.before.now = false) :
    a = some b.encode := by
  obtain ⟨hrun, -, -⟩ := h.at_passage
  obtain ⟨hbefore, hstep, hmid⟩ := hrun.at_passage
  have ha := (h.step (List.mem_append_right _ List.mem_cons_self) hread).1
  rw [hput] at hstep
  obtain ⟨c, visit, next, -, -, hafter⟩ := hstep
  have httl : put.before.cache.ttl = cache.ttl := Run.ttl hbefore
  have hkept : put.after.cache.kept? b.id = some ⟨b.encode, put.before.now, cache.ttl⟩ := by
    rw [hafter, ← httl]
    exact LocalCache.kept?_keep _ _ _
  rcases Run.kept hmid hkept hkeeps with hx | hexp
  · exact ha.trans (LocalCache.live?_eq_some.mpr ⟨_, hx, hlasts, rfl⟩)
  · rw [hlasts] at hexp
    cases hexp

/-- A put inserted the payload of a banner, which was superseded or had expired before a step of a
task. -/
def Lost (history : List CacheEvent) (ttl putter : Nat) (b : Banner) (i : Nat) : Prop :=
  ∃ newer e mid put older q a, history = newer ++ e :: (mid ++ put :: older) ∧
    put.move = .step putter (.keep b) () ∧ e.move = .step i q a ∧
    ((∃ e ∈ mid, e.move.Supersedes b.id) ∨
      (CacheEntry.mk b.encode put.before.now ttl).expired e.before.now = true)

lemma Run.finds {later earlier : List CacheEvent} {launch : CacheEvent} {f t : Int}
    {visit visit' : Visit} {b : Banner} {j : Nat} {r' : Except CacheError Unit}
    {r : Except CacheError Banner} (h : (start cache now).Run (later ++ launch :: earlier) s)
    (hlaunch : launch.move = .launch visit (.get f t))
    (hput : launch.before.tasks j = some ⟨.put b, visit', .done r'⟩)
    (hget : s.tasks launch.before.begun = some ⟨.get f t, visit, .done r⟩)
    (hactive : b.active = true) (hserves : b.serves f t = true)
    (hdecodes : (Banner.decode? b.encode).isSome = true) :
    (∃ b', r = .ok b') ∨
      Lost (later ++ launch :: earlier) cache.ttl j b launch.before.begun := by
  obtain ⟨hrun, hstep, -⟩ := h.at_passage
  obtain ⟨⟨put, hmem, hkeep⟩, hlisted⟩ := Run.put_done hrun hput
  obtain ⟨between, older, rfl⟩ := List.append_of_mem hmem
  obtain ⟨ids, found, hids, hsearched, rfl⟩ := Stepwise.get_told (h.leads _ _ hget).2
  cases hsearched with
  | found _ _ => exact .inl ⟨_, rfl⟩
  | nothing hall =>
    have hid : b.id ∈ ids := by
      obtain ⟨e, he, hm⟩ := h.mem_later hlaunch hids
      rw [(h.step (List.mem_append_left _ he) hm).1]
      obtain ⟨newer, since, rfl⟩ := List.append_of_mem he
      rw [List.append_assoc] at h
      obtain ⟨hbefore, -, -⟩ := h.at_passage
      obtain ⟨-, -, hsince⟩ := hbefore.at_passage
      exact Run.members hsince (hstep.members (hlisted f t hserves))
    obtain ⟨a, hsaid, hnone⟩ := hall b.id hid
    obtain ⟨e, he, hm⟩ := h.mem_later hlaunch hsaid
    obtain ⟨newer, since, rfl⟩ := List.append_of_mem he
    have hsplit : newer ++ e :: since ++ launch :: (between ++ put :: older) =
        newer ++ e :: ((since ++ launch :: between) ++ put :: older) := by
      simp only [List.append_assoc, List.cons_append]
    -- either it was lost before this read of it, or the read found it
    rw [hsplit] at h ⊢
    refine .inr ⟨newer, e, since ++ launch :: between, put, older, _, a, rfl, hkeep, hm, ?_⟩
    by_contra hkept
    obtain ⟨hkeeps, hlasts⟩ := not_or.mp hkept
    have ha := h.read hkeep hm (fun e he hs => hkeeps ⟨e, he, hs⟩) (Bool.eq_false_iff.mpr hlasts)
    rw [ha, Option.bind_some] at hnone
    have hsome := Banner.servable?_encode hactive hserves hdecodes
    rw [hnone] at hsome
    cases hsome

/-- A payload goes only when a put or a delete of its id makes a step, or when it has expired. A
read that begins when an active banner was put for its pair returns one, unless that one is lost. -/
theorem Run.loses_nothing (h : (start cache now).Run history s) :
    (∀ e ∈ history, ∀ id x, e.before.cache.kept? id = some x → e.after.cache.kept? id ≠ some x →
      ∃ i q a τ, e.move = .step i q a ∧ e.before.tasks i = some τ ∧
        τ.call.MayDrop e.before.now id x) ∧
    (∀ e ∈ history, ∀ key, e.before.cache.members key ⊆ s.cache.members key) ∧
    (∀ i f t visit b, s.tasks i = some ⟨.get f t, visit, .done (.ok b)⟩ →
      ∃ e ∈ history, ∃ id x, e.move = .step i (.read id) (some x.payload) ∧
        e.before.cache.kept? id = some x ∧ x.expired e.before.now = false ∧
        Banner.decode? x.payload = some b ∧ b.active = true ∧ b.serves f t = true) ∧
    ∀ later launch earlier, history = later ++ launch :: earlier →
      ∀ f t visit, launch.move = .launch visit (.get f t) →
      ∀ j b visit' r', launch.before.tasks j = some ⟨.put b, visit', .done r'⟩ →
      b.active = true → b.serves f t = true → (Banner.decode? b.encode).isSome = true →
      ∀ r, s.tasks launch.before.begun = some ⟨.get f t, visit, .done r⟩ →
        (∃ b', r = .ok b') ∨ Lost history cache.ttl j b launch.before.begun := by
  refine ⟨fun e he id x hx hgone => h.dropped he hx hgone, fun e he key id hid => ?_,
    fun i f t visit b hi => h.served hi, ?_⟩
  · obtain ⟨_, _, -, -, step, later⟩ := h.at_mem he
    exact Run.members later (step.members hid)
  · rintro later launch earlier rfl f t visit hlaunch j b visit' r' hput hactive hserves hdecodes r
      hget
    exact h.finds hlaunch hput hget hactive hserves hdecodes

lemma exists_run_done {c : CacheCall} {visit : Visit} (d : Stepwise c.Answer) {s : CacheSystem}
    (hi : s.tasks i = some ⟨c, visit, d⟩) :
    ∃ history, s.Run history { s with
      cache := (d.run (LocalCache.step s.now) s.cache).2
      tasks := Function.update s.tasks i
        (some ⟨c, visit, .done (d.run (LocalCache.step s.now) s.cache).1⟩) } := by
  induction d generalizing s with
  | done r =>
    refine ⟨[], ?_⟩
    rw [Dialogue.run, ← hi, Function.update_eq_self]
    exact .nil
  | ask q next ih =>
    let a := (s.cache.step s.now q).1
    let t : CacheSystem := { s with
      cache := (s.cache.step s.now q).2
      tasks := Function.update s.tasks i (some ⟨c, visit, next a⟩) }
    have hstep : s.Step (.step i q a) t := ⟨c, visit, next, hi, rfl, rfl⟩
    obtain ⟨history, hrun⟩ := ih a (s := t) (Function.update_self _ _ _)
    rw [Function.update_idem] at hrun
    exact ⟨_, (Trace.nil.cons hstep).append hrun⟩

def answered (s : CacheSystem) (visit : Visit) (c : CacheCall) : CacheSystem :=
  { s with
    cache := (s.cache.answer visit s.now c).2
    tasks := Function.update s.tasks s.begun
      (some ⟨c, visit, .done (s.cache.answer visit s.now c).1⟩)
    begun := s.begun + 1 }

lemma exists_run_answered (s : CacheSystem) (visit : Visit) (c : CacheCall) :
    ∃ history, s.Run history (s.answered visit c) := by
  obtain ⟨later, hrun⟩ := exists_run_done (Stepwise.call visit c) (s := s.launched visit c)
    (Function.update_self _ _ _)
  rw [Stepwise.run_call, launched, Function.update_idem] at hrun
  have hstep : s.Step (.launch visit c) (s.launched visit c) := rfl
  exact ⟨_, (Trace.nil.cons hstep).append hrun⟩

theorem Run.loses_nothing_deleted :
    ∃ later launch earlier s, (start ⟨10, [], []⟩ 0).Run (later ++ launch :: earlier) s ∧
      launch.before.tasks 0 = some ⟨.put (.sample 1), .first 1, .done (.ok ())⟩ ∧
      launch.move = .launch (.first 1) (.get 1 2) ∧
      s.tasks 1 = some ⟨.get 1 2, .first 1, .done (.error (.notFound (indexKey 1 2)))⟩ ∧
      Lost (later ++ launch :: earlier) 10 0 (.sample 1) 1 := by
  let visit : Visit := .first 1
  let put := (start ⟨10, [], []⟩ 0).answered visit (.put (.sample 1))
  let launched := put.launched visit (.get 1 2)
  let deleted := launched.answered visit (.delete 1)
  have hstep : put.Step (.launch visit (.get 1 2)) launched := rfl
  have htask : deleted.tasks 1 = some ⟨.get 1 2, visit, Stepwise.call visit (.get 1 2)⟩ := rfl
  obtain ⟨earlier, hput⟩ := exists_run_answered (start ⟨10, [], []⟩ 0) visit (.put (.sample 1))
  obtain ⟨mid, hdelete⟩ := exists_run_answered launched visit (.delete 1)
  obtain ⟨last, hread⟩ := exists_run_done _ htask
  have hnone : (deleted.cache.answer visit deleted.now (.get 1 2)).1 =
      .error (.notFound (indexKey 1 2)) := by
    have hids : deleted.cache.indexMembers 1 2 = [1] := by decide +kernel
    have hlive : deleted.cache.live? 1 0 = none := by
      have hkept : deleted.cache.kept? 1 = none := LocalCache.kept?_delete _ 1 0 1
      rw [LocalCache.live?, ← LocalCache.kept?, hkept]
    show (deleted.cache.get visit 1 2 0).1 = _
    rw [LocalCache.get_fst, hids, show visit.order [1] = [1] from rfl, List.findSome?_cons,
      LocalCache.served?, hlive]
    rfl
  rw [Stepwise.run_call, hnone] at hread
  have hrun := (hput.cons hstep).append (hdelete.append hread)
  have hdecodes : (Banner.decode? (Banner.sample 1).encode).isSome = true := by
    rw [Banner.decode_encode (Banner.storable_sample (by decide))]
    rfl
  obtain ⟨-, -, -, hfinds⟩ := Run.loses_nothing hrun
  have hlost := hfinds (last ++ mid) ⟨put, .launch visit (.get 1 2), launched⟩ earlier rfl 1 2 visit
    rfl 0 (.sample 1) visit (.ok ()) rfl rfl (by decide) hdecodes
    (.error (.notFound (indexKey 1 2))) rfl
  refine ⟨_, _, _, _, hrun, rfl, rfl, rfl, hlost.resolve_left ?_⟩
  rintro ⟨b, hb⟩
  cases hb

end CacheSystem

end Billboard
