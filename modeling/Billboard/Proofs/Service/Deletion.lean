import Billboard.Proofs.Banner.Identity
import Billboard.Proofs.Cache.Alike
import Billboard.Proofs.Service.Alone
import Billboard.Proofs.Service.Sequential

/-! A deleted banner stays deleted, but for operations that had it in hand by then. -/

namespace Billboard

def Move.Stored (id : Int) : Move → Prop
  | .call _ q a _ => q.Stored id a
  | _ => False

def Move.Cached (id : Int) : Move → Prop
  | .call _ q a _ => q.Cached id a
  | _ => False

namespace System

/-- No call is answered with the id any more, and no operation that is still to begin shows it. -/
def Forgets (s : System) (id : Int) : Prop :=
  ∀ later u, s.Run later u → (∀ e ∈ later, ¬ e.move.Stored id ∧ ¬ e.move.Cached id) ∧
    ∀ i o r, s.begun ≤ i → u.tasks i = some ⟨o, .done r⟩ → ¬ o.Shows id r

variable {ttl now : Nat} {s t u : System} {m : Move} {history : List Event} {id : Int}

def Spares (s : System) (i : Nat) (id : Int) : Prop :=
  ∀ τ, s.tasks i = some τ → τ.rest.Honest {b | b.id ≠ id}

lemma Step.gone (h : s.Step m t) (hg : s.catalog.Gone id) : t.catalog.Gone id := by
  rcases h.catalog with he | ⟨i, c, -, he⟩
  · exact he ▸ hg
  · exact he ▸ hg.answer c

lemma Run.gone (h : s.Run history t) (hg : s.catalog.Gone id) : t.catalog.Gone id :=
  h.preserves (p := fun u => u.catalog.Gone id) (fun step => step.gone) hg

lemma Step.store_ok {i : Nat} {c : StoreCall} {v : c.Value} {done : Bool}
    (h : s.Step (.call i (.store c) (.ok v) done) t) :
    (s.catalog.answer c).1 = .ok v ∧ t.catalog = (s.catalog.answer c).2 := by
  obtain ⟨o, next, s₁, -, ha, rfl⟩ := h
  cases done with
  | true =>
    obtain ⟨ha, rfl⟩ := ha
    exact ⟨ha.symm, rfl⟩
  | false =>
    obtain ⟨⟨e, he⟩, -⟩ := ha
    cases he

lemma Step.not_stored (h : s.Step m t) (hg : s.catalog.Gone id) : ¬ m.Stored id := by
  intro hm
  cases m with
  | call i q a done =>
    cases hm with
    | created =>
      have hid : s.catalog.nextId = id := Except.ok.inj h.store_ok.1
      exact hg.past.ne' hid
    | found hid =>
      have hf : s.catalog.find? _ = some _ := Except.ok.inj h.store_ok.1
      exact hg.absent _ (Catalog.of_find? hf).1 hid
    | listed hb hid =>
      have hq : s.catalog.query _ = _ := Except.ok.inj h.store_ok.1
      exact hg.absent _ (Catalog.mem_query (hq ▸ hb)) hid
  | _ => exact hm

lemma Step.spares (h : s.Step m t) (hg : s.catalog.Gone id) {i : Nat} (hi : s.Spares i id) :
    t.Spares i id := by
  intro τ hτ
  rcases h.tasks hτ with ⟨hs, -⟩ | ⟨o, rfl, -, rfl⟩ | ⟨o, q, next, a, done, rfl, hs, rfl⟩
  · exact hi τ hs
  · exact Action.honest_action o _
  · have hask := (hi _ hs).2
    cases q with
    | store c => exact hask a _ fun b hb => (h.gone hg).absent b (h.hands hb).2
    | _ => exact hask a _ rfl

lemma Run.spares (h : s.Run history t) (hg : s.catalog.Gone id) {i : Nat} (hi : s.Spares i id) :
    t.Spares i id := by
  induction h with
  | nil => exact hi
  | cons run step ih => exact step.spares (Run.gone run hg) ih

lemma Run.spares_of_not_pending (h : (start ttl now).Run history s) {i : Nat}
    (hp : ¬ s.Pending i id) : s.Spares i id := fun τ hτ =>
  (h.honest i τ hτ).forget fun hw => hp ⟨τ, hτ, hw⟩

lemma Step.keeps (h : s.Step m t) (hs : ∀ i, s.Spares i id) {P : CacheEntry → Prop}
    (hk : ∀ x, s.cache.kept? id = some x → P x) : ∀ x, t.cache.kept? id = some x → P x := by
  intro x hx
  rcases h.entry hx with ⟨hx, -⟩ | ⟨i, b, a, rfl, hid, -⟩
  · exact hk x hx
  · obtain ⟨o, next, s₁, hi, -, -⟩ := h
    exact ((hs i _ hi).1 b rfl hid).elim

lemma Run.keeps (h : s.Run history t) (hg : s.catalog.Gone id) (hs : ∀ i, s.Spares i id)
    {P : CacheEntry → Prop} (hk : ∀ x, s.cache.kept? id = some x → P x) :
    ∀ x, t.cache.kept? id = some x → P x := by
  induction h with
  | nil => exact hk
  | cons run step ih => exact step.keeps (fun i => Run.spares run hg (hs i)) ih

lemma Step.no_entry {i : Nat} {a : Except CacheError Unit} {x : CacheEntry}
    (h : s.Step (.call i (.cache (.delete id)) a true) t) (hx : t.cache.kept? id = some x) :
    False := by
  rcases h.entry hx with ⟨-, hm⟩ | ⟨_, _, _, hm, -⟩
  · exact hm (.inr ⟨i, a, rfl⟩)
  · cases hm

lemma Run.entry_of_cached (hrun : (start ttl now).Run history s) (h : s.Step m t)
    (hm : m.Cached id) :
    ∃ x, s.cache.kept? id = some x ∧ x.ttl = ttl ∧ x.expired s.now = false := by
  cases m with
  | call i q a done =>
    cases hm with
    | read hb =>
      obtain ⟨j, x, hx, hexp, hdecode⟩ := h.read
      obtain ⟨d, time, rfl, -, rfl⟩ := hrun.lastPut.2 j x hx
      rw [(Banner.id_of_decode hdecode).1] at hb
      exact ⟨_, hb ▸ hx, rfl, hexp⟩
  | _ => exact hm.elim

lemma gone_of_deletion {i : Nat} (hrun : (start ttl now).Run history s)
    (hdel : s.Step (.call i (.store (.delete id)) (.ok ()) true) t) : t.catalog.Gone id := by
  obtain ⟨ha, ht⟩ := hdel.store_ok
  rw [ht]
  exact hrun.numbered.gone_of_delete ha

lemma Run.not_stored (h : s.Run history t) (hg : s.catalog.Gone id) :
    ∀ e ∈ history, ¬ e.move.Stored id := by
  intro e he
  obtain ⟨_, _, -, run, step, -⟩ := h.at_mem he
  exact step.not_stored (Run.gone run hg)

lemma Run.now_le (h : s.Run history t) : s.now ≤ t.now :=
  h.preserves (p := fun u => s.now ≤ u.now) (fun step hle => hle.trans step.now_le) le_rfl

lemma Run.cachedAt_le (h : (start ttl now).Run history s) {x : CacheEntry}
    (hx : s.cache.kept? id = some x) : x.cachedAt ≤ s.now := by
  obtain ⟨b, time, -, ⟨newer, e, older, i, a, rfl, -, rfl, -⟩, rfl⟩ := h.lastPut.2 id x hx
  obtain ⟨-, -, run⟩ := h.at_passage
  exact Run.now_le run

/-- The store has deleted the id, and no task has a banner of it in hand. -/
structure Settled (ttl now : Nat) (id : Int) (s : System) : Prop where
  run : ∃ history, (start ttl now).Run history s
  gone : s.catalog.Gone id
  spares : ∀ i, s.Spares i id

lemma Settled.step (h : Settled ttl now id s) (step : s.Step m t) : Settled ttl now id t := by
  obtain ⟨history, run⟩ := h.run
  exact ⟨⟨_, run.cons step⟩, step.gone h.gone, fun i => step.spares h.gone (h.spares i)⟩

lemma Settled.later (h : Settled ttl now id s) (hrun : s.Run history t) :
    Settled ttl now id t :=
  hrun.preserves (p := Settled ttl now id) (fun step hs => hs.step step) h

lemma Settled.of_deletion {between : List Event} {d e : System} {i : Nat}
    (hrun : (start ttl now).Run history s)
    (hdel : s.Step (.call i (.store (.delete id)) (.ok ()) true) d) (hbetween : d.Run between e)
    (hp : ∀ j, d.Pending j id → ¬ e.Pending j id) : Settled ttl now id e := by
  have hg := gone_of_deletion hrun hdel
  have hd : (start ttl now).Run _ d := hrun.cons hdel
  have he : (start ttl now).Run _ e := hd.append hbetween
  refine ⟨⟨_, he⟩, hbetween.gone hg, fun j => ?_⟩
  -- a task that had the banner in hand at the deletion is done with it, any other never gets it
  by_cases hj : d.Pending j id
  · exact he.spares_of_not_pending (hp j hj)
  · exact hbetween.spares hg (hd.spares_of_not_pending hj)

lemma Settled.forgets (h : Settled ttl now id s)
    (hx : ∀ x, s.cache.kept? id = some x → x.cachedAt + ttl ≤ s.now) : s.Forgets id := by
  intro later u hlater
  obtain ⟨history, run⟩ := h.run
  have hcalls : ∀ e ∈ later, ¬ e.move.Stored id ∧ ¬ e.move.Cached id := by
    intro e he
    refine ⟨hlater.not_stored h.gone e he, fun hm => ?_⟩
    obtain ⟨_, _, -, hbefore, step, -⟩ := hlater.at_mem he
    obtain ⟨x, hkept, httl, hexp⟩ := Run.entry_of_cached (run.append hbefore) step hm
    have hold := Run.keeps hbefore h.gone h.spares hx x hkept
    have hnow := Run.now_le hbefore
    simp only [CacheEntry.expired, httl, decide_eq_false_iff_not] at hexp
    omega
  have hops : ∀ o : Operation,
      o.action.Ends (fun q a => ¬ q.Stored id a ∧ ¬ q.Cached id a) (¬ o.Shows id ·) := fun o =>
    Action.ends_action o (fun _ _ ha => ha.1) (.inr fun _ _ ha => ha.2)
  refine ⟨hcalls, fun i o r hi hr => ?_⟩
  refine hlater.ends (run.unbegun hi) hops (fun e he q a done hm => ?_) _ hr
  have hcall := hcalls e he
  rwa [hm] at hcall

/-- Once the store has deleted a banner, no creation is given its id and no read of the store shows
it. The cache forgets it when no task has it in hand that had it at the deletion. -/
theorem Run.deleted {d : System} {i : Nat} (hrun : (start ttl now).Run history s)
    (hdel : s.Step (.call i (.store (.delete id)) (.ok ()) true) d) :
    (∀ later u, d.Run later u → (∀ e ∈ later, ¬ e.move.Stored id) ∧
      ∀ j o r, d.begun ≤ j → u.tasks j = some ⟨o, .done r⟩ → o.Uncached → ¬ o.Shows id r) ∧
    (∀ between e more e', d.Run between e → (∀ j, d.Pending j id → ¬ e.Pending j id) →
      e.Run more e' → e.now + ttl ≤ e'.now → e'.Forgets id) ∧
    (∀ between c a c', d.Run between c → (∀ j, d.Pending j id → ¬ c.Pending j id) →
      c.Step (.call i (.cache (.delete id)) a true) c' → c'.Forgets id) ∧
    (Sequential history → ∀ between c a c', d.Run between c →
      c.Step (.call i (.cache (.delete id)) a true) c' → c'.Forgets id) := by
  have hgone := gone_of_deletion hrun hdel
  have evicted : ∀ c a c', Settled ttl now id c →
      c.Step (.call i (.cache (.delete id)) a true) c' → c'.Forgets id := fun c a c' hc hstep =>
    (hc.step hstep).forgets fun x hx => (hstep.no_entry hx).elim
  refine ⟨fun later u hlater => ?_, ?_, ?_, ?_⟩
  · have hcalls := hlater.not_stored hgone
    have hops : ∀ o : Operation, o.action.Ends (fun q a => ¬ q.Stored id a)
        (fun r => o.Uncached → ¬ o.Shows id r) := by
      intro o
      by_cases hu : o.Uncached
      · exact (Action.ends_action o (fun _ _ ha => ha) (.inl hu)).mono fun _ h _ => h
      · exact Dialogue.ends_of_forall (fun _ h => (hu h).elim) _
    refine ⟨hcalls, fun j o r hj hr => ?_⟩
    refine hlater.ends (Run.unbegun (hrun.cons hdel) hj) hops (fun e he q a done hm => ?_) _ hr
    have hcall := hcalls e he
    rwa [hm] at hcall
  · intro between e more e' hbetween hp hmore htime
    have he := Settled.of_deletion hrun hdel hbetween hp
    refine (he.later hmore).forgets fun x hx => ?_
    obtain ⟨_, run⟩ := he.run
    have hput := hmore.keeps he.gone he.spares (fun x hx => run.cachedAt_le hx) x hx
    omega
  · intro between c a c' hbetween hp hstep
    exact evicted c a c' (.of_deletion hrun hdel hbetween hp) hstep
  · intro hseq between c a c' hbetween hstep
    have hp := hrun.not_pending_of_sequential hseq hdel
    exact evicted c a c' (.of_deletion hrun hdel hbetween fun j hj => (hp j hj).elim) hstep

theorem Run.deleted_create_delete : ∃ history s d c, (start 10 0).Run history s ∧
    s.Step (.call 1 (.store (.delete 1)) (.ok ()) true) d ∧
    d.Step (.call 1 (.cache (.delete 1)) (.ok ()) true) c ∧
    c.Forgets 1 := by
  obtain ⟨history, run, -, hlaunch⟩ :=
    (start 10 0).exists_run_create Banner.Draft.check_sample ⟨0, 0⟩
  let cache : LocalCache := ({ ttl := 10 } : LocalCache).put (.sample 1) 0
  let created : System := (start 10 0).withTask ⟨[.sample 1], 2⟩ cache
    ⟨.create .sample, .done (.ok (.sample 1))⟩
  let deleting : System := created.withTask created.catalog cache ⟨.delete 1, Service.delete 1⟩
  have launch : created.Step (.launch (.delete 1)) deleting := rfl
  let deleted : System := created.withTask ⟨[], 2⟩ cache
    ⟨.delete 1, Action.cache (.delete 1) >>= fun _ => pure (.ok ())⟩
  have hstore : deleting.Step (.call 1 (.store (.delete 1)) (.ok ()) true) deleted :=
    @step_store created _ cache (.delete 1) (.delete 1) _
  have hlive : (cache.delete 1 0).1 = .ok () := by
    rw [LocalCache.delete_eq, LocalCache.live?_put]
    rfl
  have hcache : deleted.Step (.call 1 (.cache (.delete 1)) (.ok ()) true) _ :=
    ⟨.delete 1, _, _, rfl, ⟨.first 0, hlive.symm, rfl⟩, rfl⟩
  have hidle : ∀ i, created.Idle i := by
    intro i τ hτ
    simp only [created, withTask, Function.update_apply, start] at hτ
    split_ifs at hτ
    obtain rfl := Option.some.inj hτ
    exact ⟨_, rfl⟩
  have hseq : Sequential (⟨created, .launch (.delete 1), deleting⟩ :: history) := by
    refine List.forall_mem_cons.mpr ⟨fun o ho => hidle, fun e he o ho => ?_⟩
    rw [hlaunch e he o ho]
    exact fun i τ hτ => (Option.some_ne_none τ hτ.symm).elim
  exact ⟨_, deleting, _, _, run.cons launch, hstore, hcache,
    (Run.deleted (run.cons launch) hstore).2.2.2 hseq [] _ _ _ .nil hcache⟩

end System

end Billboard
