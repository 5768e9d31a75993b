import Billboard.Proofs.Cache.Local
import Billboard.Proofs.Service.Interleaving

/-! What holds at every moment of a run: of the rows, of what each task knows, and of the cache. -/

namespace Billboard

def Move.Writable : Move → Prop
  | .launch o => o.Writable
  | .call _ q a _ => Action.Sane q a
  | .abandon _ => True
  | .wait _ => True

def Move.Touches (id : Int) (m : Move) : Prop :=
  (∃ i b a, m = .call i (.cache (.put b)) a true ∧ b.id = id) ∨
  ∃ i a, m = .call i (.cache (.delete id)) a true

/-- The rows that the latest call of the store by a task handed to it. -/
def Handed (history : List Event) (i : Nat) : Set Banner :=
  {b | ∃ newer e older c a, history = newer ++ e :: older ∧ e.move = .call i (.store c) a true ∧
    b ∈ c.Hands a ∧ ∀ e' ∈ newer, ∀ c a done, e'.move ≠ .call i (.store c) a done}

/-- The banner was put under its id at a time, and nothing was done to the id in the cache since. -/
def LastPut (history : List Event) (b : Banner) (time : Nat) : Prop :=
  ∃ newer e older i a, history = newer ++ e :: older ∧ e.move = .call i (.cache (.put b)) a true ∧
    e.after.now = time ∧ ∀ e' ∈ newer, ¬ e'.move.Touches b.id

lemma handed_cons {history : List Event} {i : Nat} {e : Event}
    (he : ∀ c a done, e.move ≠ .call i (.store c) a done) :
    Handed history i ⊆ Handed (e :: history) i := by
  rintro b ⟨newer, e', older, c, a, rfl, hm, hb, hn⟩
  exact ⟨e :: newer, e', older, c, a, rfl, hm, hb, List.forall_mem_cons.mpr ⟨he, hn⟩⟩

lemma hands_subset_handed {history : List Event} {i : Nat} {e : Event} {c : StoreCall}
    {a : c.Answer} (he : e.move = .call i (.store c) a true) : c.Hands a ⊆ Handed (e :: history) i :=
  fun _ hb => ⟨[], e, history, c, a, rfl, he, hb, List.forall_mem_nil _⟩

lemma LastPut.cons {history : List Event} {b : Banner} {time : Nat} (h : LastPut history b time)
    {e : Event} (he : ¬ e.move.Touches b.id) : LastPut (e :: history) b time := by
  obtain ⟨newer, e', older, i, a, rfl, hm, ht, hn⟩ := h
  exact ⟨e :: newer, e', older, i, a, rfl, hm, ht, List.forall_mem_cons.mpr ⟨he, hn⟩⟩

namespace System

variable {ttl now : Nat} {s t : System} {m : Move} {history : List Event}

lemma Step.numbered (h : s.Step m t) (hs : s.catalog.Numbered) : t.catalog.Numbered := by
  rcases h.catalog with he | ⟨i, c, -, he⟩
  · exact he ▸ hs
  · exact he ▸ hs.answer c

lemma Run.numbered (h : (start ttl now).Run history s) : s.catalog.Numbered :=
  h.preserves (p := fun u => u.catalog.Numbered) (fun step => step.numbered) Catalog.numbered_empty

lemma Run.writable (h : (start ttl now).Run history s) (hw : ∀ e ∈ history, e.move.Writable) :
    (∀ b ∈ s.catalog.rows, b.Writable) ∧ ∀ i τ, s.tasks i = some τ → τ.rest.Fitting := by
  induction h with
  | nil => exact ⟨nofun, nofun⟩
  | @cons history s m t _ step ih =>
    obtain ⟨hm, hw⟩ := List.forall_mem_cons.mp hw
    obtain ⟨hrows, htasks⟩ := ih hw
    constructor
    · rcases step.catalog with he | ⟨i, c, rfl, he⟩
      · exact he ▸ hrows
      · obtain ⟨o, next, s₁, hi, -, -⟩ := step
        have hc : c.Writable := (htasks i _ hi).1 c rfl
        exact he ▸ Catalog.writable_answer hrows hc
    · intro i τ hi
      rcases step.tasks hi with ⟨hs, -⟩ | ⟨o, rfl, -, rfl⟩ | ⟨o, q, next, a, done, rfl, hs, rfl⟩
      · exact htasks i τ hs
      · exact Action.fitting_action hm
      · exact (htasks i _ hs).2 a () hm

lemma Step.hands {i : Nat} {c : StoreCall} {a : c.Answer} {done : Bool}
    (h : s.Step (.call i (.store c) a done) t) {b : Banner} (hb : b ∈ c.Hands a) :
    done = true ∧ b ∈ t.catalog.rows := by
  obtain ⟨o, next, s₁, -, ha, rfl⟩ := h
  cases done with
  | true =>
    obtain ⟨rfl, rfl⟩ := ha
    exact ⟨rfl, Catalog.mem_rows_of_hands hb⟩
  | false =>
    obtain ⟨⟨e, rfl⟩, -⟩ := ha
    rw [Catalog.hands_error] at hb
    exact hb.elim

lemma Run.honest (h : (start ttl now).Run history s) :
    ∀ i τ, s.tasks i = some τ → τ.rest.Honest (Handed history i) := by
  induction h with
  | nil => nofun
  | @cons history s m t _ step ih =>
    intro i τ hi
    rcases step.tasks hi with ⟨hs, hm⟩ | ⟨o, rfl, -, rfl⟩ | ⟨o, q, next, a, done, rfl, hs, rfl⟩
    · exact (ih i τ hs).mono (handed_cons fun c a done => hm _ a done)
    · exact Action.honest_action o _
    · have hask := (ih i _ hs).2
      -- only a call of the store changes what the task was handed
      have other : (∀ c, q ≠ .store c) →
          Handed history i ⊆ Handed (⟨s, .call i q a done, t⟩ :: history) i := fun hq =>
        handed_cons fun c a done he => hq c (by cases he; rfl)
      cases q with
      | store c =>
        refine hask a _ fun b hb => ?_
        obtain ⟨rfl, -⟩ := step.hands hb
        exact hands_subset_handed rfl hb
      | _ => exact Action.Honest.mono (hask a _ rfl) (other nofun)

lemma Run.unbegun (h : (start ttl now).Run history s) {i : Nat} (hi : s.begun ≤ i) :
    s.tasks i = none := by
  induction h with
  | nil => rfl
  | cons _ step ih =>
    refine Option.eq_none_iff_forall_ne_some.mpr fun τ hτ => ?_
    have hnone := ih (step.begun_le.trans hi)
    rcases step.tasks hτ with ⟨hs, -⟩ | ⟨o, rfl, rfl, -⟩ | ⟨_, _, _, _, _, -, hs, -⟩
    · exact Option.some_ne_none _ (hs.symm.trans hnone)
    · rw [step] at hi
      exact Nat.not_succ_le_self _ hi
    · exact Option.some_ne_none _ (hs.symm.trans hnone)

lemma Run.ends (h : s.Run history t) {i : Nat} (hi : s.tasks i = none)
    {admits : (q : Effect) → q.Answer → Prop} {wish : (o : Operation) → o.Result → Prop}
    (hwish : ∀ o : Operation, o.action.Ends admits (wish o))
    (hm : ∀ e ∈ history, ∀ q a done, e.move = .call i q a done → admits q a) :
    ∀ τ, t.tasks i = some τ → τ.rest.Ends admits (wish τ.operation) := by
  induction h with
  | nil => exact fun τ hτ => (Option.some_ne_none τ (hτ.symm.trans hi)).elim
  | cons _ step ih =>
    obtain ⟨hm, hrest⟩ := List.forall_mem_cons.mp hm
    intro τ hτ
    rcases step.tasks hτ with ⟨hs, -⟩ | ⟨o, -, -, rfl⟩ | ⟨o, q, next, a, done, rfl, hs, rfl⟩
    · exact ih hrest τ hs
    · exact hwish o
    · exact ih hrest _ hs a (hm q a done rfl)

lemma Step.cache_ttl (h : s.Step m t) : t.cache.ttl = s.cache.ttl := by
  rcases h.cache with ⟨he, -⟩ | ⟨i, c, visit, -, he, -⟩
  · rw [he]
  · rw [he]
    cases c with
    | put b => exact LocalCache.put_ttl _ b _
    | get f u => exact (s.cache.swept_get visit f u s.now).ttl
    | delete id => exact LocalCache.delete_ttl _ id _
    | ping => rfl

lemma Step.entry (h : s.Step m t) {id : Int} {x : CacheEntry} (hx : t.cache.kept? id = some x) :
    (s.cache.kept? id = some x ∧ ¬ m.Touches id) ∨
    ∃ i b a, m = .call i (.cache (.put b)) a true ∧ b.id = id ∧
      x = ⟨b.encode, s.now, s.cache.ttl⟩ ∧ t.now = s.now := by
  rcases h.cache with ⟨he, hm⟩ | ⟨i, c, visit, rfl, he, hnow⟩
  · refine .inl ⟨he ▸ hx, ?_⟩
    rintro (⟨i, b, a, rfl, -⟩ | ⟨i, a, rfl⟩)
    · exact hm i _ a rfl
    · exact hm i _ a rfl
  · rw [he] at hx
    cases c with
    | put b =>
      simp only [LocalCache.answer, LocalCache.kept?_put] at hx
      split_ifs at hx with hid
      · exact .inr ⟨i, b, _, rfl, hid, (Option.some.inj hx).symm, hnow⟩
      · refine .inl ⟨hx, ?_⟩
        rintro (⟨_, d, _, hd, rfl⟩ | ⟨_, _, hd⟩)
        · cases hd
          exact hid rfl
        · cases hd
    | delete j =>
      simp only [LocalCache.answer, LocalCache.kept?_delete] at hx
      split_ifs at hx with hid
      refine .inl ⟨hx, ?_⟩
      rintro (⟨_, d, _, hd, rfl⟩ | ⟨_, _, hd⟩)
      · cases hd
      · cases hd
        exact hid rfl
    | get f u =>
      rcases (s.cache.swept_get visit f u s.now).kept id with hsame | ⟨hn, -⟩
      · refine .inl ⟨hsame ▸ hx, ?_⟩
        rintro (⟨_, _, _, hd, -⟩ | ⟨_, _, hd⟩) <;> cases hd
      · exact (Option.some_ne_none x (hx.symm.trans hn)).elim
    | ping =>
      refine .inl ⟨hx, ?_⟩
      rintro (⟨_, _, _, hd, -⟩ | ⟨_, _, hd⟩) <;> cases hd

lemma Run.lastPut (h : (start ttl now).Run history s) : s.cache.ttl = ttl ∧
    ∀ id x, s.cache.kept? id = some x →
      ∃ b time, b.id = id ∧ LastPut history b time ∧ x = ⟨b.encode, time, ttl⟩ := by
  induction h with
  | nil => exact ⟨rfl, nofun⟩
  | @cons history s m t _ step ih =>
    obtain ⟨httl, hent⟩ := ih
    refine ⟨step.cache_ttl.trans httl, fun id x hx => ?_⟩
    rcases step.entry hx with ⟨hx, hm⟩ | ⟨i, b, a, rfl, hid, rfl, hnow⟩
    · obtain ⟨b, time, rfl, hb, rfl⟩ := hent id x hx
      exact ⟨b, time, rfl, hb.cons hm, rfl⟩
    · exact ⟨b, s.now, hid, ⟨[], _, history, i, a, rfl, rfl, hnow, List.forall_mem_nil _⟩,
        by rw [httl]⟩

lemma Step.read {i : Nat} {f u : Int} {b : Banner} {done : Bool}
    (h : s.Step (.call i (.cache (.get f u)) (.ok b) done) t) :
    ∃ id x, s.cache.kept? id = some x ∧ x.expired s.now = false ∧
      Banner.decode? x.payload = some b := by
  obtain ⟨o, next, s₁, -, ha, rfl⟩ := h
  cases done with
  | false =>
    obtain ⟨⟨e, he⟩, -⟩ := ha
    cases he
  | true =>
    obtain ⟨visit, ha, rfl⟩ := ha
    have hb : (.ok b : Except CacheError Banner) ∈
        {r | ∃ visit, (s.cache.get visit f u s.now).1 = r} := ⟨visit, ha.symm⟩
    rw [LocalCache.get_results] at hb
    rcases hb with ⟨d, ⟨id, -, x, hx, hexp, hd, -⟩, hr⟩ | ⟨-, hr⟩
    · cases hr
      exact ⟨id, x, hx, hexp, hd⟩
    · cases hr

end System

end Billboard
