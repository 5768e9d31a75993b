import Billboard.Proofs.Service.Backends
import Billboard.Proofs.Service.Operations

/-! Operations one after another, over any store and any cache. -/

namespace Billboard

open Clock (Timestamp)
open Banner (Draft)
open Service (ReadRequest)

/-- How a store answers a call, with the store as it is then. Listing rows changes nothing. -/
structure StoreModel (σ : Type) where
  answer : (c : StoreCall) → σ → c.Answer × σ
  query_snd : ∀ f s, (answer (.query f) s).2 = s

def Catalog.model : StoreModel Catalog := ⟨fun c s => s.answer c, fun _ _ => rfl⟩

structure CacheOverTime (κ : Type) where
  answers : Nat → CacheModel κ
  responds : ∀ now c s, (answers now c s).Nonempty

def LocalCache.overTime : CacheOverTime LocalCache where
  answers := CacheModel.inProcess
  responds _ _ _ := ⟨_, .first 0, rfl⟩

structure World (σ κ : Type) where
  store : σ
  cache : κ
  now : Nat

inductive Turn where
  | perform (o : Operation) (time : Timestamp)
  | wait (ms : Nat)

namespace World

open Dialogue

variable {σ κ : Type}

def answers (store : StoreModel σ) (cache : CacheOverTime κ) (time : Timestamp) :
    (q : Effect) → World σ κ → Set (q.Answer × World σ κ)
  | .store c, s => {((store.answer c s.store).1, { s with store := (store.answer c s.store).2 })}
  | .cache c, s => {p | ∃ r ∈ cache.answers s.now c s.cache, p = (r.1, { s with cache := r.2 })}
  | .clock, s => {(time, s)}
  | .account _, s => {p | p.2 = s}
  | .salt, s => {p | p.2 = s}
  | .pick _, s => {p | p.2 = s}

def results {α : Type} (store : StoreModel σ) (cache : CacheOverTime κ) (time : Timestamp)
    (s : World σ κ) (act : Action α) : Set α :=
  {r | ∃ t, (r, t) ∈ act.outcomes (answers store cache time) s}

variable {store : StoreModel σ} {cache : CacheOverTime κ} {time : Timestamp} {s t : World σ κ}

lemma mem_outcomes_store {α : Type} {c : StoreCall} {f : c.Answer → Action α} {o : α × World σ κ} :
    o ∈ (Action.store c >>= f).outcomes (answers store cache time) s ↔
      o ∈ (f (store.answer c s.store).1).outcomes (answers store cache time)
        { s with store := (store.answer c s.store).2 } :=
  mem_outcomes_of_singleton (q := Effect.store c) rfl

lemma mem_outcomes_query {α : Type} {g : Banner.Filter}
    {f : (StoreCall.query g).Answer → Action α} {o : α × World σ κ} :
    o ∈ (Action.store (.query g) >>= f).outcomes (answers store cache time) s ↔
      o ∈ (f (store.answer (.query g) s.store).1).outcomes (answers store cache time) s := by
  rw [mem_outcomes_store, store.query_snd]

lemma mem_outcomes_cache {α : Type} {c : CacheCall} {f : c.Answer → Action α} {o : α × World σ κ} :
    o ∈ (Action.cache c >>= f).outcomes (answers store cache time) s ↔
      ∃ p ∈ cache.answers s.now c s.cache,
        o ∈ (f p.1).outcomes (answers store cache time) { s with cache := p.2 } :=
  mem_outcomes_of_image (q := Effect.cache c) rfl

lemma mem_outcomes_clock {α : Type} {f : Timestamp → Action α} {o : α × World σ κ} :
    o ∈ (Action.clock >>= f).outcomes (answers store cache time) s ↔
      o ∈ (f time).outcomes (answers store cache time) s :=
  mem_outcomes_of_singleton (q := Effect.clock) rfl

lemma mem_outcomes_pick {α : Type} {more : Nat} {f : Fin (more + 1) → Action α}
    {o : α × World σ κ} :
    o ∈ (Action.pick more >>= f).outcomes (answers store cache time) s ↔
      ∃ i, o ∈ (f i).outcomes (answers store cache time) s :=
  mem_outcomes_of_unchanged (q := Effect.pick more) rfl

end World

def Service.picks : Except ServiceError (List Banner) → Set (Except ServiceError Banner)
  | .error e => {.error e}
  | .ok bs => oneOf .notFound {b | b ∈ bs}

lemma Service.mem_picks_nil {r : Except ServiceError Banner} :
    r ∈ picks (.ok []) ↔ r = .error .notFound := by
  constructor
  · rintro (⟨b, hb, -⟩ | ⟨-, h⟩)
    · cases hb
    · exact h
  · exact fun h => .inr ⟨Set.ext fun _ => List.mem_nil_iff _, h⟩

lemma Service.mem_picks_cons {b : Banner} {rest : List Banner} {r : Except ServiceError Banner} :
    r ∈ picks (.ok (b :: rest)) ↔ ∃ a ∈ b :: rest, r = .ok a := by
  refine ⟨fun h => h.resolve_right fun ⟨hempty, _⟩ => ?_, .inl⟩
  have hb : b ∈ ({b' | b' ∈ b :: rest} : Set Banner) := List.mem_cons_self
  rw [hempty] at hb
  cases hb

/-- An operation comes to a result and leaves a world. -/
inductive Performs {σ κ : Type} (store : StoreModel σ) (cache : CacheOverTime κ) (time : Timestamp)
    (s : World σ κ) : (o : Operation) → o.Result → World σ κ → Prop
  | createFlawed {d : Draft} {flaw} (h : d.check = .error flaw) :
      Performs store cache time s (.create d) (.error (.ofFlaw flaw)) s
  | createRefused {d e : Draft} {cause a} (h : d.check = .ok e)
      (ha : store.answer (.create e time.toMicros time.toMicros) s.store = (.error cause, a)) :
      Performs store cache time s (.create d) (.error (.ofStore cause)) { s with store := a }
  | create {d e : Draft} {id a p} (h : d.check = .ok e)
      (ha : store.answer (.create e time.toMicros time.toMicros) s.store = (.ok id, a))
      (hp : p ∈ cache.answers s.now (.put (.ofDraft id e time.toMicros time.toMicros)) s.cache) :
      Performs store cache time s (.create d) (.ok (.ofDraft id e time.toMicros time.toMicros))
        ⟨a, p.2, s.now⟩
  | updateFlawed {id} {d : Draft} {flaw} (h : d.check = .error flaw) :
      Performs store cache time s (.update id d) (.error (.ofFlaw flaw)) s
  | update {id} {d e : Draft} (h : d.check = .ok e) :
      Performs store cache time s (.update id d)
        ((store.answer (.update id e time.toMicros) s.store).1.mapError .ofStore)
        { s with store := (store.answer (.update id e time.toMicros) s.store).2 }
  | deleteRefused {id cause a} (ha : store.answer (.delete id) s.store = (.error cause, a)) :
      Performs store cache time s (.delete id) (.error (.ofStore cause)) { s with store := a }
  | delete {id a p} (ha : store.answer (.delete id) s.store = (.ok (), a))
      (hp : p ∈ cache.answers s.now (.delete id) s.cache) :
      Performs store cache time s (.delete id) (.ok ()) ⟨a, p.2, s.now⟩
  | refreshRefused {cause} (ha : (store.answer (.query {}) s.store).1 = .error cause) :
      Performs store cache time s .refresh (.error (.store cause)) s
  | refresh {bs a t} (ha : (store.answer (.query {}) s.store).1 = .ok bs)
      (ht : (a, t) ∈ (Service.putAll bs).outcomes (World.answers store cache time) s) :
      Performs store cache time s .refresh (a.map fun _ => bs.length) t
  | hit {r : ReadRequest} {f u b c} (h : r.cacheKey? = some (f, u))
      (hp : (.ok b, c) ∈ cache.answers s.now (.get f u) s.cache) :
      Performs store cache time s (.list r) (.ok [b]) { s with cache := c }
  | miss {r : ReadRequest} {f u e c} (h : r.cacheKey? = some (f, u))
      (hp : (.error e, c) ∈ cache.answers s.now (.get f u) s.cache) :
      Performs store cache time s (.list r)
        ((store.answer (.query r.toFilter) s.store).1.mapError .ofStore) { s with cache := c }
  | plain {r : ReadRequest} (h : r.cacheKey? = none) :
      Performs store cache time s (.list r)
        ((store.answer (.query r.toFilter) s.store).1.mapError .ofStore) s
  | pickOne {f u isAdmin lastRevision x t r}
      (h : Performs store cache time s (.list (.one f u isAdmin lastRevision)) x t)
      (hr : r ∈ Service.picks x) :
      Performs store cache time s (.pickOne f u isAdmin lastRevision) r t

namespace Service

open World

variable {σ κ : Type} {store : StoreModel σ} {cache : CacheOverTime κ} {time : Timestamp}
  {s t : World σ κ}

lemma mem_outcomes_listFromStore {r : ReadRequest}
    {o : Except ServiceError (List Banner) × World σ κ} :
    o ∈ (listFromStore r).outcomes (answers store cache time) s ↔
      o = ((store.answer (.query r.toFilter) s.store).1.mapError .ofStore, s) := by
  rw [listFromStore, mem_outcomes_query]
  cases (store.answer (.query r.toFilter) s.store).1 <;> exact Iff.rfl

lemma performs_list {r : ReadRequest} {x : Except ServiceError (List Banner)} :
    (x, t) ∈ (list r).outcomes (answers store cache time) s ↔
      Performs store cache time s (.list r) x t := by
  unfold list
  cases hk : r.cacheKey? with
  | none =>
    simp only
    rw [mem_outcomes_listFromStore]
    constructor
    · intro h
      cases h
      exact .plain hk
    · intro h
      cases h with
      | plain _ => rfl
      | hit h _ | miss h _ => cases hk.symm.trans h
  | some key =>
    obtain ⟨f, u⟩ := key
    simp only
    rw [mem_outcomes_cache]
    constructor
    · rintro ⟨⟨a, c⟩, hp, ho⟩
      cases a with
      | ok b =>
        cases ho
        exact .hit hk hp
      | error e =>
        cases mem_outcomes_listFromStore.mp ho
        exact .miss hk hp
    · intro h
      cases h with
      | plain h => cases hk.symm.trans h
      | hit h hp =>
        cases hk.symm.trans h
        exact ⟨_, hp, rfl⟩
      | miss h hp =>
        cases hk.symm.trans h
        exact ⟨_, hp, mem_outcomes_listFromStore.mpr rfl⟩

lemma performs_pickOne {f u : Int} {isAdmin lastRevision : Bool} {r : Except ServiceError Banner} :
    (r, t) ∈ (pickOne f u isAdmin lastRevision).outcomes (answers store cache time) s ↔
      Performs store cache time s (.pickOne f u isAdmin lastRevision) r t := by
  rw [pickOne, Dialogue.mem_outcomes_bind]
  constructor
  · rintro ⟨⟨x, t'⟩, hx, ho⟩
    have hpick : r ∈ picks x ∧ t = t' := by
      cases x with
      | error e =>
        cases ho
        exact ⟨rfl, rfl⟩
      | ok bs =>
        cases bs with
        | nil =>
          cases ho
          exact ⟨mem_picks_nil.mpr rfl, rfl⟩
        | cons b rest =>
          obtain ⟨i, hi⟩ := mem_outcomes_pick.mp ho
          cases hi
          exact ⟨mem_picks_cons.mpr ⟨_, List.get_mem _ _, rfl⟩, rfl⟩
    obtain ⟨hr, rfl⟩ := hpick
    exact .pickOne (performs_list.mp hx) hr
  · intro h
    obtain ⟨x, hx, hr⟩ : ∃ x, Performs store cache time s (.list (.one f u isAdmin lastRevision))
        x t ∧ r ∈ picks x := by
      cases h with
      | pickOne h hr => exact ⟨_, h, hr⟩
    refine ⟨(x, t), performs_list.mpr hx, ?_⟩
    cases x with
    | error e =>
      cases hr
      rfl
    | ok bs =>
      cases bs with
      | nil =>
        cases mem_picks_nil.mp hr
        rfl
      | cons b rest =>
        obtain ⟨a, ha, rfl⟩ := mem_picks_cons.mp hr
        obtain ⟨i, rfl⟩ := List.mem_iff_get.mp ha
        exact mem_outcomes_pick.mpr ⟨i, rfl⟩

lemma mem_outcomes_now {α : Type} {f : Timestamp → Action α} {o : α × World σ κ} :
    o ∈ (now >>= f).outcomes (answers store cache time) s ↔
      o ∈ (f time.toMicros).outcomes (answers store cache time) s := by
  rw [Dialogue.mem_outcomes_bind, now]
  constructor
  · rintro ⟨p, hp, ho⟩
    cases mem_outcomes_clock.mp hp
    exact ho
  · intro ho
    exact ⟨_, mem_outcomes_clock.mpr rfl, ho⟩

lemma performs_create {d : Draft} {r : Except ServiceError Banner} :
    (r, t) ∈ (create d).outcomes (answers store cache time) s ↔
      Performs store cache time s (.create d) r t := by
  unfold create
  cases hd : d.check with
  | error flaw =>
    constructor
    · intro h
      cases h
      exact .createFlawed hd
    · intro h
      cases h with
      | createFlawed h =>
        cases hd.symm.trans h
        rfl
      | createRefused h _ | create h _ _ => cases hd.symm.trans h
  | ok e =>
    simp only
    rw [mem_outcomes_now, mem_outcomes_store]
    constructor
    · intro h
      cases ha : store.answer (.create e time.toMicros time.toMicros) s.store with
      | mk a st =>
        rw [ha] at h
        cases a with
        | error cause =>
          cases h
          exact .createRefused hd ha
        | ok id =>
          obtain ⟨p, hp, h⟩ := mem_outcomes_cache.mp h
          cases h
          exact .create hd ha hp
    · intro h
      cases h with
      | createFlawed h => cases hd.symm.trans h
      | createRefused h ha =>
        cases hd.symm.trans h
        rw [ha]
        rfl
      | create h ha hp =>
        cases hd.symm.trans h
        rw [ha]
        exact mem_outcomes_cache.mpr ⟨_, hp, rfl⟩

lemma performs_update {id : Int} {d : Draft} {r : Except ServiceError Unit} :
    (r, t) ∈ (update id d).outcomes (answers store cache time) s ↔
      Performs store cache time s (.update id d) r t := by
  unfold update
  cases hd : d.check with
  | error flaw =>
    constructor
    · intro h
      cases h
      exact .updateFlawed hd
    · intro h
      cases h with
      | updateFlawed h =>
        cases hd.symm.trans h
        rfl
      | update h => cases hd.symm.trans h
  | ok e =>
    simp only
    rw [mem_outcomes_now, mem_outcomes_store]
    have hanswer : Performs store cache time s (.update id d)
        ((store.answer (.update id e time.toMicros) s.store).1.mapError .ofStore)
        { s with store := (store.answer (.update id e time.toMicros) s.store).2 } := .update hd
    constructor
    · intro h
      cases ha : (store.answer (.update id e time.toMicros) s.store).1 <;>
        rw [ha] at h hanswer <;> cases h <;> exact hanswer
    · intro h
      cases h with
      | updateFlawed h => cases hd.symm.trans h
      | update h =>
        cases hd.symm.trans h
        cases (store.answer (.update id e time.toMicros) s.store).1 <;> rfl

lemma performs_delete {id : Int} {r : Except ServiceError Unit} :
    (r, t) ∈ (delete id).outcomes (answers store cache time) s ↔
      Performs store cache time s (.delete id) r t := by
  rw [delete, mem_outcomes_store]
  constructor
  · intro h
    cases ha : store.answer (.delete id) s.store with
    | mk a st =>
      rw [ha] at h
      cases a with
      | error cause =>
        cases h
        exact .deleteRefused ha
      | ok u =>
        obtain ⟨p, hp, h⟩ := mem_outcomes_cache.mp h
        cases h
        exact .delete ha hp
  · intro h
    cases h with
    | deleteRefused ha =>
      rw [ha]
      rfl
    | delete ha hp =>
      rw [ha]
      exact mem_outcomes_cache.mpr ⟨_, hp, rfl⟩

lemma performs_refresh {r : Except RefreshError Nat} :
    (r, t) ∈ refresh.outcomes (answers store cache time) s ↔
      Performs store cache time s .refresh r t := by
  rw [refresh, mem_outcomes_query]
  constructor
  · intro h
    cases ha : (store.answer (.query {}) s.store).1 with
    | error cause =>
      rw [ha] at h
      cases h
      exact .refreshRefused ha
    | ok bs =>
      rw [ha] at h
      obtain ⟨⟨a, t'⟩, hp, h⟩ := Dialogue.mem_outcomes_bind.mp h
      cases a <;> cases h <;> exact .refresh ha hp
  · intro h
    cases h with
    | refreshRefused ha =>
      rw [ha]
      rfl
    | refresh ha hp =>
      rename_i a
      rw [ha]
      refine Dialogue.mem_outcomes_bind.mpr ⟨_, hp, ?_⟩
      cases a <;> rfl

theorem mem_outcomes_iff_performs {o : Operation} {r : o.Result} :
    (r, t) ∈ o.action.outcomes (answers store cache time) s ↔ Performs store cache time s o r t := by
  cases o with
  | create d => exact performs_create
  | update id d => exact performs_update
  | delete id => exact performs_delete
  | refresh => exact performs_refresh
  | list r => exact performs_list
  | pickOne f u isAdmin lastRevision => exact performs_pickOne

end Service

namespace World

open Service

variable {σ κ : Type} {store : StoreModel σ} {cache : CacheOverTime κ} {time : Timestamp}
  {s : World σ κ}

lemma mem_results_pickOne {f u : Int} {isAdmin lastRevision : Bool}
    {r : Except ServiceError Banner} :
    r ∈ results store cache time s (pickOne f u isAdmin lastRevision) ↔
      ∃ x ∈ results store cache time s (list (.one f u isAdmin lastRevision)), r ∈ picks x := by
  constructor
  · rintro ⟨t, ht⟩
    cases performs_pickOne.mp ht with
    | pickOne h hr => exact ⟨_, ⟨t, performs_list.mpr h⟩, hr⟩
  · rintro ⟨x, ⟨t, hx⟩, hr⟩
    exact ⟨t, performs_pickOne.mpr (.pickOne (performs_list.mp hx) hr)⟩

lemma results_list_of_none {r : ReadRequest} (hk : r.cacheKey? = none) :
    results store cache time s (list r) =
      {(store.answer (.query r.toFilter) s.store).1.mapError .ofStore} := by
  ext x
  constructor
  · rintro ⟨t, ht⟩
    cases performs_list.mp ht with
    | plain _ => rfl
    | hit h _ | miss h _ => cases hk.symm.trans h
  · rintro rfl
    exact ⟨s, performs_list.mpr (.plain hk)⟩

end World

/-- What can come of turns one after another. The latest turn comes first. -/
inductive Session {σ κ : Type} (store : StoreModel σ) (cache : CacheOverTime κ) (s : World σ κ) :
    List Turn → World σ κ → Prop
  | nil : Session store cache s [] s
  | wait {turns t} (h : Session store cache s turns t) (ms : Nat) :
      Session store cache s (.wait ms :: turns) { t with now := t.now + ms }
  | perform {turns t o time r u} (h : Session store cache s turns t)
      (hr : (r, u) ∈ o.action.outcomes (World.answers store cache time) t) :
      Session store cache s (.perform o time :: turns) u

end Billboard
