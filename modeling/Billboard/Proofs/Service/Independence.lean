import Billboard.Proofs.Banner.Drafts
import Billboard.Proofs.Service.Sessions

/-! What the cache has no say in. -/

namespace Billboard

open Clock (Timestamp)
open Service (ReadRequest)

namespace Operation

variable {σ : Type}

/-- A write, or a read that is by an admin, of the last revision, without a single feature or
without a tag. -/
def Authoritative : Operation → Prop
  | .create _ => True
  | .update .. => True
  | .delete _ => True
  | .refresh => False
  | .list r =>
    r.isAdmin = true ∨ r.lastRevision = true ∨ (∀ f, r.feature ≠ .only f) ∨ r.tags = []
  | .pickOne _ _ isAdmin lastRevision => isAdmin = true ∨ lastRevision = true

def Fails : (o : Operation) → o.Result → Prop
  | .create _, r => ∃ e, r = .error e
  | .update .., r => ∃ e, r = .error e
  | .delete _, r => ∃ e, r = .error e
  | .refresh, _ => False
  | .list _, r => ∃ e, r = .error e
  | .pickOne .., r => ∃ e, r = .error e

/-- The results that the check of the draft and the answer of the store leave open; only a pick
leaves more than one. -/
def verdict (store : StoreModel σ) (time : Timestamp) (s : σ) : (o : Operation) → Set o.Result
  | .create d =>
    match d.check with
    | .error flaw => {.error (.ofFlaw flaw)}
    | .ok e => {((store.answer (.create e time.toMicros time.toMicros) s).1.mapError .ofStore).map
        fun id => .ofDraft id e time.toMicros time.toMicros}
  | .update id d =>
    match d.check with
    | .error flaw => {.error (.ofFlaw flaw)}
    | .ok e => {(store.answer (.update id e time.toMicros) s).1.mapError .ofStore}
  | .delete id => {(store.answer (.delete id) s).1.mapError .ofStore}
  | .refresh => {((store.answer (.query {}) s).1.mapError .store).map List.length}
  | .list r => {(store.answer (.query r.toFilter) s).1.mapError .ofStore}
  | .pickOne f t isAdmin lastRevision => Service.picks
      ((store.answer (.query (ReadRequest.one f t isAdmin lastRevision).toFilter) s).1.mapError
        .ofStore)

def leaves (store : StoreModel σ) (time : Timestamp) (s : σ) : Operation → σ
  | .create d =>
    match d.check with
    | .error _ => s
    | .ok e => (store.answer (.create e time.toMicros time.toMicros) s).2
  | .update id d =>
    match d.check with
    | .error _ => s
    | .ok e => (store.answer (.update id e time.toMicros) s).2
  | .delete id => (store.answer (.delete id) s).2
  | .refresh => s
  | .list _ => s
  | .pickOne .. => s

lemma cacheKey?_eq_none {r : ReadRequest} : r.cacheKey? = none ↔ (Operation.list r).Authoritative := by
  obtain ⟨feature, tags, isAdmin, lastRevision, -, -⟩ := r
  cases isAdmin <;> cases lastRevision <;> cases feature <;> cases tags <;>
    simp [ReadRequest.cacheKey?, Authoritative]

lemma authoritative_one {f t : Int} {isAdmin lastRevision : Bool} :
    (Operation.list (.one f t isAdmin lastRevision)).Authoritative ↔
      (Operation.pickOne f t isAdmin lastRevision).Authoritative := by
  simp [Authoritative, ReadRequest.one]

lemma verdict_nonempty (store : StoreModel σ) (time : Timestamp) (s : σ) (o : Operation) :
    (o.verdict store time s).Nonempty := by
  cases o with
  | create d | update id d =>
    simp only [verdict]
    split <;> exact Set.singleton_nonempty _
  | delete id => exact Set.singleton_nonempty _
  | refresh => exact Set.singleton_nonempty _
  | list r => exact Set.singleton_nonempty _
  | pickOne f t isAdmin lastRevision =>
    simp only [verdict]
    match (store.answer (.query (ReadRequest.one f t isAdmin lastRevision).toFilter) s).1 with
    | .error e => exact Set.singleton_nonempty _
    | .ok [] => exact ⟨_, Service.mem_picks_nil.mpr rfl⟩
    | .ok (b :: rest) => exact ⟨_, Service.mem_picks_cons.mpr ⟨b, List.mem_cons_self, rfl⟩⟩

end Operation

namespace Performs

open Service World

variable {σ κ : Type} {store : StoreModel σ} {cache : CacheOverTime κ} {time : Timestamp}
  {s t : World σ κ} {o : Operation} {r : o.Result}

lemma store_of_putAll {bs : List Banner} {a : Except RefreshError Unit}
    (h : (a, t) ∈ (putAll bs).outcomes (answers store cache time) s) : t.store = s.store := by
  induction bs generalizing s with
  | nil =>
    cases h
    rfl
  | cons b bs ih =>
    obtain ⟨⟨x, c⟩, -, h⟩ := mem_outcomes_cache.mp h
    cases x with
    | error e =>
      cases h
      rfl
    | ok u =>
      have hrest := ih h
      exact hrest

lemma store_eq (h : Performs store cache time s o r t) : t.store = o.leaves store time s.store := by
  induction h with
  | createFlawed h => simp only [Operation.leaves, h]
  | createRefused h ha => simp only [Operation.leaves, h, ha]
  | create h ha hp => simp only [Operation.leaves, h, ha]
  | updateFlawed h => simp only [Operation.leaves, h]
  | update h => simp only [Operation.leaves, h]
  | deleteRefused ha => simp only [Operation.leaves, ha]
  | delete ha hp => simp only [Operation.leaves, ha]
  | refreshRefused ha => rfl
  | refresh ha ht => exact store_of_putAll ht
  | hit h hp => rfl
  | miss h hp => rfl
  | plain h => rfl
  | pickOne h hr ih => exact ih

lemma list_verdict {q : ReadRequest} {x : Except ServiceError (List Banner)}
    (h : Performs store cache time s (.list q) x t) :
    x = (store.answer (.query q.toFilter) s.store).1.mapError .ofStore ∨
      (∃ b, x = .ok [b]) ∧ ¬ (Operation.list q).Authoritative := by
  cases h with
  | hit hk hp =>
    refine .inr ⟨⟨_, rfl⟩, fun ha => ?_⟩
    cases hk.symm.trans (Operation.cacheKey?_eq_none.mpr ha)
  | miss hk hp => exact .inl rfl
  | plain hk => exact .inl rfl

lemma mem_verdict (h : Performs store cache time s o r t) (ho : o.Authoritative ∨ o.Fails r) :
    r ∈ o.verdict store time s.store := by
  cases h with
  | createFlawed h => simp only [Operation.verdict, h]; rfl
  | createRefused h ha => simp only [Operation.verdict, h, ha]; rfl
  | create h ha hp => simp only [Operation.verdict, h, ha]; rfl
  | updateFlawed h => simp only [Operation.verdict, h]; rfl
  | update h => simp only [Operation.verdict, h]; rfl
  | deleteRefused ha => simp only [Operation.verdict, ha]; rfl
  | delete ha hp => simp only [Operation.verdict, ha]; rfl
  | refreshRefused ha => simp only [Operation.verdict, ha]; rfl
  | refresh ha ht => exact (ho.elim id id).elim
  | hit h hp =>
    refine (ho.elim (fun ha => ?_) ?_)
    · cases h.symm.trans (Operation.cacheKey?_eq_none.mpr ha)
    · rintro ⟨e, he⟩
      cases he
  | miss h hp => rfl
  | plain h => rfl
  | pickOne h hr =>
    rcases h.list_verdict with rfl | ⟨⟨b, rfl⟩, hn⟩
    · exact hr
    · refine (ho.elim (fun ha => (hn (Operation.authoritative_one.mpr ha)).elim) ?_)
      rintro ⟨e, rfl⟩
      obtain ⟨_, _, he⟩ := Service.mem_picks_cons.mp hr
      cases he

lemma exists_of_mem_verdict (ho : o.Authoritative) (hr : r ∈ o.verdict store time s.store) :
    ∃ t, Performs store cache time s o r t := by
  cases o with
  | create d =>
    cases hd : d.check with
    | error flaw =>
      simp only [Operation.verdict, hd] at hr
      obtain rfl := hr
      exact ⟨_, .createFlawed hd⟩
    | ok e =>
      cases ha : store.answer (.create e time.toMicros time.toMicros) s.store with
      | mk a st =>
        simp only [Operation.verdict, hd, ha] at hr
        obtain rfl := hr
        cases a with
        | error cause => exact ⟨_, .createRefused hd ha⟩
        | ok id =>
          obtain ⟨p, hp⟩ := cache.responds s.now (.put (.ofDraft id e time.toMicros time.toMicros))
            s.cache
          exact ⟨_, .create hd ha hp⟩
  | update id d =>
    cases hd : d.check with
    | error flaw =>
      simp only [Operation.verdict, hd] at hr
      obtain rfl := hr
      exact ⟨_, .updateFlawed hd⟩
    | ok e =>
      simp only [Operation.verdict, hd] at hr
      obtain rfl := hr
      exact ⟨_, .update hd⟩
  | delete id =>
    cases ha : store.answer (.delete id) s.store with
    | mk a st =>
      simp only [Operation.verdict, ha] at hr
      obtain rfl := hr
      cases a with
      | error cause => exact ⟨_, .deleteRefused ha⟩
      | ok u =>
        obtain ⟨p, hp⟩ := cache.responds s.now (.delete id) s.cache
        exact ⟨_, .delete ha hp⟩
  | refresh => exact ho.elim
  | list q =>
    obtain rfl := hr
    exact ⟨_, .plain (Operation.cacheKey?_eq_none.mpr ho)⟩
  | pickOne f u isAdmin lastRevision =>
    have hk := Operation.cacheKey?_eq_none.mpr (Operation.authoritative_one.mpr ho)
    exact ⟨_, .pickOne (.plain hk) hr⟩

end Performs

namespace Session

open World

variable {σ κ₁ κ₂ : Type} {store : StoreModel σ} {cache₁ : CacheOverTime κ₁}
  {cache₂ : CacheOverTime κ₂} {turns : List Turn}

lemma results_eq_verdict (time : Timestamp) (s : World σ κ₁) {o : Operation}
    (ho : o.Authoritative) :
    results store cache₁ time s o.action = o.verdict store time s.store := by
  ext r
  constructor
  · rintro ⟨t, ht⟩
    exact (Service.mem_outcomes_iff_performs.mp ht).mem_verdict (.inl ho)
  · intro hr
    obtain ⟨t, ht⟩ : ∃ t, Performs store cache₁ time s o r t := Performs.exists_of_mem_verdict ho hr
    exact ⟨t, Service.mem_outcomes_iff_performs.mpr ht⟩

lemma store_eq {s₁ u₁ : World σ κ₁} {s₂ u₂ : World σ κ₂} (hs : s₁.store = s₂.store)
    (h₁ : Session store cache₁ s₁ turns u₁) (h₂ : Session store cache₂ s₂ turns u₂) :
    u₁.store = u₂.store := by
  induction h₁ generalizing u₂ with
  | nil =>
    cases h₂
    exact hs
  | wait _ ms ih =>
    cases h₂ with
    | wait h₂ =>
      have hstore := ih h₂
      exact hstore
  | perform _ hr ih =>
    cases h₂ with
    | perform h₂ hr₂ =>
      rw [(Service.mem_outcomes_iff_performs.mp hr).store_eq,
        (Service.mem_outcomes_iff_performs.mp hr₂).store_eq, ih h₂]

/-- Two services with one store and any two caches go through the same turns with the same rows, and
come to the same results of writes and of reads of the store. -/
theorem independent_of_cache {s₁ u₁ : World σ κ₁} {s₂ u₂ : World σ κ₂} (hs : s₁.store = s₂.store)
    (h₁ : Session store cache₁ s₁ turns u₁) (h₂ : Session store cache₂ s₂ turns u₂) :
    u₁.store = u₂.store ∧
    (∀ (o : Operation) time, o.Authoritative →
      results store cache₁ time u₁ o.action = results store cache₂ time u₂ o.action ∧
      results store cache₁ time u₁ o.action = o.verdict store time u₁.store ∧
      (o.verdict store time u₁.store).Nonempty ∧
      ((∀ f t isAdmin lastRevision, o ≠ .pickOne f t isAdmin lastRevision) →
        (results store cache₁ time u₁ o.action).Subsingleton)) ∧
    (∀ (o : Operation) time, ∀ r ∈ results store cache₁ time u₁ o.action, o.Fails r →
      r ∈ o.verdict store time u₁.store) := by
  have hstore := store_eq hs h₁ h₂
  refine ⟨hstore, fun o time ho => ⟨?_, results_eq_verdict time u₁ ho, o.verdict_nonempty _ _ _,
    fun hp => ?_⟩, fun o time r ⟨t, ht⟩ hf => ?_⟩
  · rw [results_eq_verdict time u₁ ho, results_eq_verdict time u₂ ho, hstore]
  · rw [results_eq_verdict time u₁ ho]
    cases o with
    | create d | update id d =>
      simp only [Operation.verdict]
      split <;> exact Set.subsingleton_singleton
    | delete id => exact Set.subsingleton_singleton
    | refresh => exact ho.elim
    | list q => exact Set.subsingleton_singleton
    | pickOne f t isAdmin lastRevision => exact (hp _ _ _ _ rfl).elim
  · exact (Service.mem_outcomes_iff_performs.mp ht).mem_verdict (.inr hf)

def brokenCache : CacheOverTime Unit where
  answers _ := .failing (.backend "connection refused")
  responds _ _ _ := Set.singleton_nonempty _

theorem independent_of_cache_create :
    let s₁ : World Catalog LocalCache := ⟨{}, { ttl := 10 }, 0⟩
    let s₂ : World Catalog Unit := ⟨{}, (), 0⟩
    let turns := [Turn.perform (.create .sample) ⟨0, 0⟩]
    ∃ u₁ u₂, Session Catalog.model LocalCache.overTime s₁ turns u₁ ∧
      Session Catalog.model brokenCache s₂ turns u₂ ∧ s₁.store = s₂.store ∧
      u₁.store = u₂.store ∧
      results Catalog.model LocalCache.overTime ⟨0, 0⟩ u₁ (Service.pickOne 1 2 false true) =
        results Catalog.model brokenCache ⟨0, 0⟩ u₂ (Service.pickOne 1 2 false true) := by
  intro s₁ s₂ turns
  have h₁ : Session Catalog.model LocalCache.overTime s₁ turns _ := .perform .nil
    (Service.mem_outcomes_iff_performs.mpr (.create Banner.Draft.check_sample rfl ⟨.first 0, rfl⟩))
  have h₂ : Session Catalog.model brokenCache s₂ turns _ := .perform .nil
    (Service.mem_outcomes_iff_performs.mpr (.create Banner.Draft.check_sample rfl rfl))
  have h := independent_of_cache (show s₁.store = s₂.store from rfl) h₁ h₂
  exact ⟨_, _, h₁, h₂, rfl, h.1, (h.2.1 (.pickOne 1 2 false true) ⟨0, 0⟩ (.inr rfl)).1⟩

end Session

end Billboard
