import Billboard.Proofs.Cache.Refill
import Billboard.Proofs.Service.Reads
import Billboard.Proofs.Service.Sessions
import Billboard.Proofs.Store.Paging

/-! Operations one after another over the catalog in memory and the cache inside the process. -/

namespace Billboard

open Clock (Timestamp)
open Service (ReadRequest)

namespace World

variable {s t : World Catalog LocalCache} {time : Timestamp}

def fresh (ttl now : Nat) : World Catalog LocalCache := ⟨{}, { ttl := ttl }, now⟩

/-- What an operation leaves, up to expired payloads that a read sweeps away. -/
def after (time : Timestamp) (s : World Catalog LocalCache) : Operation → World Catalog LocalCache
  | .create d =>
    match d.check with
    | .error _ => s
    | .ok e => ⟨(s.store.create e time.toMicros time.toMicros).2,
        s.cache.put (.ofDraft s.store.nextId e time.toMicros time.toMicros) s.now, s.now⟩
  | .update id d =>
    match d.check with
    | .error _ => s
    | .ok e => { s with store := (s.store.update id e time.toMicros).2 }
  | .delete id =>
    match s.store.delete id with
    | (.error _, a) => { s with store := a }
    | (.ok (), a) => ⟨a, (s.cache.delete id s.now).2, s.now⟩
  | .refresh => { s with cache := s.cache.putAll (s.store.query {}) s.now }
  | .list _ => s
  | .pickOne .. => s

/-- The second world is the first one less some payloads that have expired. -/
structure Swept (s t : World Catalog LocalCache) : Prop where
  store : t.store = s.store
  now : t.now = s.now
  cache : LocalCache.Swept s.now s.cache t.cache

lemma Swept.refl (s : World Catalog LocalCache) : Swept s s := ⟨rfl, rfl, .refl _ _⟩

lemma mem_outcomes_putAll {bs : List Banner} {a : Except RefreshError Unit} :
    (a, t) ∈ (Service.putAll bs).outcomes (answers Catalog.model LocalCache.overTime time) s ↔
      a = .ok () ∧ t = { s with cache := s.cache.putAll bs s.now } := by
  induction bs generalizing s with
  | nil => exact Prod.mk_inj
  | cons b bs ih =>
    rw [Service.putAll, mem_outcomes_cache, LocalCache.putAll_cons]
    constructor
    · rintro ⟨_, ⟨visit, rfl⟩, h⟩
      exact ih.mp h
    · intro h
      exact ⟨_, ⟨.first 0, rfl⟩, ih.mpr h⟩

lemma performs_refresh {r : Except RefreshError Nat} :
    Performs Catalog.model LocalCache.overTime time s .refresh r t ↔
      r = .ok (s.store.query {}).length ∧ t = s.after time .refresh := by
  constructor
  · intro h
    cases h with
    | refreshRefused ha => cases ha
    | refresh ha ht =>
      cases ha
      obtain ⟨rfl, rfl⟩ := mem_outcomes_putAll.mp ht
      exact ⟨rfl, rfl⟩
  · rintro ⟨rfl, rfl⟩
    exact .refresh rfl (mem_outcomes_putAll.mpr ⟨rfl, rfl⟩)

lemma kept?_refresh (h : s.store.Keyed) {b : Banner} (hb : b ∈ s.store.rows) (time : Timestamp) :
    (s.after time .refresh).cache.kept? b.id = some ⟨b.encode, s.now, s.cache.ttl⟩ := by
  apply LocalCache.kept?_putAll_of_mem
  · exact (h.matching_ascending {}).imp fun hlt => hlt.ne
  · exact Catalog.mem_query_all.mpr hb

lemma swept_of_get {f u : Int} {p : Except CacheError Banner × LocalCache}
    (h : p ∈ LocalCache.overTime.answers s.now (.get f u) s.cache) :
    Swept s { s with cache := p.2 } := by
  obtain ⟨visit, rfl⟩ := h
  exact ⟨rfl, rfl, s.cache.swept_get visit f u s.now⟩

lemma mem_results_list {r : ReadRequest} {f u : Int} (hk : r.cacheKey? = some (f, u))
    {x : Except ServiceError (List Banner)} :
    x ∈ results Catalog.model LocalCache.overTime time s (Service.list r) ↔
      (∃ b ∈ s.cache.servables f u s.now, x = .ok [b]) ∨
      (s.cache.servables f u s.now = ∅ ∧ x = .ok (s.store.query r.toFilter)) := by
  have hget : ∀ {a}, (∃ c, (a, c) ∈ LocalCache.overTime.answers s.now (.get f u) s.cache) ↔
      a ∈ oneOf (.notFound (Banner.indexKey f u)) (s.cache.servables f u s.now) :=
    CacheModel.exists_mem_inProcess_get
  constructor
  · rintro ⟨t, ht⟩
    cases Service.performs_list.mp ht with
    | hit h hp =>
      cases hk.symm.trans h
      rcases hget.mp ⟨_, hp⟩ with ⟨b, hb, he⟩ | ⟨-, he⟩
      · cases he
        exact .inl ⟨_, hb, rfl⟩
      · cases he
    | miss h hp =>
      cases hk.symm.trans h
      rcases hget.mp ⟨_, hp⟩ with ⟨b, -, he⟩ | ⟨hempty, -⟩
      · cases he
      · exact .inr ⟨hempty, rfl⟩
    | plain h => cases hk.symm.trans h
  · rintro (⟨b, hb, rfl⟩ | ⟨hempty, rfl⟩)
    · obtain ⟨c, hc⟩ := hget.mpr (.inl ⟨b, hb, rfl⟩)
      exact ⟨_, Service.performs_list.mpr (.hit hk hc)⟩
    · obtain ⟨c, hc⟩ := hget.mpr (.inr ⟨hempty, rfl⟩)
      exact ⟨_, Service.performs_list.mpr (.miss hk hc)⟩

end World

open World in
lemma Performs.after {s t : World Catalog LocalCache} {time : Timestamp} {o : Operation}
    {r : o.Result} (h : Performs Catalog.model LocalCache.overTime time s o r t) :
    Swept (s.after time o) t := by
  induction h with
  | createFlawed h =>
    simp only [World.after, h]
    exact .refl s
  | createRefused h ha => cases ha
  | create h ha hp =>
    cases ha
    obtain ⟨visit, rfl⟩ := hp
    simp only [World.after, h]
    exact .refl _
  | updateFlawed h =>
    simp only [World.after, h]
    exact .refl s
  | update h =>
    simp only [World.after, h]
    exact .refl _
  | deleteRefused ha =>
    simp only [World.after, show s.store.delete _ = _ from ha]
    exact .refl _
  | delete ha hp =>
    obtain ⟨visit, rfl⟩ := hp
    simp only [World.after, show s.store.delete _ = _ from ha]
    exact .refl _
  | refreshRefused ha => cases ha
  | refresh ha ht =>
    cases ha
    obtain ⟨-, rfl⟩ := mem_outcomes_putAll.mp ht
    exact .refl _
  | hit hk hp => exact swept_of_get hp
  | miss hk hp => exact swept_of_get hp
  | plain hk => exact .refl s
  | pickOne h hr ih => exact ih

end Billboard
