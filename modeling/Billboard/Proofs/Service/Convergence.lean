import Billboard.Proofs.Service.InMemory

/-! After a refresh the cache serves what the store has. -/

namespace Billboard

open Clock (Timestamp)
open Service (ReadRequest)
open Text (IntRange)

namespace Catalog

variable {c : Catalog}

def IdsFit (c : Catalog) : Prop := ∀ b ∈ c.rows, IntRange.i64.contains b.id = true

lemma positive_answer (h : ∀ b ∈ c.rows, 0 < b.id) (hn : 0 < c.nextId) (q : StoreCall) :
    ∀ b ∈ (c.answer q).2.rows, 0 < b.id := by
  intro b hb
  rcases mem_rows_answer hb with hb | ⟨d, t, u, -, rfl⟩ | ⟨_, d, u, -, old, ho, rfl⟩
  · exact h b hb
  · exact hn
  · exact h old ho

lemma nextId_answer_le (c : Catalog) (q : StoreCall) : (c.answer q).2.nextId ≤ c.nextId + 1 := by
  cases q with
  | create d created updated => exact le_rfl
  | update id d updated =>
    simp only [answer, update]
    split <;> exact (Int.lt_succ _).le
  | delete id =>
    simp only [answer, delete]
    split <;> exact (Int.lt_succ _).le
  | _ => exact (Int.lt_succ _).le

lemma nextId_update (c : Catalog) (id : Int) (d : Banner.Draft) (updated : Timestamp) :
    (c.update id d updated).2.nextId = c.nextId := by
  unfold update
  split <;> rfl

lemma nextId_delete (c : Catalog) (id : Int) : (c.delete id).2.nextId = c.nextId := by
  unfold delete
  split <;> rfl

lemma ids_update (c : Catalog) (id : Int) (d : Banner.Draft) (updated : Timestamp) :
    (c.update id d updated).2.rows.map (·.id) = c.rows.map (·.id) := by
  unfold update
  split
  · rfl
  · rw [List.map_map]
    apply List.map_congr_left
    intro b _
    simp only [Function.comp_apply]
    split_ifs <;> rfl

end Catalog

def Turn.Writable : Turn → Prop
  | .perform o time => o.Writable ∧ time.Proper
  | .wait _ => True

def Turn.creates : Turn → Bool
  | .perform (.create _) _ => true
  | _ => false

namespace World

variable {s t : World Catalog LocalCache} {n : Nat} {time : Timestamp} {o : Operation}

structure Stocked (creations : Nat) (c : Catalog) : Prop where
  numbered : c.Numbered
  writable : ∀ b ∈ c.rows, b.Writable
  positive : ∀ b ∈ c.rows, 0 < b.id
  next_pos : 0 < c.nextId
  next_le : c.nextId ≤ creations + 1

def Owned (s : World Catalog LocalCache) : Prop :=
  ∀ id x, s.cache.kept? id = some x → ∃ b ∈ s.store.rows, b.id = id

lemma Stocked.answer {c : Catalog} (h : Stocked n c) {q : StoreCall} (hq : q.Writable)
    {m : Nat} (hm : (c.answer q).2.nextId ≤ m + 1) : Stocked m (c.answer q).2 where
  numbered := h.numbered.answer q
  writable := Catalog.writable_answer h.writable hq
  positive := Catalog.positive_answer h.positive h.next_pos q
  next_pos := h.next_pos.trans_le (c.nextId_le_answer q)
  next_le := hm

lemma Stocked.ids_fit {c : Catalog} (h : Stocked n c) (hn : n < 2 ^ 63 - 1) : c.IdsFit := by
  intro b hb
  have hpos := h.positive b hb
  have hlt := h.numbered.below b hb
  have hle := h.next_le
  have hlo : IntRange.i64.lo ≤ b.id := (show IntRange.i64.lo ≤ 0 by decide).trans hpos.le
  have hhi : b.id ≤ IntRange.i64.hi := by
    change b.id ≤ 9223372036854775807
    omega
  exact Bool.and_eq_true_iff.mpr ⟨decide_eq_true hlo, decide_eq_true hhi⟩

lemma Stocked.after (h : Stocked n s.store) (ho : o.Writable) (ht : time.Proper) :
    Stocked (n + if (Turn.perform o time).creates then 1 else 0) (s.after time o).store := by
  have hle := h.next_le
  cases o with
  | create d =>
    simp only [World.after, Turn.creates, if_true]
    cases hd : d.check with
    | error flaw => exact ⟨h.numbered, h.writable, h.positive, h.next_pos, by push_cast; omega⟩
    | ok e =>
      have hnext := s.store.nextId_answer_le (.create e time.toMicros time.toMicros)
      exact h.answer (q := .create e time.toMicros time.toMicros)
        ⟨ho.check hd, ht.toMicros, ht.toMicros⟩ (by push_cast; omega)
  | update id d =>
    simp only [World.after]
    cases hd : d.check with
    | error flaw => exact h
    | ok e =>
      have hnext := s.store.nextId_update id e time.toMicros
      exact h.answer (q := .update id e time.toMicros) ⟨ho.check hd, ht.toMicros⟩
        (hnext.trans_le hle)
  | delete id =>
    have hstore : (s.after time (.delete id)).store = (s.store.delete id).2 := by
      simp only [World.after]
      split <;> rename_i ha <;> rw [ha]
    rw [hstore]
    exact h.answer (q := .delete id) trivial ((s.store.nextId_delete id).trans_le hle)
  | refresh => exact h
  | list r => exact h
  | pickOne f u isAdmin lastRevision => exact h

lemma Owned.swept (h : s.Owned) (ht : Swept s t) : t.Owned := by
  intro id x hx
  rw [ht.store]
  rcases ht.cache.kept id with he | ⟨he, -⟩
  · exact h id x (he ▸ hx)
  · cases he.symm.trans hx

lemma Owned.after (h : s.Owned) (hs : s.store.Numbered) : (s.after time o).Owned := by
  intro id x hx
  cases o with
  | create d =>
    simp only [World.after] at hx ⊢
    cases hd : d.check with
    | error flaw =>
      simp only [hd] at hx
      exact h id x hx
    | ok e =>
      simp only [hd, LocalCache.kept?_put] at hx
      simp only [Catalog.create, List.mem_append, List.mem_singleton]
      split_ifs at hx with hid
      · exact ⟨_, .inr rfl, hid⟩
      · obtain ⟨b, hb, hid⟩ := h id x hx
        exact ⟨b, .inl hb, hid⟩
  | update j d =>
    simp only [World.after] at hx ⊢
    cases hd : d.check with
    | error flaw =>
      simp only [hd] at hx
      exact h id x hx
    | ok e =>
      simp only [hd] at hx
      obtain ⟨b, hb, hid⟩ := h id x hx
      have hmem : id ∈ s.store.rows.map (·.id) := List.mem_map.mpr ⟨b, hb, hid⟩
      rw [← s.store.ids_update j e time.toMicros] at hmem
      exact List.mem_map.mp hmem
  | delete j =>
    cases hf : s.store.find? j with
    | none =>
      simp only [World.after, Catalog.delete, hf] at hx ⊢
      exact h id x hx
    | some b =>
      simp only [World.after, Catalog.delete, hf, LocalCache.kept?_delete] at hx ⊢
      split_ifs at hx with hid
      obtain ⟨a, ha, rfl⟩ := h id x hx
      exact ⟨a, List.mem_filter.mpr ⟨ha, by simpa using Ne.symm hid⟩, rfl⟩
  | refresh =>
    simp only [World.after, hs.query_all] at hx ⊢
    by_cases hid : ∃ b ∈ s.store.rows, b.id = id
    · exact hid
    · push Not at hid
      rw [LocalCache.kept?_putAll_of_notMem hid] at hx
      exact h id x hx
  | list r => exact h id x hx
  | pickOne f u isAdmin lastRevision => exact h id x hx

lemma mem_servables_refresh (hs : Stocked n s.store) (ho : s.Owned) (hi : s.store.IdsFit)
    {f u : Int} {d : Banner} :
    d ∈ (s.after time .refresh).cache.servables f u s.now ↔
      0 < s.cache.ttl ∧ d ∈ (⟨s.store, s.cache⟩ : Backends LocalCache).matching f u false := by
  have hstorable : ∀ b ∈ s.store.rows, b.Storable := fun b hb => ⟨hs.writable b hb, hi b hb⟩
  have hkept : ∀ b ∈ s.store.rows, (s.after time .refresh).cache.kept? b.id =
      some ⟨b.encode, s.now, s.cache.ttl⟩ := fun b hb => kept?_refresh hs.numbered.distinct hb time
  have hexpired : ∀ payload, (CacheEntry.mk payload s.now s.cache.ttl).expired s.now = false ↔
      0 < s.cache.ttl := by
    simp [CacheEntry.expired, Nat.pos_iff_ne_zero]
  constructor
  · rintro ⟨id, -, e, he, hexp, hd, hact, hserves⟩
    have howned : (s.after time .refresh).Owned := ho.after hs.numbered
    obtain ⟨b, hb, rfl⟩ := howned id e he
    obtain rfl := Option.some.inj ((hkept b hb).symm.trans he)
    rw [Banner.decode_encode (hstorable b hb)] at hd
    obtain rfl := Option.some.inj hd
    exact ⟨(hexpired _).mp hexp, hb, hserves, .inr hact⟩
  · rintro ⟨hpos, hd, hserves, hact⟩
    refine ⟨d.id, ?_, _, hkept d hd, (hexpired _).mpr hpos, Banner.decode_encode (hstorable d hd),
      hact.resolve_left Bool.false_ne_true, hserves⟩
    simp only [World.after, hs.numbered.query_all]
    exact LocalCache.mem_indexMembers_putAll.mpr (.inr ⟨d, hd, hserves, rfl⟩)

lemma results_pickOne_eq {later : Timestamp} {f u : Int}
    (h : s.cache.servables f u s.now = ∅ ∨ s.cache.servables f u s.now =
      (⟨s.store, s.cache⟩ : Backends LocalCache).matching f u false) :
    results Catalog.model LocalCache.overTime later s (Service.pickOne f u false false) =
      results Catalog.model LocalCache.overTime later s (Service.pickOne f u false true) := by
  let q := ReadRequest.one f u false false
  have hq := Service.setOf_query_one (⟨s.store, s.cache⟩ : Backends LocalCache) f u false false
  have hlast : ∀ r, r ∈ results Catalog.model LocalCache.overTime later s
      (Service.pickOne f u false true) ↔ r ∈ Service.picks (.ok (s.store.query q.toFilter)) := by
    intro r
    rw [mem_results_pickOne, results_list_of_none rfl]
    exact ⟨fun ⟨x, hx, hr⟩ => by cases hx; exact hr, fun hr => ⟨_, rfl, hr⟩⟩
  ext r
  rw [hlast, mem_results_pickOne]
  constructor
  · rintro ⟨x, hx, hr⟩
    rcases (mem_results_list (Service.cacheKey?_one f u)).mp hx with ⟨b, hb, rfl⟩ | ⟨-, rfl⟩
    · rcases h with h | h
      · rw [h] at hb
        exact hb.elim
      · rw [h, ← hq] at hb
        obtain ⟨a, ha, rfl⟩ := Service.mem_picks_cons.mp hr
        obtain rfl := List.mem_singleton.mp ha
        exact .inl ⟨a, hb, rfl⟩
    · exact hr
  · intro hr
    by_cases hempty : s.cache.servables f u s.now = ∅
    · exact ⟨_, (mem_results_list (Service.cacheKey?_one f u)).mpr (.inr ⟨hempty, rfl⟩), hr⟩
    · have hm := h.resolve_left hempty
      rcases hr with ⟨b, hb, rfl⟩ | ⟨hnone, -⟩
      · have hserved : b ∈ s.cache.servables f u s.now := by
          rw [hm, ← hq]
          exact hb
        exact ⟨_, (mem_results_list (Service.cacheKey?_one f u)).mpr (.inl ⟨b, hserved, rfl⟩),
          .inl ⟨b, List.mem_singleton.mpr rfl, rfl⟩⟩
      · exact (hempty (hm.trans (hq.symm.trans hnone))).elim

end World

namespace Session

open World

variable {ttl start : Nat} {turns : List Turn} {s : World Catalog LocalCache}

lemma stocked (h : Session Catalog.model LocalCache.overTime (fresh ttl start) turns s)
    (hw : ∀ turn ∈ turns, turn.Writable) :
    Stocked (turns.countP Turn.creates) s.store ∧ s.Owned := by
  induction h with
  | nil => exact ⟨⟨Catalog.numbered_empty, nofun, nofun, Int.one_pos, le_rfl⟩, nofun⟩
  | wait _ ms ih =>
    obtain ⟨-, hw⟩ := List.forall_mem_cons.mp hw
    exact ih hw
  | perform _ hr ih =>
    obtain ⟨⟨ho, ht⟩, hw⟩ := List.forall_mem_cons.mp hw
    obtain ⟨hs, howned⟩ := ih hw
    have hswept := (Service.mem_outcomes_iff_performs.mp hr).after
    rw [List.countP_cons, hswept.store]
    exact ⟨hs.after ho ht, (howned.after hs.numbered).swept hswept⟩

lemma ids_fit (h : Session Catalog.model LocalCache.overTime (fresh ttl start) turns s)
    (hw : ∀ turn ∈ turns, turn.Writable) (hc : turns.countP Turn.creates < 2 ^ 63 - 1) :
    s.store.IdsFit :=
  (h.stocked hw).1.ids_fit hc

/-- Right after a refresh a read that may use the cache can come to the same results as a read of
the last revision. -/
theorem refresh_converges
    (h : Session Catalog.model LocalCache.overTime (fresh ttl start) turns s)
    (hw : ∀ turn ∈ turns, turn.Writable) (hi : s.store.IdsFit)
    (time : Timestamp) :
    results Catalog.model LocalCache.overTime time s Service.refresh =
      {.ok s.store.rows.length} ∧
    ∀ r t, (r, t) ∈ Service.refresh.outcomes (answers Catalog.model LocalCache.overTime time) s →
      t.store = s.store ∧ ∀ later f u,
        results Catalog.model LocalCache.overTime later t (Service.pickOne f u false false) =
          results Catalog.model LocalCache.overTime later t (Service.pickOne f u false true) := by
  obtain ⟨hs, ho⟩ := h.stocked hw
  have hrefresh : ∀ r t, (r, t) ∈
      Service.refresh.outcomes (answers Catalog.model LocalCache.overTime time) s ↔
        r = .ok s.store.rows.length ∧ t = s.after time .refresh := fun r t => by
    rw [Service.performs_refresh, World.performs_refresh, hs.numbered.query_all]
  refine ⟨?_, fun r t ht => ?_⟩
  · ext r
    constructor
    · rintro ⟨t, ht⟩
      exact ((hrefresh r t).mp ht).1
    · intro hr
      exact ⟨_, (hrefresh r _).mpr ⟨hr, rfl⟩⟩
  · obtain ⟨-, rfl⟩ := (hrefresh r t).mp ht
    refine ⟨rfl, fun later f u => results_pickOne_eq ?_⟩
    have hmem : ∀ d, d ∈ (s.after time .refresh).cache.servables f u s.now ↔ 0 < s.cache.ttl ∧
        d ∈ (⟨s.store, s.cache⟩ : Backends LocalCache).matching f u false := fun d =>
      mem_servables_refresh hs ho hi
    by_cases httl : 0 < s.cache.ttl
    · exact .inr (Set.ext fun d => (hmem d).trans (and_iff_right httl))
    · exact .inl (Set.eq_empty_of_forall_notMem fun d hd => httl ((hmem d).mp hd).1)

theorem refresh_converges_create :
    let turns := [Turn.wait 10, Turn.perform (.create .sample) ⟨0, 0⟩]
    ∃ s, Session Catalog.model LocalCache.overTime (fresh 10 0) turns s ∧
      (∀ turn ∈ turns, turn.Writable) ∧ s.store.IdsFit ∧
      results Catalog.model LocalCache.overTime ⟨0, 0⟩ s Service.refresh = {.ok 1} ∧
      ∀ r t, (r, t) ∈
          Service.refresh.outcomes (answers Catalog.model LocalCache.overTime ⟨0, 0⟩) s →
        results Catalog.model LocalCache.overTime ⟨0, 0⟩ t (Service.pickOne 1 2 false false) =
          results Catalog.model LocalCache.overTime ⟨0, 0⟩ t (Service.pickOne 1 2 false true) := by
  intro turns
  have created : Session Catalog.model LocalCache.overTime (fresh 10 0)
      [Turn.perform (.create .sample) ⟨0, 0⟩] _ := .perform .nil
    (Service.mem_outcomes_iff_performs.mpr (.create Banner.Draft.check_sample rfl ⟨.first 0, rfl⟩))
  have hs : Session Catalog.model LocalCache.overTime (fresh 10 0) turns _ := created.wait 10
  have hw : ∀ turn ∈ turns, turn.Writable := List.forall_mem_cons.mpr
    ⟨trivial, List.forall_mem_singleton.mpr
      ⟨Banner.Draft.writable_sample, Timestamp.proper_epoch⟩⟩
  have hi := hs.ids_fit hw (by decide)
  have h := hs.refresh_converges hw hi ⟨0, 0⟩
  exact ⟨_, hs, hw, hi, h.1, fun r t ht => (h.2 r t ht).2 ⟨0, 0⟩ 1 2⟩

end Session

end Billboard
