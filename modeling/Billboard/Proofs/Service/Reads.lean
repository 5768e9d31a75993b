import Billboard.Proofs.Banner.RoundTrip
import Billboard.Proofs.Service.Backends
import Billboard.Service.Banners

/-! What a read of banners can come to. -/

namespace Billboard

namespace Service

open Dialogue Backends

variable {κ : Type} {m : CacheModel κ} {s : Backends κ}

lemma outcomes_listFromStore (r : ReadRequest) :
    (listFromStore r).outcomes (answers m) s = {(.ok (s.catalog.query r.toFilter), s)} := by
  ext o
  rw [listFromStore]
  exact (mem_outcomes_of_singleton (q := Effect.store _) rfl).trans Iff.rfl

lemma mem_outcomes_list {r : ReadRequest} {f t : Int} (h : r.cacheKey? = some (f, t))
    {o : Except ServiceError (List Banner) × Backends κ} :
    o ∈ (list r).outcomes (answers m) s ↔
      (∃ b s', (.ok b, s') ∈ m (.get f t) s.cache ∧ o = (.ok [b], ⟨s.catalog, s'⟩)) ∨
      (∃ e s', (.error e, s') ∈ m (.get f t) s.cache ∧
        o = (.ok (s.catalog.query r.toFilter), ⟨s.catalog, s'⟩)) := by
  rw [list, h]
  refine (mem_outcomes_of_image (q := Effect.cache _) rfl).trans ?_
  constructor
  · rintro ⟨⟨a, s'⟩, ha, ho⟩
    cases a with
    | ok b => exact .inl ⟨b, s', ha, ho⟩
    | error e =>
      rw [outcomes_listFromStore] at ho
      exact .inr ⟨e, s', ha, ho⟩
  · rintro (⟨b, s', ha, rfl⟩ | ⟨e, s', ha, rfl⟩)
    · exact ⟨_, ha, rfl⟩
    · refine ⟨_, ha, ?_⟩
      simp only
      rw [outcomes_listFromStore]
      rfl

lemma outcomes_list_of_none {r : ReadRequest} (h : r.cacheKey? = none) :
    (list r).outcomes (answers m) s = {(.ok (s.catalog.query r.toFilter), s)} := by
  rw [list, h]
  exact outcomes_listFromStore r

lemma ok_of_mem_list {r : ReadRequest} {x : Except ServiceError (List Banner)} {s' : Backends κ}
    (h : (x, s') ∈ (list r).outcomes (answers m) s) : ∃ bs, x = .ok bs := by
  cases hk : r.cacheKey? with
  | none =>
    rw [outcomes_list_of_none hk] at h
    exact ⟨_, congrArg Prod.fst h⟩
  | some key =>
    rcases (mem_outcomes_list hk).mp h with ⟨b, _, -, ho⟩ | ⟨_, _, -, ho⟩
    · exact ⟨_, congrArg Prod.fst ho⟩
    · exact ⟨_, congrArg Prod.fst ho⟩

lemma mem_results_pickOne {f t : Int} {isAdmin lastRevision : Bool}
    {r : Except ServiceError Banner} :
    r ∈ results m s (pickOne f t isAdmin lastRevision) ↔
      ∃ bs, .ok bs ∈ results m s (list (.one f t isAdmin lastRevision)) ∧
        r ∈ oneOf .notFound {b | b ∈ bs} := by
  simp only [results, Set.mem_ofPred_eq, pickOne, mem_outcomes_bind]
  constructor
  · rintro ⟨s₂, ⟨x, s₁⟩, hx, h⟩
    obtain ⟨bs, rfl⟩ := ok_of_mem_list hx
    refine ⟨bs, ⟨s₁, hx⟩, ?_⟩
    cases bs with
    | nil =>
      cases h
      exact .inr ⟨by simp, rfl⟩
    | cons b rest =>
      obtain ⟨i, hi⟩ := (mem_outcomes_of_unchanged (q := Effect.pick _) rfl).mp h
      cases hi
      exact .inl ⟨_, List.get_mem _ _, rfl⟩
  · rintro ⟨bs, ⟨s₁, hx⟩, hr⟩
    refine ⟨s₁, (.ok bs, s₁), hx, ?_⟩
    cases bs with
    | nil =>
      rcases hr with ⟨b, hb, -⟩ | ⟨-, rfl⟩
      · cases hb
      · rfl
    | cons b rest =>
      rcases hr with ⟨a, ha, rfl⟩ | ⟨hempty, -⟩
      · obtain ⟨i, rfl⟩ := List.mem_iff_get.mp ha
        exact (mem_outcomes_of_unchanged (q := Effect.pick _) rfl).mpr ⟨i, rfl⟩
      · have hb : b ∈ ({b' | b' ∈ b :: rest} : Set Banner) := List.mem_cons_self
        rw [hempty] at hb
        cases hb

lemma setOf_query_one (s : Backends κ) (f t : Int) (isAdmin lastRevision : Bool) :
    {b | b ∈ s.catalog.query (ReadRequest.one f t isAdmin lastRevision).toFilter} =
      s.matching f t isAdmin := by
  ext b
  rw [Set.mem_ofPred_eq, Catalog.query, Banner.Filter.mem_select_iff rfl rfl]
  simp [matching, Banner.Filter.admits, ReadRequest.toFilter, ReadRequest.one, Banner.serves,
    Banner.FeatureFilter.accepts, and_assoc, eq_comm (a := f)]

lemma results_pickOne_of_none {f t : Int} {isAdmin lastRevision : Bool}
    (h : (isAdmin || lastRevision) = true) :
    results m s (pickOne f t isAdmin lastRevision) = oneOf .notFound (s.matching f t isAdmin) := by
  have hk : (ReadRequest.one f t isAdmin lastRevision).cacheKey? = none := by
    simp only [ReadRequest.cacheKey?, ReadRequest.one, h, if_true]
  ext r
  rw [mem_results_pickOne, ← setOf_query_one s f t isAdmin lastRevision]
  constructor
  · rintro ⟨bs, ⟨s₁, hx⟩, hr⟩
    rw [outcomes_list_of_none hk] at hx
    cases hx
    exact hr
  · intro hr
    refine ⟨_, ⟨s, ?_⟩, hr⟩
    rw [outcomes_list_of_none hk]
    rfl

lemma cacheKey?_one (f t : Int) : (ReadRequest.one f t false false).cacheKey? = some (f, t) := rfl

lemma mem_results_pickOne_cached {f t : Int} {r : Except ServiceError Banner} :
    r ∈ results m s (pickOne f t false false) ↔
      (∃ b s', (.ok b, s') ∈ m (.get f t) s.cache ∧ r = .ok b) ∨
      ((∃ e s', (.error e, s') ∈ m (.get f t) s.cache) ∧
        r ∈ oneOf .notFound (s.matching f t false)) := by
  have hlist := fun o => mem_outcomes_list (m := m) (s := s) (cacheKey?_one f t) (o := o)
  rw [mem_results_pickOne, ← setOf_query_one s f t false false]
  constructor
  · rintro ⟨bs, ⟨s₁, hx⟩, hr⟩
    rcases (hlist _).mp hx with ⟨b, s', hb, ho⟩ | ⟨e, s', he, ho⟩
    · cases ho
      rcases hr with ⟨a, ha, rfl⟩ | ⟨hempty, -⟩
      · exact .inl ⟨b, s', hb, congrArg _ (List.mem_singleton.mp ha)⟩
      · have hm : b ∈ ({b' | b' ∈ [b]} : Set Banner) := List.mem_cons_self
        rw [hempty] at hm
        cases hm
    · cases ho
      exact .inr ⟨⟨e, s', he⟩, hr⟩
  · rintro (⟨b, s', hb, rfl⟩ | ⟨⟨e, s', he⟩, hr⟩)
    · exact ⟨[b], ⟨_, (hlist _).mpr (.inl ⟨b, s', hb, rfl⟩)⟩,
        .inl ⟨b, List.mem_singleton.mpr rfl, rfl⟩⟩
    · exact ⟨_, ⟨_, (hlist _).mpr (.inr ⟨e, s', he, rfl⟩)⟩, hr⟩

lemma mem_results_pickOne_inProcess {s : Backends LocalCache} {now : Nat} {f t : Int}
    {r : Except ServiceError Banner} :
    r ∈ results (.inProcess now) s (pickOne f t false false) ↔
      (∃ b ∈ s.cache.servables f t now, r = .ok b) ∨
      (s.cache.servables f t now = ∅ ∧ r ∈ oneOf .notFound (s.matching f t false)) := by
  have hok : ∀ b, (∃ s', (.ok b, s') ∈ CacheModel.inProcess now (.get f t) s.cache) ↔ _ :=
    fun b => CacheModel.exists_mem_inProcess_get
  rw [mem_results_pickOne_cached]
  constructor
  · rintro (⟨b, s', hb, rfl⟩ | ⟨⟨e, s', he⟩, hr⟩)
    · rcases (hok b).mp ⟨s', hb⟩ with ⟨d, hd, he⟩ | ⟨-, he⟩
      · cases he
        exact .inl ⟨b, hd, rfl⟩
      · cases he
    · rcases CacheModel.exists_mem_inProcess_get.mp ⟨s', he⟩ with ⟨_, _, hn⟩ | ⟨hempty, -⟩
      · cases hn
      · exact .inr ⟨hempty, hr⟩
  · have hmiss : s.cache.servables f t now = ∅ →
        ∃ e s', (.error e, s') ∈ CacheModel.inProcess now (.get f t) s.cache := fun h =>
      ⟨_, CacheModel.exists_mem_inProcess_get.mpr (.inr ⟨h, rfl⟩)⟩
    rintro (⟨b, hb, rfl⟩ | ⟨hempty, hr⟩)
    · obtain ⟨s', hs⟩ := (hok b).mpr (.inl ⟨b, hb, rfl⟩)
      exact .inl ⟨b, s', hs, rfl⟩
    · exact .inr ⟨hmiss hempty, hr⟩

lemma mem_results_pickOne_failing {e : CacheError} {f t : Int} {r : Except ServiceError Banner} :
    r ∈ results (.failing e) s (pickOne f t false false) ↔
      r ∈ oneOf .notFound (s.matching f t false) := by
  rw [mem_results_pickOne_cached]
  constructor
  · rintro (⟨b, s', hb, -⟩ | ⟨-, hr⟩)
    · cases hb
    · exact hr
  · intro hr
    exact .inr ⟨⟨e, s.cache, rfl⟩, hr⟩

lemma of_cacheKey? {r : ReadRequest} {f t : Int} (h : r.cacheKey? = some (f, t)) :
    ∃ rest, r.feature = .only f ∧ r.tags = t :: rest := by
  unfold ReadRequest.cacheKey? at h
  split at h
  · cases h
  · split at h
    · rename_i hf ht
      cases h
      exact ⟨_, hf, ht⟩
    · cases h

lemma admits_of_mem_list (hm : m.Careful) {r : ReadRequest} {bs : List Banner}
    (h : .ok bs ∈ results m s (list r)) : ∀ b ∈ bs, r.toFilter.admits b = true := by
  obtain ⟨s', h⟩ := h
  intro b hb
  cases hk : r.cacheKey? with
  | none =>
    rw [outcomes_list_of_none hk] at h
    cases h
    exact (Banner.Filter.mem_select hb).2
  | some key =>
    obtain ⟨f, t⟩ := key
    rcases (mem_outcomes_list hk).mp h with ⟨d, s₁, hd, ho⟩ | ⟨e, s₁, -, ho⟩
    · cases ho
      obtain rfl := List.mem_singleton.mp hb
      obtain ⟨hact, hserves⟩ := hm f t _ _ _ hd
      obtain ⟨rest, hf, ht⟩ := of_cacheKey? hk
      simp only [Banner.serves, Bool.and_eq_true, beq_iff_eq, List.contains_iff_mem] at hserves
      simp [Banner.Filter.admits, ReadRequest.toFilter, hf, ht, hact, hserves,
        Banner.FeatureFilter.accepts]
    · cases ho
      exact (Banner.Filter.mem_select hb).2

/-- A read by a client hands out a banner that the cache serves for the pair, else an active row for
it. A read by an admin or of the last revision hands out a row. -/
theorem pickOne_results (catalog : Catalog) (cache : LocalCache) (now : Nat) (f t : Int) :
    let s : Backends LocalCache := ⟨catalog, cache⟩
    let served := cache.servables f t now
    let rows := s.matching f t
    (∀ r, r ∈ results (.inProcess now) s (pickOne f t false false) ↔
      (∃ b ∈ served, r = .ok b) ∨ (served = ∅ ∧ ∃ b ∈ rows false, r = .ok b) ∨
        (served = ∅ ∧ rows false = ∅ ∧ r = .error .notFound)) ∧
    (∀ e r, r ∈ results (.failing e) s (pickOne f t false false) ↔
      (∃ b ∈ rows false, r = .ok b) ∨ (rows false = ∅ ∧ r = .error .notFound)) ∧
    (∀ (m : CacheModel LocalCache) (isAdmin lastRevision : Bool),
      (isAdmin || lastRevision) = true → ∀ r, r ∈ results m s (pickOne f t isAdmin lastRevision) ↔
        (∃ b ∈ rows isAdmin, r = .ok b) ∨ (rows isAdmin = ∅ ∧ r = .error .notFound)) ∧
    (∀ (r : ReadRequest) (bs : List Banner), (.ok bs ∈ results (.inProcess now) s (list r) ∨
        ∃ e, .ok bs ∈ results (.failing e) s (list r)) → ∀ b ∈ bs, r.toFilter.admits b = true) := by
  intro s served rows
  refine ⟨fun r => ?_, fun e r => ?_, fun m isAdmin lastRevision h r => ?_,
    fun r bs hbs => ?_⟩
  · rw [mem_results_pickOne_inProcess]
    simp only [oneOf, Set.mem_ofPred_eq, and_or_left]
    rfl
  · rw [mem_results_pickOne_failing]
    exact Iff.rfl
  · rw [results_pickOne_of_none h]
    exact Iff.rfl
  · rcases hbs with hbs | ⟨e, hbs⟩
    · exact admits_of_mem_list (CacheModel.careful_inProcess now) hbs
    · exact admits_of_mem_list (CacheModel.careful_failing e) hbs

theorem pickOne_results_one_row :
    let s : Backends LocalCache := ⟨⟨[.sample 7], 8⟩, { ttl := 10 }⟩
    let r := ReadRequest.one 1 2 false false
    .ok [.sample 7] ∈ results (.failing (.backend "down")) s (list r) ∧
      r.toFilter.admits (.sample 7) = true := by
  intro s r
  have hq : s.catalog.query r.toFilter = [.sample 7] := by
    simp [s, r, Catalog.query, Banner.Filter.select, Banner.Filter.page, Banner.Filter.limit?,
      Banner.Filter.admits, ReadRequest.toFilter, ReadRequest.one, Banner.sample,
      Banner.FeatureFilter.accepts]
  have hmem : .ok [.sample 7] ∈ results (.failing (.backend "down")) s (list r) := by
    refine ⟨s, (mem_outcomes_list (cacheKey?_one 1 2)).mpr (.inr ⟨.backend "down", _, rfl, ?_⟩)⟩
    exact Prod.ext (congrArg Except.ok hq.symm) rfl
  exact ⟨hmem, (pickOne_results s.catalog s.cache 0 1 2).2.2.2 r _ (.inr ⟨_, hmem⟩) _
    List.mem_cons_self⟩

end Service

end Billboard
