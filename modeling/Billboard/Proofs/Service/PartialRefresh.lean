import Billboard.Proofs.Cache.Refill
import Billboard.Proofs.Service.Faltering
import Billboard.Proofs.Store.Paging

/-! Refreshes that fail midway. -/

namespace Billboard

open Clock (Timestamp)

namespace Catalog

variable {c : Catalog} {b : Banner}

def below (c : Catalog) (id : Int) : List Banner := (c.query {}).filter (·.id < id)

lemma mem_below {id : Int} : b ∈ c.below id ↔ b ∈ c.rows ∧ b.id < id := by
  rw [below, List.mem_filter, mem_query_all, decide_eq_true_eq]

lemma Keyed.query_all_split (h : c.Keyed) (hb : b ∈ c.rows) :
    ∃ above, c.query {} = c.below b.id ++ b :: above := by
  obtain ⟨before, above, hsplit⟩ := List.append_of_mem (mem_query_all.mpr hb)
  have hascending : (c.query {}).Pairwise fun a b => a.id < b.id := h.matching_ascending {}
  rw [hsplit, List.pairwise_append, List.pairwise_cons] at hascending
  obtain ⟨-, ⟨habove, -⟩, hbefore⟩ := hascending
  refine ⟨above, ?_⟩
  have hlow : before.filter (·.id < b.id) = before :=
    List.filter_eq_self.mpr fun a ha => decide_eq_true (hbefore a ha b List.mem_cons_self)
  have hhigh : (b :: above).filter (·.id < b.id) = [] := by
    rw [List.filter_eq_nil_iff]
    simp only [List.forall_mem_cons, decide_eq_true_eq]
    exact ⟨lt_irrefl _, fun a ha => (habove a ha).not_gt⟩
  rw [below, hsplit, List.filter_append, hlow, hhigh, List.append_nil]

end Catalog

structure WatchedCache where
  cache : LocalCache
  calls : List CacheCall := []

namespace WatchedCache

/-- The calls are counted from zero. One that is to fail changes nothing, and any other is carried
out at the time of its number. -/
def model (fault : Nat → Option CacheError) (time : Nat → Nat) : CacheOverTime WatchedCache where
  answers _ c s := match fault s.calls.length with
    | some e => {(.error e, ⟨s.cache, s.calls ++ [c]⟩)}
    | none => {p | ∃ visit, p = ((s.cache.answer visit (time s.calls.length) c).1,
        ⟨(s.cache.answer visit (time s.calls.length) c).2, s.calls ++ [c]⟩)}
  responds _ c s := by
    split
    · exact Set.singleton_nonempty _
    · exact ⟨_, .first 0, rfl⟩

variable {fault : Nat → Option CacheError} {time : Nat → Nat} {now : Nat} {s : WatchedCache}
  {b : Banner}

lemma answers_put (h : fault s.calls.length = none) :
    (model fault time).answers now (.put b) s =
      {(.ok (), ⟨s.cache.put b (time s.calls.length), s.calls ++ [.put b]⟩)} := by
  simp only [model, h, LocalCache.answer]
  ext p
  exact ⟨fun ⟨_, hp⟩ => hp, fun hp => ⟨.first 0, hp⟩⟩

lemma answers_put_of_fault {e : CacheError} (h : fault s.calls.length = some e) :
    (model fault time).answers now (.put b) s =
      {(.error e, ⟨s.cache, s.calls ++ [.put b]⟩)} := by
  simp only [model, h]

end WatchedCache

namespace Service

open World

variable {store : StoreModel Catalog} {fault : Nat → Option CacheError} {time : Nat → Nat}
  {clock : Timestamp} {catalog : Catalog} {cache : LocalCache} {calls : List CacheCall} {now : Nat}
  {b : Banner} {before bs : List Banner} {e : CacheError}

lemma outcomes_putAll_cons (h : fault calls.length = none) :
    (putAll (b :: bs)).outcomes (answers store (WatchedCache.model fault time) clock)
        ⟨catalog, ⟨cache, calls⟩, now⟩ =
      (putAll bs).outcomes (answers store (WatchedCache.model fault time) clock)
        ⟨catalog, ⟨cache.put b (time calls.length), calls ++ [.put b]⟩, now⟩ := by
  ext o
  rw [putAll, mem_outcomes_cache, WatchedCache.answers_put h]
  simp only [Set.mem_singleton_iff, exists_eq_left]

lemma outcomes_putAll_cons_of_fault (h : fault calls.length = some e) :
    (putAll (b :: bs)).outcomes (answers store (WatchedCache.model fault time) clock)
        ⟨catalog, ⟨cache, calls⟩, now⟩ =
      {(.error (.cache b.id e), ⟨catalog, ⟨cache, calls ++ [.put b]⟩, now⟩)} := by
  ext o
  rw [putAll, mem_outcomes_cache, WatchedCache.answers_put_of_fault h]
  simp only [Set.mem_singleton_iff, exists_eq_left]
  rfl

lemma outcomes_putAll_append (h : ∀ k < before.length, fault (calls.length + k) = none) :
    (putAll (before ++ bs)).outcomes (answers store (WatchedCache.model fault time) clock)
        ⟨catalog, ⟨cache, calls⟩, now⟩ =
      (putAll bs).outcomes (answers store (WatchedCache.model fault time) clock)
        ⟨catalog, ⟨cache.putFrom time calls.length before, calls ++ before.map CacheCall.put⟩,
          now⟩ := by
  induction before generalizing cache calls with
  | nil => rw [List.nil_append, List.map_nil, List.append_nil, LocalCache.putFrom]
  | cons b before ih =>
    have hlength : (calls ++ [CacheCall.put b]).length = calls.length + 1 := List.length_append
    have hfirst : fault calls.length = none := h 0 (Nat.succ_pos _)
    rw [List.cons_append, outcomes_putAll_cons hfirst, ih]
    · rw [hlength, List.append_assoc]
      rfl
    · intro k hk
      rw [hlength, Nat.add_right_comm]
      exact h (k + 1) (Nat.succ_lt_succ hk)

lemma outcomes_refresh_of_failure (failure : StoreError) {s : World Catalog WatchedCache} :
    refresh.outcomes
        (answers (Catalog.faltering (some failure)) (WatchedCache.model fault time) clock) s =
      {(.error (.store failure), s)} := by
  ext o
  rw [refresh, mem_outcomes_query]
  rfl

lemma outcomes_refresh {s t : World Catalog WatchedCache} {a : Except RefreshError Unit}
    (h : (putAll (s.store.query {})).outcomes
      (answers (Catalog.faltering none) (WatchedCache.model fault time) clock) s = {(a, t)}) :
    refresh.outcomes (answers (Catalog.faltering none) (WatchedCache.model fault time) clock) s =
      {(a.map fun _ => (s.store.query {}).length, t)} := by
  ext o
  rw [refresh, mem_outcomes_query]
  change o ∈ (putAll (s.store.query {}) >>= _).outcomes _ s ↔ _
  rw [Dialogue.mem_outcomes_bind, h]
  simp only [Set.mem_singleton_iff, exists_eq_left]
  cases a <;> rfl

end Service

namespace Catalog

lemma Keyed.length_below {c : Catalog} (h : c.Keyed) {n : Nat} {b : Banner}
    (hn : (c.query {})[n]? = some b) : (c.below b.id).length = n := by
  obtain ⟨above, hsplit⟩ := h.query_all_split (mem_query_all.mp (List.mem_of_getElem? hn))
  have hnodup : (c.query {}).Nodup :=
    (h.matching_ascending {}).imp fun hids hsame => hids.ne (congrArg Banner.id hsame)
  have hat : (c.query {})[(c.below b.id).length]? = some b := by
    rw [hsplit, List.getElem?_append_right le_rfl, Nat.sub_self, List.getElem?_cons_zero]
  -- the ids are distinct, so the row stands at one place only
  obtain ⟨hlt, -⟩ := List.getElem?_eq_some_iff.mp hat
  exact (List.getElem?_inj hlt hnodup).mp (hat.trans hn.symm)

lemma Keyed.exists_first_fault {c : Catalog} (h : c.Keyed) (fault : Nat → Option CacheError) :
    (∀ k < c.rows.length, fault k = none) ∨
      ∃ b ∈ c.rows, ∃ e, (∀ k < (c.below b.id).length, fault k = none) ∧
        fault (c.below b.id).length = some e := by
  rw [or_iff_not_imp_left, ← c.query_all_perm.length_eq]
  intro hfaulty
  push Not at hfaulty
  obtain ⟨hlt, hsome⟩ := Nat.find_spec hfaulty
  have hmin : ∀ k < Nat.find hfaulty, fault k = none := by
    intro k hk
    by_contra hne
    exact Nat.find_min hfaulty hk ⟨hk.trans hlt, hne⟩
  obtain ⟨e, he⟩ := Option.ne_none_iff_exists'.mp hsome
  refine ⟨_, mem_query_all.mp (List.getElem_mem hlt), e, ?_⟩
  rw [h.length_below (List.getElem?_eq_getElem hlt)]
  exact ⟨hmin, he⟩

/-- If the put of a row is the first that fails, the rows with smaller ids have been put, and what
the cache keeps for that row and for all later ids is as before. -/
theorem refresh_until_failure {c : Catalog} (h : c.Keyed) (cache : LocalCache) (now : Nat)
    (fault : Nat → Option CacheError) (time : Nat → Nat) (clock : Timestamp) :
    let ends (failure : Option StoreError) :=
      Service.refresh.outcomes
        (World.answers (faltering failure) (WatchedCache.model fault time) clock)
        ⟨c, ⟨cache, []⟩, now⟩
    (∀ failure, ends (some failure) = {(.error (.store failure), ⟨c, ⟨cache, []⟩, now⟩)}) ∧
    (∀ b ∈ c.rows, ∀ e, (∀ k < (c.below b.id).length, fault k = none) →
      fault (c.below b.id).length = some e →
        ends none = {(.error (.cache b.id e), ⟨c, ⟨cache.putFrom time 0 (c.below b.id),
          (c.below b.id ++ [b]).map .put⟩, now⟩)} ∧
        (∀ a, a ∈ c.below b.id ↔ a ∈ c.rows ∧ a.id < b.id) ∧
        ((c.below b.id).Pairwise fun a b => a.id < b.id) ∧
        ∀ id, b.id ≤ id → (cache.putFrom time 0 (c.below b.id)).kept? id = cache.kept? id) ∧
    ((∀ k < c.rows.length, fault k = none) →
      ends none = {(.ok c.rows.length, ⟨c, ⟨cache.putFrom time 0 (c.query {}),
        (c.query {}).map .put⟩, now⟩)} ∧
      (c.query {}).Perm c.rows ∧ (c.query {}).Pairwise fun a b => a.id < b.id) ∧
    ((∀ k < c.rows.length, fault k = none) ∨
      ∃ b ∈ c.rows, ∃ e, (∀ k < (c.below b.id).length, fault k = none) ∧
        fault (c.below b.id).length = some e) := by
  intro ends
  have hascending : (c.query {}).Pairwise fun a b => a.id < b.id := h.matching_ascending {}
  refine ⟨fun failure => Service.outcomes_refresh_of_failure failure, fun b hb e hnone he => ?_,
    fun hnone => ?_, h.exists_first_fault fault⟩
  · obtain ⟨above, hsplit⟩ := h.query_all_split hb
    refine ⟨?_, fun a => mem_below, hascending.filter _, fun id hid => ?_⟩
    · apply Service.outcomes_refresh (a := .error (.cache b.id e))
      change (Service.putAll (c.query {})).outcomes _ _ = _
      rw [hsplit, Service.outcomes_putAll_append, Service.outcomes_putAll_cons_of_fault]
      · rw [List.nil_append, List.map_append]
        rfl
      · rw [List.nil_append, List.length_map]
        exact he
      · intro k hk
        rw [List.length_nil, Nat.zero_add]
        exact hnone k hk
    · apply LocalCache.kept?_putFrom
      intro a ha
      exact ((mem_below.mp ha).2.trans_le hid).ne
  · refine ⟨?_, c.query_all_perm, hascending⟩
    rw [← c.query_all_perm.length_eq] at hnone ⊢
    apply Service.outcomes_refresh (a := .ok ())
    change (Service.putAll (c.query {})).outcomes _ _ = _
    rw [← List.append_nil (c.query {}), Service.outcomes_putAll_append]
    · rw [List.nil_append, List.append_nil]
      rfl
    · intro k hk
      rw [List.length_nil, Nat.zero_add]
      exact hnone k hk

theorem refresh_until_failure_second :
    let c : Catalog := ⟨[.sample 2, .sample 3, .sample 1], 4⟩
    let fault (k : Nat) : Option CacheError := if k = 1 then some (.backend "down") else none
    c.Keyed ∧ c.below 2 = [.sample 1] ∧
    ∀ clock,
      Service.refresh.outcomes
          (World.answers (faltering none) (WatchedCache.model fault fun k => 10 * k) clock)
          ⟨c, ⟨⟨100, [], []⟩, []⟩, 0⟩ =
        {(.error (.cache 2 (.backend "down")),
          ⟨c, ⟨(LocalCache.mk 100 [] []).put (.sample 1) 0, [.put (.sample 1), .put (.sample 2)]⟩,
            0⟩)} ∧
      ((LocalCache.mk 100 [] []).put (.sample 1) 0).kept? 3 = none := by
  intro c fault
  have hkeyed : c.Keyed := by simp [c, Keyed, Banner.sample]
  have hall : [.sample 1, .sample 2, .sample 3] = c.query {} := by
    apply hkeyed.matching_unique (.refl c.rows)
    · decide
    · simp [Banner.sample]
  have hbelow : c.below (Banner.sample 2).id = [.sample 1] := by
    rw [below, ← hall]
    rfl
  refine ⟨hkeyed, hbelow, fun clock => ?_⟩
  have hputs := (refresh_until_failure hkeyed ⟨100, [], []⟩ 0 fault (fun k => 10 * k) clock).2.1
    (.sample 2) (by decide) (.backend "down")
  rw [hbelow] at hputs
  obtain ⟨hends, -, -, hkept⟩ := hputs (by decide) (by decide)
  exact ⟨hends, hkept 3 (by decide)⟩

end Catalog

end Billboard
