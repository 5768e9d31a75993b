import Billboard.Proofs.Banner.RoundTrip
import Billboard.Proofs.Cache.Alike
import Mathlib.Data.List.Induction
import Mathlib.Logic.Function.Basic

/-! The cache inside the process does what a plain map with times does. -/

namespace Billboard

open Banner (payloadKey indexKey)

/-- The banner last put under each id, with the time of the put. -/
structure CacheMemory where
  last : Int → Option (Banner × Nat) := fun _ => none
  now : Nat

namespace CacheMemory

def next (m : CacheMemory) : CacheUse → CacheMemory
  | .call _ (.put b) => { m with last := Function.update m.last b.id (some (b, m.now)) }
  | .call _ (.delete id) => { m with last := Function.update m.last id none }
  | .call _ (.get ..) => m
  | .call _ .ping => m
  | .wait ms => { m with now := m.now + ms }

def after (m : CacheMemory) (uses : List CacheUse) : CacheMemory := uses.foldl next m

def Holds (m : CacheMemory) (ttl : Nat) (id : Int) (b : Banner) : Prop :=
  ∃ time, m.last id = some (b, time) ∧ m.now - time < ttl

end CacheMemory

def WasPut (uses : List CacheUse) (b : Banner) : Prop := ∃ visit, .call visit (.put b) ∈ uses

lemma wasPut_append {uses : List CacheUse} {use : CacheUse} {b : Banner} :
    WasPut (uses ++ [use]) b ↔ WasPut uses b ∨ ∃ visit, use = .call visit (.put b) := by
  simp only [WasPut, List.mem_append, List.mem_singleton, exists_or, eq_comm]

lemma wasPut_append_other {uses : List CacheUse} {use : CacheUse}
    (hu : ∀ visit b, use ≠ .call visit (.put b)) {b : Banner} :
    WasPut (uses ++ [use]) b ↔ WasPut uses b := by
  rw [wasPut_append]
  exact or_iff_left fun ⟨visit, he⟩ => hu visit b he

structure Agrees (ttl now : Nat) (last : Option (Banner × Nat)) (entry : Option CacheEntry) :
    Prop where
  kept : ∀ e, entry = some e → ∃ b, last = some (b, e.cachedAt) ∧ e = ⟨b.encode, e.cachedAt, ttl⟩
  lost : ∀ b time, last = some (b, time) → entry = none → ttl ≤ now - time

namespace Agrees

variable {ttl now : Nat} {last : Option (Banner × Nat)} {entry : Option CacheEntry}

lemma absent : Agrees ttl now none none where
  kept _ h := by cases h
  lost _ _ h := by cases h

lemma put (b : Banner) (time : Nat) :
    Agrees ttl now (some (b, time)) (some ⟨b.encode, time, ttl⟩) where
  kept e h := by
    cases h
    exact ⟨b, rfl, rfl⟩
  lost _ _ _ h := by cases h

lemma later (h : Agrees ttl now last entry) (ms : Nat) : Agrees ttl (now + ms) last entry where
  kept := h.kept
  lost b time hm he := by
    have hl := h.lost b time hm he
    omega

lemma sweep {e : CacheEntry} (h : Agrees ttl now last (some e)) (he : e.expired now = true) :
    Agrees ttl now last none where
  kept _ h := by cases h
  lost b time hm _ := by
    obtain ⟨d, hd, hee⟩ := h.kept e rfl
    obtain ⟨-, rfl⟩ := Prod.mk.inj (Option.some.inj (hd.symm.trans hm))
    rwa [hee, CacheEntry.expired, decide_eq_true_eq] at he

end Agrees

structure Remembers (ttl : Nat) (uses : List CacheUse) (s : TimedCache) (m : CacheMemory) :
    Prop where
  ttl_eq : s.cache.ttl = ttl
  now_eq : s.now = m.now
  agrees : ∀ id, Agrees ttl m.now (m.last id) (s.cache.kept? id)
  put : ∀ id b time, m.last id = some (b, time) → b.id = id ∧ WasPut uses b
  listed : ∀ f t id, id ∈ s.cache.indexMembers f t ↔
    ∃ b, WasPut uses b ∧ b.serves f t = true ∧ b.id = id
  nodup : ∀ key, (s.cache.members key).Nodup

namespace Remembers

variable {ttl : Nat} {uses : List CacheUse} {s : TimedCache} {m : CacheMemory}

lemma fresh (ttl start : Nat) :
    Remembers ttl [] (.fresh ttl start) { now := start } where
  ttl_eq := rfl
  now_eq := rfl
  agrees _ := .absent
  put _ _ _ h := by cases h
  listed f t id := by simp [WasPut, TimedCache.fresh, LocalCache.indexMembers, LocalCache.members,
    Table.get?]
  nodup key := by simp [TimedCache.fresh, LocalCache.members, Table.get?]

lemma call_put (h : Remembers ttl uses s m) (visit : Visit) (b : Banner) :
    Remembers ttl (uses ++ [.call visit (.put b)]) (s.next (.call visit (.put b)))
      (m.next (.call visit (.put b))) := by
  have hput : ∀ {d}, WasPut (uses ++ [.call visit (.put b)]) d ↔ WasPut uses d ∨ d = b := by
    intro d
    rw [wasPut_append]
    exact or_congr_right ⟨fun ⟨v, hv⟩ => by cases hv; rfl, fun hd => ⟨visit, by rw [hd]⟩⟩
  constructor
  · simpa [TimedCache.next, LocalCache.answer] using h.ttl_eq
  · exact h.now_eq
  · intro id
    simp only [TimedCache.next, LocalCache.answer, LocalCache.kept?_put, CacheMemory.next,
      Function.update_apply]
    by_cases hid : b.id = id
    · rw [if_pos hid, if_pos hid.symm, h.ttl_eq, h.now_eq]
      exact .put b m.now
    · rw [if_neg hid, if_neg (Ne.symm hid)]
      exact h.agrees id
  · intro id d time hm
    simp only [CacheMemory.next, Function.update_apply] at hm
    rw [hput]
    by_cases hid : id = b.id
    · rw [if_pos hid] at hm
      cases hm
      exact ⟨hid.symm, .inr rfl⟩
    · rw [if_neg hid] at hm
      obtain ⟨hd, hp⟩ := h.put id d time hm
      exact ⟨hd, .inl hp⟩
  · intro f t id
    simp only [TimedCache.next, LocalCache.answer, LocalCache.mem_indexMembers_put, h.listed, hput]
    constructor
    · rintro (⟨d, hd, hs⟩ | ⟨hs, rfl⟩)
      · exact ⟨d, .inl hd, hs⟩
      · exact ⟨b, .inr rfl, hs, rfl⟩
    · rintro ⟨d, hd | rfl, hs, rfl⟩
      · exact .inl ⟨d, hd, hs, rfl⟩
      · exact .inr ⟨hs, rfl⟩
  · exact LocalCache.nodup_put h.nodup b s.now

lemma other (h : Remembers ttl uses s m) {use : CacheUse}
    (hu : ∀ visit b, use ≠ .call visit (.put b)) {s' : TimedCache} {m' : CacheMemory}
    (httl : s'.cache.ttl = s.cache.ttl) (hindex : s'.cache.index = s.cache.index)
    (hnow : s'.now = m'.now) (hlast : ∀ id p, m'.last id = some p → m.last id = some p)
    (hagrees : ∀ id, Agrees ttl m'.now (m'.last id) (s'.cache.kept? id)) :
    Remembers ttl (uses ++ [use]) s' m' := by
  have hput : ∀ {d}, WasPut (uses ++ [use]) d ↔ WasPut uses d := wasPut_append_other hu
  have hmembers : ∀ key, s'.cache.members key = s.cache.members key := by
    intro key
    rw [LocalCache.members, LocalCache.members, hindex]
  refine ⟨httl.trans h.ttl_eq, hnow, hagrees, fun id b time hm => ?_, fun f t id => ?_,
    fun key => ?_⟩
  · rw [hput]
    exact h.put id b time (hlast id _ hm)
  · simp only [hput, LocalCache.indexMembers, hmembers]
    exact h.listed f t id
  · rw [hmembers]
    exact h.nodup key

lemma call_delete (h : Remembers ttl uses s m) (visit : Visit) (i : Int) :
    Remembers ttl (uses ++ [.call visit (.delete i)]) (s.next (.call visit (.delete i)))
      (m.next (.call visit (.delete i))) := by
  refine h.other (by simp) (by simp [TimedCache.next, LocalCache.answer])
    (by simp [TimedCache.next, LocalCache.answer]) h.now_eq ?_ ?_
  · intro id p hm
    simp only [CacheMemory.next, Function.update_apply] at hm
    split_ifs at hm
    exact hm
  · intro id
    simp only [TimedCache.next, LocalCache.answer, LocalCache.kept?_delete, CacheMemory.next,
      Function.update_apply]
    by_cases hid : i = id
    · rw [if_pos hid, if_pos hid.symm]
      exact .absent
    · rw [if_neg hid, if_neg (Ne.symm hid)]
      exact h.agrees id

lemma call_get (h : Remembers ttl uses s m) (visit : Visit) (f t : Int) :
    Remembers ttl (uses ++ [.call visit (.get f t)]) (s.next (.call visit (.get f t)))
      (m.next (.call visit (.get f t))) := by
  have hs := s.cache.swept_get visit f t s.now
  refine h.other (by simp) hs.ttl hs.index h.now_eq ?_ ?_
  · exact fun _ _ hm => hm
  · intro id
    have ha := h.agrees id
    rcases hs.kept id with hsame | ⟨hn, e, he, hexp⟩
    · simpa only [TimedCache.next, LocalCache.answer, CacheMemory.next, hsame] using ha
    · rw [he] at ha
      rw [h.now_eq] at hexp
      simpa only [TimedCache.next, LocalCache.answer, CacheMemory.next, hn] using ha.sweep hexp

lemma wait (h : Remembers ttl uses s m) (ms : Nat) :
    Remembers ttl (uses ++ [.wait ms]) (s.next (.wait ms)) (m.next (.wait ms)) := by
  refine h.other (by simp) rfl rfl (congrArg (· + ms) h.now_eq) ?_ ?_
  · exact fun _ _ hm => hm
  · exact fun id => (h.agrees id).later ms

lemma next (h : Remembers ttl uses s m) (use : CacheUse) :
    Remembers ttl (uses ++ [use]) (s.next use) (m.next use) := by
  match use with
  | .call visit (.put b) => exact h.call_put visit b
  | .call visit (.get f t) => exact h.call_get visit f t
  | .call visit (.delete id) => exact h.call_delete visit id
  | .call visit .ping => exact h.other (by simp) rfl rfl h.now_eq (fun _ _ hm => hm) h.agrees
  | .wait ms => exact h.wait ms

theorem after (ttl start : Nat) (uses : List CacheUse) :
    Remembers ttl uses ((TimedCache.fresh ttl start).after uses)
      (CacheMemory.after { now := start } uses) := by
  induction uses using List.reverseRecOn with
  | nil => exact fresh ttl start
  | append_singleton uses use ih =>
    simp only [TimedCache.after, CacheMemory.after, List.foldl_append, List.foldl_cons,
      List.foldl_nil] at ih ⊢
    exact ih.next use

lemma live? (h : Remembers ttl uses s m) (id : Int) (payload : ByteArray) :
    s.cache.live? id s.now = some payload ↔ ∃ b, m.Holds ttl id b ∧ b.encode = payload := by
  rw [LocalCache.live?_eq_some]
  constructor
  · rintro ⟨e, he, hexp, rfl⟩
    obtain ⟨b, hb, hee⟩ := (h.agrees id).kept e he
    refine ⟨b, ⟨e.cachedAt, hb, ?_⟩, by rw [hee]⟩
    rw [hee, CacheEntry.expired, decide_eq_false_iff_not, h.now_eq] at hexp
    exact Nat.not_le.mp hexp
  · rintro ⟨b, ⟨time, hb, hl⟩, rfl⟩
    cases he : s.cache.kept? id with
    | none =>
      have hl' := (h.agrees id).lost b time hb he
      omega
    | some e =>
      obtain ⟨d, hd, hee⟩ := (h.agrees id).kept e he
      obtain ⟨rfl, rfl⟩ := Prod.mk.inj (Option.some.inj (hd.symm.trans hb))
      refine ⟨e, rfl, ?_, by rw [hee]⟩
      rw [hee, CacheEntry.expired, decide_eq_false_iff_not, h.now_eq]
      exact Nat.not_le.mpr hl

lemma holds_id (h : Remembers ttl uses s m) {id : Int} {b : Banner} (hb : m.Holds ttl id b) :
    b.id = id ∧ WasPut uses b := by
  obtain ⟨time, hm, -⟩ := hb
  exact h.put id b time hm

lemma servables_eq (h : Remembers ttl uses s m) (hs : ∀ b, WasPut uses b → b.Storable)
    (f t : Int) : s.cache.servables f t s.now =
      {b | m.Holds ttl b.id b ∧ b.active = true ∧ b.serves f t = true} := by
  have served : ∀ {id : Int} {b : Banner}, m.Holds ttl id b →
      (Banner.servable? b.encode f t = if b.active && b.serves f t then some b else none) := by
    intro id b hb
    rw [Banner.servable?, Banner.decode_encode (hs b (h.holds_id hb).2), Option.filter_some]
  ext b
  simp only [LocalCache.mem_servables, LocalCache.served?, Set.mem_ofPred_eq,
    Option.bind_eq_some_iff, h.live?]
  constructor
  · rintro ⟨id, -, payload, ⟨d, hd, rfl⟩, hb⟩
    rw [served hd] at hb
    split_ifs at hb with hc
    cases hb
    obtain ⟨rfl, -⟩ := h.holds_id hd
    exact ⟨hd, by simpa using hc⟩
  · rintro ⟨hd, ha, hv⟩
    refine ⟨b.id, (h.listed f t b.id).mpr ⟨b, (h.holds_id hd).2, hv, rfl⟩, b.encode,
      ⟨b, hd, rfl⟩, ?_⟩
    rw [served hd]
    simp [ha, hv]

end Remembers

/-- The cache answers as the map does, and a read changes no later answer. -/
theorem TimedCache.refines_memory (ttl start : Nat) (uses : List CacheUse)
    (hs : ∀ b, WasPut uses b → b.Storable) :
    let s := (TimedCache.fresh ttl start).after uses
    let m := CacheMemory.after { now := start } uses
    (∀ f t, {r | ∃ visit, (s.cache.answer visit s.now (.get f t)).1 = r} =
      oneOf (.notFound (indexKey f t))
        {b | m.Holds ttl b.id b ∧ b.active = true ∧ b.serves f t = true}) ∧
    (∀ visit id, ((s.cache.answer visit s.now (.delete id)).1 = .ok () ↔ ∃ b, m.Holds ttl id b) ∧
      ((s.cache.answer visit s.now (.delete id)).1 = .error (.notFound (payloadKey id)) ↔
        ¬ ∃ b, m.Holds ttl id b)) ∧
    (∀ f t, (s.cache.indexMembers f t).Nodup ∧ ∀ id, id ∈ s.cache.indexMembers f t ↔
      ∃ b, WasPut uses b ∧ b.serves f t = true ∧ b.id = id) ∧
    (∀ visit f t later, (s.next (.call visit (.get f t))).replies later = s.replies later) := by
  intro s m
  have h := Remembers.after ttl start uses
  refine ⟨fun f t => ?_, fun visit id => ?_, fun f t => ⟨h.nodup _, h.listed f t⟩,
    fun visit f t later => ?_⟩
  · rw [← h.servables_eq hs f t]
    exact LocalCache.get_results s.cache f t s.now
  · have hfound : (s.cache.live? id s.now).isSome = true ↔ ∃ b, m.Holds ttl id b := by
      rw [Option.isSome_iff_exists]
      constructor
      · rintro ⟨payload, hp⟩
        obtain ⟨b, hb, -⟩ := (h.live? id payload).mp hp
        exact ⟨b, hb⟩
      · rintro ⟨b, hb⟩
        exact ⟨b.encode, (h.live? id b.encode).mpr ⟨b, hb, rfl⟩⟩
    rw [← hfound]
    simp only [LocalCache.answer, LocalCache.delete_eq]
    cases (s.cache.live? id s.now).isSome <;> simp
  · exact (s.cache.swept_get visit f t s.now).alike.replies later

theorem TimedCache.refines_memory_put_wait :
    let uses : List CacheUse := [.call (.first 0) (.put (.sample 7)), .wait 5]
    let s := (TimedCache.fresh 10 0).after uses
    (∀ b, WasPut uses b → b.Storable) ∧
    {r | ∃ visit, (s.cache.answer visit s.now (.get 1 2)).1 = r} = {.ok (Banner.sample 7)} := by
  intro uses s
  have hs : ∀ b, WasPut uses b → b.Storable := by
    rintro b ⟨visit, hb⟩
    simp only [uses, List.mem_cons, List.not_mem_nil, or_false, CacheUse.call.injEq,
      CacheCall.put.injEq, reduceCtorEq] at hb
    rw [hb.2]
    exact Banner.storable_sample (by decide)
  refine ⟨hs, ((TimedCache.refines_memory 10 0 uses hs).1 1 2).trans ?_⟩
  have hm : {b | (CacheMemory.after { now := 0 } uses).Holds 10 b.id b ∧ b.active = true ∧
      b.serves 1 2 = true} = {.sample 7} := by
    ext b
    simp only [Set.mem_ofPred_eq, Set.mem_singleton_iff]
    constructor
    · rintro ⟨⟨time, hb, -⟩, -⟩
      simp only [uses, CacheMemory.after, List.foldl_cons, List.foldl_nil, CacheMemory.next,
        Function.update_apply] at hb
      split_ifs at hb
      cases hb
      rfl
    · rintro rfl
      exact ⟨⟨0, rfl, by decide⟩, rfl, rfl⟩
  rw [hm]
  ext r
  simp [oneOf]

end Billboard
