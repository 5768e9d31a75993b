import Billboard.Cache.Local
import Billboard.Proofs.Banner.Keys
import Mathlib.Data.Set.Basic

namespace Billboard

def oneOf {ε α : Type} (failure : ε) (s : Set α) : Set (Except ε α) :=
  {r | (∃ a ∈ s, r = .ok a) ∨ (s = ∅ ∧ r = .error failure)}

lemma CacheEntry.expired_mono {e : CacheEntry} {now later : Nat} (h : e.expired now = true)
    (hl : now ≤ later) : e.expired later = true := by
  simp only [expired, decide_eq_true_eq] at h ⊢
  omega

def Visit.first (id : Int) : Visit where
  order ids := if id ∈ ids then id :: ids.erase id else ids
  perm ids := by
    split
    · rename_i h
      exact (List.perm_cons_erase h).symm
    · exact .rfl

lemma Visit.first_results {ε α : Type} (ids : List Int) (f : Int → Option α) (failure : ε) :
    {r | ∃ visit : Visit, ((visit.order ids).findSome? f).elim (.error failure) .ok = r} =
      oneOf failure {a | ∃ id ∈ ids, f id = some a} := by
  ext r
  constructor
  · rintro ⟨visit, rfl⟩
    have hp := visit.perm ids
    cases hf : (visit.order ids).findSome? f with
    | some a =>
      obtain ⟨id, hid, ha⟩ := List.exists_of_findSome?_eq_some hf
      exact .inl ⟨a, ⟨id, hp.mem_iff.mp hid, ha⟩, rfl⟩
    | none =>
      refine .inr ⟨?_, rfl⟩
      rw [List.findSome?_eq_none_iff] at hf
      refine Set.eq_empty_iff_forall_notMem.mpr fun a ⟨id, hid, ha⟩ => ?_
      rw [hf id (hp.mem_iff.mpr hid)] at ha
      cases ha
  · rintro (⟨a, ⟨id, hid, ha⟩, rfl⟩ | ⟨hempty, rfl⟩)
    · refine ⟨.first id, ?_⟩
      simp [Visit.first, hid, ha]
    · refine ⟨.first 0, ?_⟩
      have hnone : ((Visit.first 0).order ids).findSome? f = none := by
        rw [List.findSome?_eq_none_iff]
        intro id hid
        cases hs : f id with
        | none => rfl
        | some a =>
          have ha : a ∈ {a | ∃ id ∈ ids, f id = some a} :=
            ⟨id, ((Visit.first 0).perm _).mem_iff.mp hid, hs⟩
          rw [hempty] at ha
          exact ha.elim
      rw [hnone]
      rfl

namespace LocalCache

open Banner (payloadKey indexKey)

def kept? (c : LocalCache) (id : Int) : Option CacheEntry := c.payloads.get? (payloadKey id)

lemma live?_eq_some {c : LocalCache} {id : Int} {now : Nat} {payload : ByteArray} :
    c.live? id now = some payload ↔
      ∃ e, c.kept? id = some e ∧ e.expired now = false ∧ e.payload = payload := by
  unfold live? kept?
  cases h : c.payloads.get? (payloadKey id) with
  | none => simp
  | some e => cases he : e.expired now <;> simp [he]

lemma members_enlist (c : LocalCache) (id : Int) (key k : String) (j : Int) :
    j ∈ (c.enlist id key).members k ↔ j ∈ c.members k ∨ (k = key ∧ j = id) := by
  simp only [enlist, members, Table.get?_insert]
  by_cases hk : key = k
  · subst hk
    by_cases hid : id ∈ (c.index.get? key).getD []
    · simp only [hid, if_true, Option.getD_some, true_and]
      exact ⟨.inl, fun h => h.elim (fun h => h) fun h => h ▸ hid⟩
    · simp [hid]
  · simp [hk, Ne.symm hk]

lemma nodup_enlist {c : LocalCache} (id : Int) (key : String)
    (h : ∀ k, (c.members k).Nodup) (k : String) : ((c.enlist id key).members k).Nodup := by
  have hk := h k
  simp only [enlist, members, Table.get?_insert] at hk ⊢
  by_cases he : key = k
  · subst he
    by_cases hid : id ∈ (c.index.get? key).getD []
    · simpa [hid] using hk
    · simpa [hid, List.nodup_append] using ⟨hk, fun a ha e => hid (e ▸ ha)⟩
  · simpa [he] using hk

lemma foldl_enlist (c : LocalCache) (id : Int) (keys : List String) :
    let d := keys.foldl (fun c key => c.enlist id key) c
    d.payloads = c.payloads ∧ d.ttl = c.ttl ∧
      (∀ k j, j ∈ d.members k ↔ j ∈ c.members k ∨ (k ∈ keys ∧ j = id)) ∧
      ((∀ k, (c.members k).Nodup) → ∀ k, (d.members k).Nodup) := by
  induction keys generalizing c with
  | nil => simp
  | cons key keys ih =>
    obtain ⟨hp, ht, hm, hn⟩ := ih (c.enlist id key)
    refine ⟨hp, ht, fun k j => ?_, fun h => hn (nodup_enlist id key h)⟩
    rw [List.foldl_cons, hm, members_enlist, List.mem_cons]
    tauto

@[simp] lemma put_ttl (c : LocalCache) (b : Banner) (now : Nat) : (c.put b now).ttl = c.ttl :=
  (foldl_enlist (c.keep b.id b.encode now) b.id b.indexKeys).2.1

lemma get?_payloads_put (c : LocalCache) (b : Banner) (now : Nat) (key : String) :
    (c.put b now).payloads.get? key =
      if payloadKey b.id = key then some ⟨b.encode, now, c.ttl⟩ else c.payloads.get? key := by
  have hp := (foldl_enlist (c.keep b.id b.encode now) b.id b.indexKeys).1
  rw [put, hp, keep, Table.get?_insert]

lemma kept?_put (c : LocalCache) (b : Banner) (now : Nat) (id : Int) :
    (c.put b now).kept? id = if b.id = id then some ⟨b.encode, now, c.ttl⟩ else c.kept? id := by
  rw [kept?, get?_payloads_put]
  simp [kept?]

lemma mem_members_put {c : LocalCache} {b : Banner} {now : Nat} {key : String} {id : Int} :
    id ∈ (c.put b now).members key ↔ id ∈ c.members key ∨ (key ∈ b.indexKeys ∧ id = b.id) :=
  (foldl_enlist (c.keep b.id b.encode now) b.id b.indexKeys).2.2.1 key id

lemma mem_indexMembers_put {c : LocalCache} {b : Banner} {now : Nat} {f t id : Int} :
    id ∈ (c.put b now).indexMembers f t ↔
      id ∈ c.indexMembers f t ∨ (b.serves f t = true ∧ id = b.id) := by
  rw [indexMembers, mem_members_put, Banner.mem_indexKeys, indexMembers]

lemma nodup_put {c : LocalCache} (h : ∀ k, (c.members k).Nodup) (b : Banner) (now : Nat) :
    ∀ k, ((c.put b now).members k).Nodup :=
  (foldl_enlist (c.keep b.id b.encode now) b.id b.indexKeys).2.2.2 h

lemma delete_eq (c : LocalCache) (id : Int) (now : Nat) : c.delete id now =
    (if (c.live? id now).isSome then .ok () else .error (.notFound (payloadKey id)),
      { c with payloads := c.payloads.erase (payloadKey id) }) := by
  rw [delete, remove]
  cases (c.live? id now).isSome <;> rfl

@[simp] lemma delete_ttl (c : LocalCache) (id : Int) (now : Nat) :
    (c.delete id now).2.ttl = c.ttl := by
  rw [delete_eq]

@[simp] lemma delete_index (c : LocalCache) (id : Int) (now : Nat) :
    (c.delete id now).2.index = c.index := by
  rw [delete_eq]

lemma kept?_delete (c : LocalCache) (id : Int) (now : Nat) (j : Int) :
    (c.delete id now).2.kept? j = if id = j then none else c.kept? j := by
  rw [delete_eq, kept?, Table.get?_erase]
  simp [kept?]

/-- The second cache is the first one less some payloads that have expired by then. -/
structure Swept (now : Nat) (c d : LocalCache) : Prop where
  ttl : d.ttl = c.ttl
  index : d.index = c.index
  kept : ∀ id, d.kept? id = c.kept? id ∨
    (d.kept? id = none ∧ ∃ e, c.kept? id = some e ∧ e.expired now = true)

lemma Swept.refl (now : Nat) (c : LocalCache) : Swept now c c := ⟨rfl, rfl, fun _ => .inl rfl⟩

lemma Swept.trans {now : Nat} {c d e : LocalCache} (h : Swept now c d) (h' : Swept now d e) :
    Swept now c e := by
  refine ⟨h'.ttl.trans h.ttl, h'.index.trans h.index, fun id => ?_⟩
  rcases h'.kept id with he | ⟨hn, x, hx, hexp⟩
  · rcases h.kept id with hd | ⟨hn, hd⟩
    · exact .inl (he.trans hd)
    · exact .inr ⟨he.trans hn, hd⟩
  · rcases h.kept id with hd | ⟨hd, -⟩
    · exact .inr ⟨hn, x, hd ▸ hx, hexp⟩
    · rw [hd] at hx
      cases hx

lemma live?_of_kept {now later : Nat} {c d : LocalCache} {id : Int}
    (h : d.kept? id = c.kept? id ∨
      (d.kept? id = none ∧ ∃ e, c.kept? id = some e ∧ e.expired now = true)) (hl : now ≤ later) :
    d.live? id later = c.live? id later := by
  unfold live?
  unfold kept? at h
  rcases h with he | ⟨hn, e, he, hexp⟩
  · rw [he]
  · rw [hn, he]
    simp [CacheEntry.expired_mono hexp hl]

lemma Swept.live? {now later : Nat} {c d : LocalCache} (h : Swept now c d) (hl : now ≤ later)
    (id : Int) : d.live? id later = c.live? id later := live?_of_kept (h.kept id) hl

lemma swept_evict (c : LocalCache) (id : Int) (now : Nat) : Swept now c (c.evict id now) := by
  unfold evict
  split
  · rename_i e he
    split_ifs with hexp
    · refine ⟨rfl, rfl, fun j => ?_⟩
      simp only [kept?, Table.get?_erase, Banner.payloadKey_inj]
      by_cases hj : id = j
      · subst hj
        exact .inr ⟨by simp, e, he, hexp⟩
      · exact .inl (by simp [hj])
    · exact .refl now c
  · exact .refl now c

def served? (c : LocalCache) (f t : Int) (now : Nat) (id : Int) : Option Banner :=
  (c.live? id now).bind fun payload => Banner.servable? payload f t

lemma firstServable_spec (f t : Int) (now : Nat) (ids : List Int) (c : LocalCache) :
    (firstServable f t now ids c).1 = ids.findSome? (c.served? f t now) ∧
      Swept now c (firstServable f t now ids c).2 := by
  induction ids generalizing c with
  | nil => exact ⟨rfl, .refl now c⟩
  | cons id ids ih =>
    rw [firstServable, List.findSome?_cons]
    cases hl : c.live? id now with
    | none =>
      have hs := swept_evict c id now
      obtain ⟨h1, h2⟩ := ih (c.evict id now)
      have hsame : (c.evict id now).served? f t now = c.served? f t now := by
        funext j
        rw [served?, hs.live? (Nat.le_refl now), served?]
      rw [hsame] at h1
      refine ⟨?_, hs.trans h2⟩
      simp only [served?, hl, Option.bind_none]
      exact h1
    | some payload =>
      simp only
      cases hb : Banner.servable? payload f t with
      | none =>
        refine ⟨?_, (ih c).2⟩
        simp only [served?, hl, Option.bind_some, hb]
        exact (ih c).1
      | some b =>
        refine ⟨?_, .refl now c⟩
        simp [served?, hl, hb]

lemma get_fst (c : LocalCache) (visit : Visit) (f t : Int) (now : Nat) :
    (c.get visit f t now).1 = ((visit.order (c.indexMembers f t)).findSome?
      (c.served? f t now)).elim (.error (.notFound (indexKey f t))) .ok := by
  rw [← (firstServable_spec f t now _ c).1, get]
  split <;> rename_i h <;> simp [h]

lemma swept_get (c : LocalCache) (visit : Visit) (f t : Int) (now : Nat) :
    Swept now c (c.get visit f t now).2 := by
  have h := (firstServable_spec f t now (visit.order (c.indexMembers f t)) c).2
  rw [get]
  split <;> rename_i he <;> simpa [he] using h

/-- The banners decoded from unexpired payloads of the members of a pair's index set, as far as they
are active and meant for the pair. -/
def servables (c : LocalCache) (f t : Int) (now : Nat) : Set Banner :=
  {b | ∃ id ∈ c.indexMembers f t, ∃ e, c.kept? id = some e ∧ e.expired now = false ∧
    Banner.decode? e.payload = some b ∧ b.active = true ∧ b.serves f t = true}

lemma mem_servables {c : LocalCache} {f t : Int} {now : Nat} {b : Banner} :
    b ∈ c.servables f t now ↔ ∃ id ∈ c.indexMembers f t, c.served? f t now id = some b := by
  simp only [servables, Set.mem_ofPred_eq, served?, Option.bind_eq_some_iff, live?_eq_some,
    Banner.servable?, Option.filter_eq_some_iff, Bool.and_eq_true]
  constructor
  · rintro ⟨id, hid, e, he, hexp, hb, hp⟩
    exact ⟨id, hid, e.payload, ⟨e, he, hexp, rfl⟩, hb, hp⟩
  · rintro ⟨id, hid, _, ⟨e, he, hexp, rfl⟩, hb, hp⟩
    exact ⟨id, hid, e, he, hexp, hb, hp⟩

theorem get_results (c : LocalCache) (f t : Int) (now : Nat) :
    {r | ∃ visit, (c.get visit f t now).1 = r} =
      oneOf (.notFound (indexKey f t)) (c.servables f t now) := by
  have hservables : c.servables f t now =
      {b | ∃ id ∈ c.indexMembers f t, c.served? f t now id = some b} :=
    Set.ext fun _ => mem_servables
  simp only [get_fst, hservables]
  exact Visit.first_results _ _ _

end LocalCache

end Billboard
