import Billboard.Proofs.Cache.Veil
import Billboard.Proofs.Service.InMemory

/-! Banners that are not active are hidden from all but admins. -/

namespace Billboard

open Clock (Timestamp)
open Banner (Draft Filter)
open Service (ReadRequest)

def Banner.Draft.Veiled (d d' : Draft) : Prop :=
  d = d' ∨ (d.active = false ∧ d'.active = false ∧ (∃ e, d.check = .ok e) ∧ ∃ e, d'.check = .ok e)

inductive Operation.Veiled : Operation → Operation → Prop
  | refl (o : Operation) : Veiled o o
  | create {d d' : Draft} (h : d.Veiled d') : Veiled (.create d) (.create d')
  | update (id : Int) {d d' : Draft} (h : d.Veiled d') : Veiled (.update id d) (.update id d')

/-- Turns that differ at most in drafts that are not active. -/
inductive Turn.Veiled : Turn → Turn → Prop
  | perform {o o' : Operation} (h : o.Veiled o') (time : Timestamp) :
      Veiled (.perform o time) (.perform o' time)
  | wait (ms : Nat) : Veiled (.wait ms) (.wait ms)

namespace Banner

lemma Draft.active_of_check {d e : Draft} (h : d.check = .ok e) : e.active = d.active := by
  rw [check_eq_ok h]

lemma Draft.Veiled.check {d d' : Draft} (h : d.Veiled d') :
    (d = d' ∧ ∃ flaw, d.check = .error flaw) ∨ ∃ e e', d.check = .ok e ∧ d'.check = .ok e' ∧
      e.active = e'.active ∧ (e.active = true → e = e') := by
  rcases h with rfl | ⟨hd, hd', ⟨e, he⟩, e', he'⟩
  · cases hc : d.check with
    | error flaw => exact .inl ⟨rfl, flaw, rfl⟩
    | ok e => exact .inr ⟨e, e, rfl, rfl, rfl, fun _ => rfl⟩
  · have ha := (active_of_check he).trans hd
    have ha' := (active_of_check he').trans hd'
    exact .inr ⟨e, e', he, he', ha.trans ha'.symm, fun h => (Bool.false_ne_true (ha.symm.trans h)).elim⟩

lemma veiled_ofDraft (id : Int) {d d' : Draft} (ha : d.active = d'.active)
    (hs : d.active = true → d = d') (created updated : Timestamp) :
    (ofDraft id d created updated).Veiled (ofDraft id d' created updated) :=
  ⟨rfl, rfl, ha, fun h => by rw [hs h]⟩

lemma Veiled.revise {b b' : Banner} (h : b.Veiled b') {d d' : Draft} (ha : d.active = d'.active)
    (hs : d.active = true → d = d') (updated : Timestamp) :
    (b.revise d updated).Veiled (b'.revise d' updated) := by
  refine ⟨h.id, h.created, ha, fun hd => ?_⟩
  rw [hs hd, Banner.revise, Banner.revise, h.id, h.created]

lemma Filter.select_veiled {f : Filter} (hf : f.onlyActive = true) {bs bs' : List Banner}
    (h : List.Forall₂ Veiled bs bs') : f.select bs = f.select bs' := by
  have hfilter : bs.filter f.admits = bs'.filter f.admits := by
    induction h with
    | nil => rfl
    | @cons b b' bs bs' hb _ ih =>
      rw [List.filter_cons, List.filter_cons, ih]
      cases ha : b.active with
      | true => rw [hb.shown ha]
      | false =>
        have ha' := hb.active.symm.trans ha
        simp [Filter.admits, hf, ha, ha']
  rw [select, select, hfilter]

end Banner

namespace Catalog

structure Veiled (c c' : Catalog) : Prop where
  nextId : c.nextId = c'.nextId
  rows : List.Forall₂ Banner.Veiled c.rows c'.rows
  numbered : c.Numbered
  numbered' : c'.Numbered

namespace Veiled

variable {c c' : Catalog} {d d' : Draft}

lemma empty : Veiled {} {} := ⟨rfl, .nil, numbered_empty, numbered_empty⟩

lemma find? (h : c.Veiled c') (id : Int) : (c.find? id).isSome = (c'.find? id).isSome := by
  have hrows := h.rows
  unfold Catalog.find?
  revert hrows
  generalize c.rows = bs
  generalize c'.rows = bs'
  intro hrows
  induction hrows with
  | nil => rfl
  | @cons b b' bs bs' hb _ ih =>
    rw [List.find?_cons, List.find?_cons, hb.id]
    cases b'.id == id with
    | true => rfl
    | false => exact ih

lemma create (h : c.Veiled c') (ha : d.active = d'.active) (hs : d.active = true → d = d')
    (created updated : Timestamp) :
    (c.create d created updated).2.Veiled (c'.create d' created updated).2 where
  nextId := congrArg (· + 1) h.nextId
  rows := by
    simp only [Catalog.create, ← h.nextId]
    exact List.rel_append h.rows (.cons (Banner.veiled_ofDraft _ ha hs created updated) .nil)
  numbered := h.numbered.answer (.create d created updated)
  numbered' := h.numbered'.answer (.create d' created updated)

lemma update (h : c.Veiled c') (id : Int) (ha : d.active = d'.active)
    (hs : d.active = true → d = d') (updated : Timestamp) :
    (c.update id d updated).2.Veiled (c'.update id d' updated).2 := by
  have hn := h.numbered.answer (.update id d updated)
  have hn' := h.numbered'.answer (.update id d' updated)
  have hf := h.find? id
  simp only [answer] at hn hn'
  unfold Catalog.update at hn hn' ⊢
  cases hc : c.find? id <;> cases hc' : c'.find? id <;> rw [hc, hc'] at hf <;> try cases hf
  · exact h
  · simp only [hc] at hn
    simp only [hc'] at hn'
    refine ⟨h.nextId, List.rel_map (fun b b' hb => ?_) h.rows, hn, hn'⟩
    rw [hb.id]
    split_ifs
    · exact hb.revise ha hs updated
    · exact hb

lemma delete (h : c.Veiled c') (id : Int) :
    (c.delete id).1 = (c'.delete id).1 ∧ (c.delete id).2.Veiled (c'.delete id).2 := by
  have hn := h.numbered.answer (.delete id)
  have hn' := h.numbered'.answer (.delete id)
  have hf := h.find? id
  simp only [answer] at hn hn'
  unfold Catalog.delete at hn hn' ⊢
  cases hc : c.find? id <;> cases hc' : c'.find? id <;> rw [hc, hc'] at hf <;> try cases hf
  · exact ⟨rfl, h⟩
  · simp only [hc] at hn
    simp only [hc'] at hn'
    refine ⟨rfl, h.nextId, List.rel_filter (fun b b' hb => ?_) h.rows, hn, hn'⟩
    change (b.id != id) = true ↔ (b'.id != id) = true
    rw [hb.id]

lemma query_all (h : c.Veiled c') : List.Forall₂ Banner.Veiled (c.query {}) (c'.query {}) := by
  rw [h.numbered.query_all, h.numbered'.query_all]
  exact h.rows

end Veiled

end Catalog

namespace World

/-- Worlds that no one but an admin can tell apart. -/
structure Veiled (s s' : World Catalog LocalCache) : Prop where
  store : s.store.Veiled s'.store
  now : s.now = s'.now
  cache : LocalCache.Veiled s.now s.cache s'.cache

namespace Veiled

variable {s s' t t' : World Catalog LocalCache} {time : Timestamp}

lemma fresh (ttl start : Nat) : Veiled (World.fresh ttl start) (World.fresh ttl start) :=
  ⟨.empty, rfl, .empty start ttl⟩

lemma wait (h : Veiled s s') (ms : Nat) :
    Veiled { s with now := s.now + ms } { s' with now := s'.now + ms } :=
  ⟨h.store, congrArg (· + ms) h.now, h.cache.later (Nat.le_add_right _ _)⟩

lemma swept (h : Veiled s s') (ht : Swept s t) (ht' : Swept s' t') : Veiled t t' := by
  refine ⟨?_, ?_, ?_⟩
  · rw [ht.store, ht'.store]
    exact h.store
  · rw [ht.now, ht'.now, h.now]
  · rw [ht.now]
    exact h.cache.swept ht.cache (h.now ▸ ht'.cache)

lemma create (h : Veiled s s') {d d' : Draft} (hd : d.Veiled d') :
    Veiled (s.after time (.create d)) (s'.after time (.create d')) := by
  rcases hd.check with ⟨rfl, flaw, hc⟩ | ⟨e, e', hc, hc', ha, hs⟩
  · simp only [after, hc]
    exact h
  · simp only [after, hc, hc', ← h.now, ← h.store.nextId]
    exact ⟨h.store.create ha hs _ _, rfl, h.cache.put (Banner.veiled_ofDraft _ ha hs _ _)⟩

lemma update (h : Veiled s s') (id : Int) {d d' : Draft} (hd : d.Veiled d') :
    Veiled (s.after time (.update id d)) (s'.after time (.update id d')) := by
  rcases hd.check with ⟨rfl, flaw, hc⟩ | ⟨e, e', hc, hc', ha, hs⟩
  · simp only [after, hc]
    exact h
  · simp only [after, hc, hc']
    exact ⟨h.store.update id ha hs _, h.now, h.cache⟩

lemma delete (h : Veiled s s') (id : Int) :
    Veiled (s.after time (.delete id)) (s'.after time (.delete id)) := by
  obtain ⟨ha, hstore⟩ := h.store.delete id
  simp only [after]
  cases hc : s.store.delete id with
  | mk a c =>
    cases hc' : s'.store.delete id with
    | mk a' c' =>
      rw [hc, hc'] at ha hstore
      simp only at ha hstore
      subst ha
      cases a with
      | error cause => exact ⟨hstore, h.now, h.cache⟩
      | ok _ =>
        simp only [← h.now]
        exact ⟨hstore, rfl, h.cache.delete id⟩

lemma after (h : Veiled s s') {o o' : Operation} (ho : o.Veiled o') :
    Veiled (s.after time o) (s'.after time o') := by
  cases ho with
  | create hd => exact h.create hd
  | update id hd => exact h.update id hd
  | refl =>
    cases o with
    | create d => exact h.create (.inl rfl)
    | update id d => exact h.update id (.inl rfl)
    | delete id => exact h.delete id
    | refresh =>
      simp only [World.after, ← h.now]
      exact ⟨h.store, rfl, h.cache.putAll h.store.query_all⟩
    | list r => exact h
    | pickOne f u isAdmin lastRevision => exact h

lemma query_eq (h : Veiled s s') {r : ReadRequest} (hr : r.isAdmin = false) :
    s.store.query r.toFilter = s'.store.query r.toFilter :=
  Filter.select_veiled (by simp [ReadRequest.toFilter, hr]) h.store.rows

lemma results_list_eq (h : Veiled s s') {r : ReadRequest} (hr : r.isAdmin = false) :
    results Catalog.model LocalCache.overTime time s (Service.list r) =
      results Catalog.model LocalCache.overTime time s' (Service.list r) := by
  cases hk : r.cacheKey? with
  | none =>
    have hquery : ∀ s : World Catalog LocalCache,
        ((Catalog.model.answer (.query r.toFilter) s.store).1.mapError ServiceError.ofStore) =
          .ok (s.store.query r.toFilter) := fun _ => rfl
    rw [results_list_of_none hk, results_list_of_none hk, hquery, hquery, h.query_eq hr]
  | some key =>
    ext x
    rw [mem_results_list hk, mem_results_list hk, h.query_eq hr, h.cache.servables_eq, h.now]

lemma results_pickOne_eq (h : Veiled s s') (f u : Int) (lastRevision : Bool) :
    results Catalog.model LocalCache.overTime time s (Service.pickOne f u false lastRevision) =
      results Catalog.model LocalCache.overTime time s'
        (Service.pickOne f u false lastRevision) := by
  ext r
  rw [mem_results_pickOne, mem_results_pickOne, h.results_list_eq rfl]

end Veiled

end World

namespace Session

open World

variable {ttl start : Nat} {turns turns' : List Turn} {s s' : World Catalog LocalCache}

lemma veiled (h : Session Catalog.model LocalCache.overTime (fresh ttl start) turns s)
    (h' : Session Catalog.model LocalCache.overTime (fresh ttl start) turns' s')
    (ht : List.Forall₂ Turn.Veiled turns turns') : World.Veiled s s' := by
  -- the sessions go turn by turn together; how each of them sweeps its cache does not matter
  induction ht generalizing s s' with
  | nil =>
    cases h
    cases h'
    exact .fresh ttl start
  | cons hturn _ ih =>
    cases hturn with
    | wait ms =>
      cases h with
      | wait h _ =>
        cases h' with
        | wait h' _ => exact (ih h h').wait ms
    | perform ho time =>
      cases h with
      | perform h hr =>
        cases h' with
        | perform h' hr' =>
          exact ((ih h h').after ho).swept (Service.mem_outcomes_iff_performs.mp hr).after
            (Service.mem_outcomes_iff_performs.mp hr').after

/-- When the turns of two sessions differ only in drafts that are not active, every read that is not
by an admin can come to the same results after them. -/
theorem inactive_unseen
    (h : Session Catalog.model LocalCache.overTime (fresh ttl start) turns s)
    (h' : Session Catalog.model LocalCache.overTime (fresh ttl start) turns' s')
    (ht : List.Forall₂ Turn.Veiled turns turns') (time : Timestamp) :
    (∀ r : ReadRequest, r.isAdmin = false →
      results Catalog.model LocalCache.overTime time s (Service.list r) =
        results Catalog.model LocalCache.overTime time s' (Service.list r)) ∧
    ∀ f u lastRevision,
      results Catalog.model LocalCache.overTime time s (Service.pickOne f u false lastRevision) =
        results Catalog.model LocalCache.overTime time s'
          (Service.pickOne f u false lastRevision) := by
  have hs := h.veiled h' ht
  exact ⟨fun r hr => hs.results_list_eq hr, hs.results_pickOne_eq⟩

theorem inactive_unseen_create :
    let d : Draft := ⟨1, [2], false, []⟩
    let d' : Draft := ⟨3, [4], false, [("title", .str "soon")]⟩
    let turns := [Turn.perform (.create d) ⟨0, 0⟩]
    let turns' := [Turn.perform (.create d') ⟨0, 0⟩]
    ∃ s s', Session Catalog.model LocalCache.overTime (fresh 10 0) turns s ∧
      Session Catalog.model LocalCache.overTime (fresh 10 0) turns' s' ∧
      List.Forall₂ Turn.Veiled turns turns' ∧ s.store ≠ s'.store ∧
      (∀ r : ReadRequest, r.isAdmin = false →
        results Catalog.model LocalCache.overTime ⟨0, 0⟩ s (Service.list r) =
          results Catalog.model LocalCache.overTime ⟨0, 0⟩ s' (Service.list r)) := by
  intro d d' turns turns'
  have hd : d.check = .ok d := by simp [d, Draft.check, Banner.normalTags, Banner.dropRepeats]
  have hd' : d'.check = .ok d' := by simp [d', Draft.check, Banner.normalTags, Banner.dropRepeats]
  have h : Session Catalog.model LocalCache.overTime (fresh 10 0) turns _ := .perform .nil
    (Service.mem_outcomes_iff_performs.mpr (.create hd rfl ⟨.first 0, rfl⟩))
  have h' : Session Catalog.model LocalCache.overTime (fresh 10 0) turns' _ := .perform .nil
    (Service.mem_outcomes_iff_performs.mpr (.create hd' rfl ⟨.first 0, rfl⟩))
  have ht : List.Forall₂ Turn.Veiled turns turns' :=
    .cons (.perform (.create (.inr ⟨rfl, rfl, ⟨d, hd⟩, d', hd'⟩)) ⟨0, 0⟩) .nil
  exact ⟨_, _, h, h', ht, by decide, (inactive_unseen h h' ht ⟨0, 0⟩).1⟩

end Session

end Billboard
