import Billboard.Proofs.Banner.Identity
import Billboard.Proofs.Cache.Alike
import Billboard.Proofs.Cache.Refill
import Mathlib.Data.List.Forall2

/-! Caches that differ only in banners that are not active. -/

namespace Billboard

structure Banner.Veiled (b b' : Banner) : Prop where
  id : b.id = b'.id
  created : b.createdAt = b'.createdAt
  active : b.active = b'.active
  shown : b.active = true → b = b'

namespace Banner.Veiled

variable {b b' : Banner}

lemma symm (h : b.Veiled b') : b'.Veiled b :=
  ⟨h.id.symm, h.created.symm, h.active.symm, fun ha => (h.shown (h.active.trans ha)).symm⟩

end Banner.Veiled

namespace LocalCache

/-- The payload is that of a banner of the id, which is listed under all pairs of the banner. -/
structure Backs (c : LocalCache) (id : Int) (b : Banner) (payload : ByteArray) : Prop where
  written : payload = b.encode
  same_id : b.id = id
  listed : ∀ f u, b.serves f u = true → id ∈ c.indexMembers f u

variable {now : Nat} {c c' d d' : LocalCache} {id : Int} {b b' : Banner} {p p' : ByteArray}

lemma Backs.mono (h : c.Backs id b p)
    (hi : ∀ f u, id ∈ c.indexMembers f u → id ∈ d.indexMembers f u) : d.Backs id b p :=
  ⟨h.written, h.same_id, fun f u hs => hi f u (h.listed f u hs)⟩

lemma backs_put (c : LocalCache) (b : Banner) (now : Nat) : (c.put b now).Backs b.id b b.encode :=
  ⟨rfl, rfl, fun _ _ hs => mem_indexMembers_put.mpr (.inr ⟨hs, rfl⟩)⟩

lemma Backs.of_servable (h : c.Backs id b p) {f u : Int} {a : Banner}
    (hs : Banner.servable? p f u = some a) : b.active = true ∧ id ∈ c.indexMembers f u := by
  simp only [Banner.servable?, Option.filter_eq_some_iff, Bool.and_eq_true] at hs
  obtain ⟨hdecode, hactive, hserves⟩ := hs
  rw [h.written] at hdecode
  have hhead := Banner.head_of_decode hdecode
  simp only [Banner.head, Prod.mk.injEq] at hhead
  obtain ⟨-, hf, ht, ha⟩ := hhead
  refine ⟨ha ▸ hactive, h.listed f u ?_⟩
  rw [Banner.serves, hf, ht] at hserves
  exact hserves

def Veils (c c' : LocalCache) (id : Int) : Option ByteArray → Option ByteArray → Prop :=
  Option.Rel fun p p' => ∃ b b', b.Veiled b' ∧ c.Backs id b p ∧ c'.Backs id b' p'

lemma Veils.mono {x x' : Option ByteArray} (h : Veils c c' id x x')
    (hi : ∀ f u, id ∈ c.indexMembers f u → id ∈ d.indexMembers f u)
    (hi' : ∀ f u, id ∈ c'.indexMembers f u → id ∈ d'.indexMembers f u) : Veils d d' id x x' := by
  cases h with
  | none => exact .none
  | some hp =>
    obtain ⟨b, b', hb, hp, hp'⟩ := hp
    exact .some ⟨b, b', hb, hp.mono hi, hp'.mono hi'⟩

lemma Veils.symm {x x' : Option ByteArray} (h : Veils c c' id x x') : Veils c' c id x' x := by
  cases h with
  | none => exact .none
  | some hp =>
    obtain ⟨b, b', hb, hp, hp'⟩ := hp
    exact .some ⟨b', b, hb.symm, hp', hp⟩

structure Veiled (now : Nat) (c c' : LocalCache) : Prop where
  ttl : c.ttl = c'.ttl
  live : ∀ id later, now ≤ later → Veils c c' id (c.live? id later) (c'.live? id later)

namespace Veiled

lemma empty (now ttl : Nat) : Veiled now { ttl := ttl } { ttl := ttl } :=
  ⟨rfl, fun _ _ _ => .none⟩

lemma symm (h : Veiled now c c') : Veiled now c' c :=
  ⟨h.ttl.symm, fun id later hl => (h.live id later hl).symm⟩

lemma later (h : Veiled now c c') {later : Nat} (hl : now ≤ later) : Veiled later c c' :=
  ⟨h.ttl, fun id t ht => h.live id t (hl.trans ht)⟩

lemma put (h : Veiled now c c') (hb : b.Veiled b') : Veiled now (c.put b now) (c'.put b' now) := by
  refine ⟨by rw [put_ttl, put_ttl, h.ttl], fun id later hl => ?_⟩
  rw [live?_put, live?_put, ← hb.id, ← h.ttl]
  split_ifs with hid hexp
  · exact .none
  · subst hid
    exact .some ⟨b, b', hb, backs_put c b now, hb.id ▸ backs_put c' b' now⟩
  · exact (h.live id later hl).mono (fun _ _ hi => mem_indexMembers_put.mpr (.inl hi))
      fun _ _ hi => mem_indexMembers_put.mpr (.inl hi)

lemma putAll (h : Veiled now c c') {bs bs' : List Banner} (hbs : List.Forall₂ Banner.Veiled bs bs') :
    Veiled now (c.putAll bs now) (c'.putAll bs' now) := by
  induction hbs generalizing c c' with
  | nil => exact h
  | cons hb _ ih => exact ih (h.put hb)

lemma delete (h : Veiled now c c') (id : Int) :
    Veiled now (c.delete id now).2 (c'.delete id now).2 := by
  refine ⟨by rw [delete_ttl, delete_ttl, h.ttl], fun j later hl => ?_⟩
  have hindex : ∀ (c : LocalCache) f u,
      j ∈ c.indexMembers f u → j ∈ (c.delete id now).2.indexMembers f u := by
    intro c f u hj
    rwa [indexMembers, members, delete_index]
  rw [live?_delete, live?_delete]
  split_ifs
  · exact .none
  · exact (h.live j later hl).mono (hindex c) (hindex c')

lemma swept (h : Veiled now c c') (hd : Swept now c d) (hd' : Swept now c' d') :
    Veiled now d d' := by
  refine ⟨by rw [hd.ttl, hd'.ttl, h.ttl], fun id later hl => ?_⟩
  have hindex : ∀ {c d : LocalCache}, Swept now c d → ∀ f u,
      id ∈ c.indexMembers f u → id ∈ d.indexMembers f u := by
    intro c d hd f u hid
    rwa [indexMembers, members, hd.index]
  rw [hd.live? hl, hd'.live? hl]
  exact (h.live id later hl).mono (hindex hd) (hindex hd')

lemma servables_subset (h : Veiled now c c') (f u : Int) :
    c.servables f u now ⊆ c'.servables f u now := by
  intro a ha
  obtain ⟨id, -, hs⟩ := mem_servables.mp ha
  obtain ⟨p, hlive, hservable⟩ := Option.bind_eq_some_iff.mp hs
  have hp := h.live id now le_rfl
  rw [hlive] at hp
  cases hlive' : c'.live? id now with
  | none =>
    rw [hlive'] at hp
    cases hp
  | some p' =>
    rw [hlive'] at hp
    cases hp with
    | some hp =>
      obtain ⟨b, b', hb, hp, hp'⟩ := hp
      -- only what is active is served, and there the two payloads are one
      obtain ⟨hactive, -⟩ := hp.of_servable hservable
      have he : p = p' := by rw [hp.written, hp'.written, hb.shown hactive]
      subst he
      refine mem_servables.mpr ⟨id, (hp'.of_servable hservable).2, ?_⟩
      rw [served?, hlive', Option.bind_some, hservable]

theorem servables_eq (h : Veiled now c c') (f u : Int) :
    c.servables f u now = c'.servables f u now :=
  (h.servables_subset f u).antisymm (h.symm.servables_subset f u)

end Veiled

end LocalCache

end Billboard
