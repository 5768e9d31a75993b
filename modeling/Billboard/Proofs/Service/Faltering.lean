import Billboard.Proofs.Banner.Identity
import Billboard.Proofs.Cache.Local
import Billboard.Proofs.Service.Independence

/-! A catalog and a cache any of whose calls may fail and then change nothing. -/

namespace Billboard

open Banner (Draft normalTags)
open Clock (Timestamp)

def Catalog.faltering (failure : Option StoreError) : StoreModel Catalog where
  answer c s := failure.elim (s.answer c) fun e => (.error e, s)
  query_snd _ _ := by cases failure <;> rfl

def LocalCache.faltering : CacheOverTime LocalCache where
  answers _ c s := {p | (∃ visit now, s.answer visit now c = p) ∨ ∃ e, p = (.error e, s)}
  responds _ _ _ := ⟨_, .inr ⟨.backend "", rfl⟩⟩

namespace Catalog

variable {failure : Option StoreError} {s t : Catalog}

lemma faltering_create {d : Draft} {created updated : Timestamp} {a : Except StoreError Int}
    (h : (faltering failure).answer (.create d created updated) s = (a, t)) :
    ((∃ e, a = .error e) ∧ t = s) ∨
      (a = .ok s.nextId ∧ t = (s.create d created updated).2) := by
  cases failure with
  | none =>
    cases h
    exact .inr ⟨rfl, rfl⟩
  | some e =>
    cases h
    exact .inl ⟨⟨e, rfl⟩, rfl⟩

lemma faltering_update {id : Int} {d : Draft} {updated : Timestamp} {a : Except StoreError Unit}
    (h : (faltering failure).answer (.update id d updated) s = (a, t)) :
    ((∃ e, a = .error e) ∧ t = s) ∨ (a = .ok () ∧
      t = { s with rows := s.rows.map fun b => if b.id = id then b.revise d updated else b }) := by
  cases failure with
  | none =>
    simp only [faltering, Option.elim_none, answer, update] at h
    split at h
    · cases h
      exact .inl ⟨⟨_, rfl⟩, rfl⟩
    · cases h
      exact .inr ⟨rfl, rfl⟩
  | some e =>
    cases h
    exact .inl ⟨⟨e, rfl⟩, rfl⟩

lemma faltering_delete {id : Int} {a : Except StoreError Unit}
    (h : (faltering failure).answer (.delete id) s = (a, t)) :
    ((∃ e, a = .error e) ∧ t = s) ∨
      (a = .ok () ∧ t = { s with rows := s.rows.filter (·.id != id) }) := by
  cases failure with
  | none =>
    simp only [faltering, Option.elim_none, answer, delete] at h
    split at h
    · cases h
      exact .inl ⟨⟨_, rfl⟩, rfl⟩
    · cases h
      exact .inr ⟨rfl, rfl⟩
  | some e =>
    cases h
    exact .inl ⟨⟨e, rfl⟩, rfl⟩

lemma faltering_query {f : Banner.Filter} {bs : List Banner}
    (h : ((faltering failure).answer (.query f) s).1 = .ok bs) : bs = s.query f := by
  cases failure with
  | none => exact (Except.ok.inj h).symm
  | some e => cases h

end Catalog

namespace LocalCache

def KeepsOnly (kind : Set Banner) (c : LocalCache) : Prop :=
  ∀ id x, c.kept? id = some x → ∃ b ∈ kind, x.payload = b.encode

variable {kind : Set Banner} {c c' : LocalCache} {now : Nat}

lemma KeepsOnly.mono {kind' : Set Banner} (h : c.KeepsOnly kind) (hk : kind ⊆ kind') :
    c.KeepsOnly kind' := by
  intro id x hx
  obtain ⟨b, hb, hpayload⟩ := h id x hx
  exact ⟨b, hk hb, hpayload⟩

lemma KeepsOnly.swept (h : c.KeepsOnly kind) (hs : Swept now c c') : c'.KeepsOnly kind := by
  intro id x hx
  rcases hs.kept id with he | ⟨he, -⟩
  · exact h id x (he ▸ hx)
  · cases he.symm.trans hx

lemma KeepsOnly.put (h : c.KeepsOnly kind) {b : Banner} (hb : b ∈ kind) (now : Nat) :
    (c.put b now).KeepsOnly kind := by
  intro id x hx
  rw [kept?_put] at hx
  split_ifs at hx
  · cases hx
    exact ⟨b, hb, rfl⟩
  · exact h id x hx

lemma KeepsOnly.delete (h : c.KeepsOnly kind) (id : Int) (now : Nat) :
    (c.delete id now).2.KeepsOnly kind := by
  intro j x hx
  rw [kept?_delete] at hx
  split_ifs at hx
  exact h j x hx

lemma KeepsOnly.answer (h : c.KeepsOnly kind) {q : CacheCall} {p : q.Answer × LocalCache}
    (hp : p ∈ faltering.answers now q c) (hq : ∀ b, q = .put b → b ∈ kind) :
    p.2.KeepsOnly kind := by
  rcases hp with ⟨visit, later, rfl⟩ | ⟨e, rfl⟩
  · cases q with
    | put b => exact h.put (hq b rfl) later
    | get f u => exact h.swept (c.swept_get visit f u later)
    | delete id => exact h.delete id later
    | ping => exact h
  · exact h

lemma KeepsOnly.get (h : c.KeepsOnly kind) {f u : Int} {d : Banner}
    (hp : (.ok d, c') ∈ faltering.answers now (.get f u) c) :
    ∃ b ∈ kind, Banner.decode? b.encode = some d := by
  rcases hp with ⟨visit, later, he⟩ | ⟨e, he⟩
  · have hmem : (.ok d : Except CacheError Banner) ∈
        {r | ∃ visit, (c.get visit f u later).1 = r} := ⟨visit, congrArg Prod.fst he⟩
    rw [get_results] at hmem
    rcases hmem with ⟨d', ⟨id, -, x, hx, -, hd, -⟩, hr⟩ | ⟨-, hr⟩
    · cases hr
      obtain ⟨b, hb, hpayload⟩ := h id x hx
      exact ⟨b, hb, hpayload ▸ hd⟩
    · cases hr
  · cases he

end LocalCache

namespace Operation

def created? : (o : Operation) → o.Result → Option Banner
  | .create _, .ok b => some b
  | _, _ => none

def Returns (b : Banner) : (o : Operation) → o.Result → Prop
  | .create _, .ok b' => b' = b
  | .list _, .ok bs => b ∈ bs
  | .pickOne .., .ok b' => b' = b
  | _, _ => False

def Refused : (o : Operation) → o.Result → Prop
  | .create _, .error _ => True
  | .update .., .error _ => True
  | .delete _, .error _ => True
  | _, _ => False

def effect (time : Timestamp) : (o : Operation) → o.Result → Catalog → Catalog
  | .create _, .ok b, c => ⟨c.rows ++ [b], b.id + 1⟩
  | .update id d, .ok (), c =>
    { c with rows := c.rows.map fun b =>
        if b.id = id then
          { b with feature := d.feature, tags := normalTags d.tags, active := d.active,
                   content := d.content, updatedAt := time.toMicros }
        else b }
  | .delete id, .ok (), c => { c with rows := c.rows.filter fun b => b.id ≠ id }
  | _, _, c => c

end Operation

namespace Service

open World

lemma keepsOnly_of_putAll {store : StoreModel Catalog} {kind : Set Banner}
    {time : Timestamp} {s t : World Catalog LocalCache} {bs : List Banner}
    {a : Except RefreshError Unit} (hs : s.cache.KeepsOnly kind) (hbs : ∀ b ∈ bs, b ∈ kind)
    (h : (a, t) ∈ (putAll bs).outcomes (answers store LocalCache.faltering time) s) :
    t.cache.KeepsOnly kind := by
  induction bs generalizing s with
  | nil =>
    cases h
    exact hs
  | cons b bs ih =>
    obtain ⟨hb, hbs⟩ := List.forall_mem_cons.mp hbs
    rw [putAll, mem_outcomes_cache] at h
    obtain ⟨⟨r, c⟩, hp, h⟩ := h
    have hc : c.KeepsOnly kind := hs.answer hp fun b' he => by
      cases he
      exact hb
    cases r with
    | error e =>
      cases h
      exact hc
    | ok u => exact ih hc hbs h

end Service

namespace Performs

variable {failure : Option StoreError} {time : Timestamp} {o : Operation} {r : o.Result}

section

variable {κ : Type} {cache : CacheOverTime κ} {s t : World Catalog κ}

lemma of_created {b : Banner} (h : Performs (Catalog.faltering failure) cache time s o r t)
    (hb : o.created? r = some b) : b.id = s.store.nextId ∧
      Banner.WellPlaced b.feature b.tags ∧ ∃ d, o = .create d ∧
        b = .ofDraft b.id { d with tags := normalTags d.tags } time.toMicros time.toMicros := by
  cases h with
  | create hd ha hp =>
    rcases Catalog.faltering_create ha with ⟨⟨e, he⟩, -⟩ | ⟨hid, -⟩
    · cases he
    · cases hid
      cases hb
      refine ⟨rfl, Draft.wellPlaced_of_check hd, _, rfl, ?_⟩
      rw [Draft.check_eq_ok hd]
      rfl
  | _ => cases hb

lemma store_eq_effect (h : Performs (Catalog.faltering failure) cache time s o r t) :
    t.store = o.effect time r s.store := by
  induction h with
  | createFlawed h => rfl
  | createRefused h ha =>
    rcases Catalog.faltering_create ha with ⟨-, rfl⟩ | ⟨he, -⟩
    · rfl
    · cases he
  | create h ha hp =>
    rcases Catalog.faltering_create ha with ⟨⟨e, he⟩, -⟩ | ⟨hid, rfl⟩
    · cases he
    · cases hid
      rfl
  | updateFlawed h => rfl
  | @update id d e h =>
    rcases ha : (Catalog.faltering failure).answer (.update id e time.toMicros) s.store with ⟨a, u⟩
    rcases Catalog.faltering_update ha with ⟨⟨cause, rfl⟩, rfl⟩ | ⟨rfl, rfl⟩
    · rfl
    · rw [Draft.check_eq_ok h]
      rfl
  | deleteRefused ha =>
    rcases Catalog.faltering_delete ha with ⟨-, rfl⟩ | ⟨he, -⟩
    · rfl
    · cases he
  | delete ha hp =>
    rcases Catalog.faltering_delete ha with ⟨⟨e, he⟩, -⟩ | ⟨-, rfl⟩
    · cases he
    · simp only [Operation.effect, Catalog.mk.injEq, and_true]
      exact List.filter_congr fun b _ => Bool.eq_iff_iff.mpr (by simp)
  | refreshRefused ha => rfl
  | @refresh bs a t ha ht =>
    rw [store_of_putAll ht]
    cases a <;> rfl
  | hit hk hp => rfl
  | @miss r f u e c hk hp =>
    cases ((Catalog.faltering failure).answer (.query r.toFilter) s.store).1 <;> rfl
  | @plain r hk =>
    cases ((Catalog.faltering failure).answer (.query r.toFilter) s.store).1 <;> rfl
  | @pickOne f u isAdmin lastRevision x t r h hr ih =>
    rw [ih]
    cases x <;> cases r <;> rfl

lemma of_updated {id : Int} {d : Draft} {r : Except ServiceError Unit}
    (h : Performs (Catalog.faltering failure) cache time s (.update id d) r t) (hr : r = .ok ()) :
    Banner.WellPlaced d.feature (normalTags d.tags) := by
  cases h with
  | updateFlawed h => cases hr
  | update h =>
    have hplaced := Draft.wellPlaced_of_check h
    rwa [Draft.check_eq_ok h] at hplaced

lemma mem_rows (h : Performs (Catalog.faltering failure) cache time s o r t) {b : Banner}
    (hb : b ∈ t.store.rows) : b ∈ s.store.rows ∨ o.created? r = some b ∨
      ∃ old ∈ s.store.rows, b.id = old.id ∧ b.createdAt = old.createdAt ∧
        b.updatedAt = time.toMicros ∧ Banner.WellPlaced b.feature b.tags := by
  rw [h.store_eq_effect] at hb
  cases o with
  | create d =>
    cases r with
    | error e => exact .inl hb
    | ok b' =>
      rcases List.mem_append.mp hb with hb | hb
      · exact .inl hb
      · exact .inr (.inl (congrArg some (List.mem_singleton.mp hb).symm))
  | update id d =>
    cases r with
    | error e => exact .inl hb
    | ok u =>
      obtain ⟨old, ho, rfl⟩ := List.mem_map.mp hb
      split_ifs
      · exact .inr (.inr ⟨old, ho, rfl, rfl, rfl, h.of_updated rfl⟩)
      · exact .inl ho
  | delete id =>
    cases r with
    | error e => exact .inl hb
    | ok u => exact .inl (List.mem_filter.mp hb).1
  | refresh | list q | pickOne f u isAdmin lastRevision => exact .inl hb

lemma nextId_eq (h : Performs (Catalog.faltering failure) cache time s o r t) :
    t.store.nextId = s.store.nextId + (o.created? r).toList.length := by
  have hnew := fun b => h.of_created (b := b)
  rw [h.store_eq_effect]
  cases o with
  | create d =>
    cases r with
    | error e => exact (Int.add_zero _).symm
    | ok b => exact congrArg (· + 1) (hnew b rfl).1
  | update id d | delete id => cases r <;> exact (Int.add_zero _).symm
  | refresh | list q | pickOne f u isAdmin lastRevision => exact (Int.add_zero _).symm

lemma eq_of_refused (h : Performs (Catalog.faltering failure) cache time s o r t)
    (hr : o.Refused r) : t = s := by
  cases h with
  | createFlawed h => rfl
  | createRefused h ha =>
    rcases Catalog.faltering_create ha with ⟨-, rfl⟩ | ⟨he, -⟩
    · rfl
    · cases he
  | updateFlawed h => rfl
  | @update id d e h =>
    rcases ha : (Catalog.faltering failure).answer (.update id e time.toMicros) s.store with ⟨a, u⟩
    rw [ha] at hr
    rcases Catalog.faltering_update ha with ⟨-, rfl⟩ | ⟨rfl, -⟩
    · rfl
    · exact hr.elim
  | deleteRefused ha =>
    rcases Catalog.faltering_delete ha with ⟨-, rfl⟩ | ⟨he, -⟩
    · rfl
    · cases he
  | _ => cases hr

end

variable {kind : Set Banner} {s t : World Catalog LocalCache}

lemma keepsOnly (h : Performs (Catalog.faltering failure) LocalCache.faltering time s o r t)
    (hs : s.cache.KeepsOnly kind) (hrows : ∀ b ∈ s.store.rows, b ∈ kind)
    (hnew : ∀ b, o.created? r = some b → b ∈ kind) : t.cache.KeepsOnly kind := by
  -- by induction only for the pick of one banner, which performs a listing
  induction h with
  | create h ha hp =>
    refine hs.answer hp fun b hb => ?_
    cases hb
    exact hnew _ rfl
  | delete ha hp => exact hs.answer hp nofun
  | refresh ha ht =>
    refine Service.keepsOnly_of_putAll hs (fun b hb => ?_) ht
    rw [Catalog.faltering_query ha] at hb
    exact hrows b (Catalog.mem_query hb)
  | hit hk hp => exact hs.answer hp nofun
  | miss hk hp => exact hs.answer hp nofun
  | pickOne h hr ih => exact ih nofun
  | _ => exact hs

lemma mem_rows_of_listed {q : Service.ReadRequest} {b : Banner} (hb : (Operation.list q).Returns b
      (((Catalog.faltering failure).answer (.query q.toFilter) s.store).1.mapError .ofStore)) :
    b ∈ s.store.rows := by
  cases ha : ((Catalog.faltering failure).answer (.query q.toFilter) s.store).1 with
  | error e =>
    rw [ha] at hb
    exact hb.elim
  | ok rows =>
    rw [ha] at hb
    obtain rfl := Catalog.faltering_query ha
    exact Catalog.mem_query hb

lemma returned (h : Performs (Catalog.faltering failure) LocalCache.faltering time s o r t)
    (hs : s.cache.KeepsOnly kind) {b : Banner} (hb : o.Returns b r) :
    o.created? r = some b ∨ b ∈ s.store.rows ∨
      (¬ o.Uncached ∧ ∃ d ∈ kind, Banner.decode? d.encode = some b) := by
  induction h with
  | create h ha hp => exact .inl (congrArg some hb)
  | hit hk hp =>
    cases List.mem_singleton.mp hb
    exact .inr (.inr ⟨fun hu => Option.some_ne_none _ (hk.symm.trans hu), hs.get hp⟩)
  | miss hk hp => exact .inr (.inl (mem_rows_of_listed hb))
  | plain hk => exact .inr (.inl (mem_rows_of_listed hb))
  | @pickOne f u isAdmin lastRevision x t r h hr ih =>
    cases r with
    | error e => exact hb.elim
    | ok b' =>
      cases hb
      cases x with
      | error e => cases hr
      | ok bs =>
        rcases hr with ⟨a, ha, he⟩ | ⟨-, he⟩
        · cases he
          refine (ih ha).imp nofun (Or.imp_right fun ⟨hcached, hd⟩ => ⟨fun hu => hcached ?_, hd⟩)
          exact if_pos hu
        · cases he
  | _ => exact hb.elim

end Performs

end Billboard
