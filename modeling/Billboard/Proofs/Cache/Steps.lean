import Billboard.Proofs.Cache.Local
import Billboard.Proofs.Dialogue

/-! The calls of the cache taken apart into steps, each of which is carried out at once. -/

namespace Billboard

open Banner (payloadKey indexKey)

inductive CacheStep where
  | keep (b : Banner)
  | enlist (id : Int) (key : String)
  | members (key : String)
  | read (id : Int)
  | evict (id : Int)
  | remove (id : Int)

abbrev CacheStep.Answer : CacheStep → Type
  | .members _ => List Int
  | .read _ => Option ByteArray
  | .remove _ => Bool
  | .keep _ => Unit
  | .enlist .. => Unit
  | .evict _ => Unit

def LocalCache.step (now : Nat) : (q : CacheStep) → LocalCache → q.Answer × LocalCache
  | .keep b, c => ((), c.keep b.id b.encode now)
  | .enlist id key, c => ((), c.enlist id key)
  | .members key, c => (c.members key, c)
  | .read id, c => (c.live? id now, c)
  | .evict id, c => ((), c.evict id now)
  | .remove id, c => c.remove id now

/-- The steps that a call may make. -/
def CacheCall.Makes : CacheCall → CacheStep → Prop
  | .put b, q => q = .keep b ∨ ∃ key, q = .enlist b.id key
  | .get f t, q => q = .members (indexKey f t) ∨ ∃ id, q = .read id ∨ q = .evict id
  | .delete id, q => q = .remove id
  | .ping, _ => False

abbrev Stepwise (α : Type) : Type := Dialogue CacheStep.Answer α

namespace Stepwise

def make (q : CacheStep) : Stepwise q.Answer := Dialogue.question q

def enlistAll (id : Int) : List String → Stepwise Unit
  | [] => return ()
  | key :: keys => do
    make (.enlist id key)
    enlistAll id keys

def put (b : Banner) : Stepwise (Except CacheError Unit) := do
  make (.keep b)
  enlistAll b.id b.indexKeys
  return .ok ()

def firstServable (f t : Int) : List Int → Stepwise (Option Banner)
  | [] => return none
  | id :: rest => do
    match ← make (.read id) with
    | none =>
      make (.evict id)
      firstServable f t rest
    | some payload =>
      match Banner.servable? payload f t with
      | some b => return some b
      | none => firstServable f t rest

def get (visit : Visit) (f t : Int) : Stepwise (Except CacheError Banner) := do
  let ids ← make (.members (indexKey f t))
  match ← firstServable f t (visit.order ids) with
  | some b => return .ok b
  | none => return .error (.notFound (indexKey f t))

def delete (id : Int) : Stepwise (Except CacheError Unit) := do
  return if ← make (.remove id) then .ok () else .error (.notFound (payloadKey id))

def call (visit : Visit) : (c : CacheCall) → Stepwise c.Answer
  | .put b => put b
  | .get f t => get visit f t
  | .delete id => delete id
  | .ping => return .ok ()

variable {now : Nat} {c : LocalCache}

lemma run_enlistAll (id : Int) (keys : List String) :
    (enlistAll id keys).run (LocalCache.step now) c =
      ((), keys.foldl (fun c key => c.enlist id key) c) := by
  induction keys generalizing c with
  | nil => rfl
  | cons key keys ih => exact ih

lemma run_firstServable (f t : Int) (ids : List Int) :
    (firstServable f t ids).run (LocalCache.step now) c =
      LocalCache.firstServable f t now ids c := by
  induction ids generalizing c with
  | nil => rfl
  | cons id ids ih =>
    rw [firstServable, LocalCache.firstServable, make, Dialogue.run_bind]
    simp only [Dialogue.question, Dialogue.run, LocalCache.step]
    cases c.live? id now with
    | none => exact ih
    | some payload =>
      cases hb : Banner.servable? payload f t with
      | none =>
        simp only [hb]
        exact ih
      | some b =>
        simp only [hb]
        rfl

theorem run_call (visit : Visit) (q : CacheCall) :
    (call visit q).run (LocalCache.step now) c = c.answer visit now q := by
  cases q with
  | put b =>
    rw [call, put, make, Dialogue.run_bind, Dialogue.run_bind, run_enlistAll]
    rfl
  | get f t =>
    rw [call, get, make, Dialogue.run_bind, Dialogue.run_bind, run_firstServable]
    simp only [Dialogue.question, Dialogue.run, LocalCache.step, LocalCache.answer, LocalCache.get,
      LocalCache.indexMembers]
    rcases LocalCache.firstServable f t now (visit.order (c.members (indexKey f t))) c with
      ⟨_ | b, d⟩
    · rfl
    · rfl
  | delete id =>
    rw [call, delete, make, Dialogue.run_bind]
    simp only [Dialogue.question, Dialogue.run, LocalCache.step, LocalCache.answer,
      LocalCache.delete]
    rcases c.remove id now with ⟨_ | _, d⟩
    · rfl
    · rfl
  | ping => rfl

def OnlyMakes {α : Type} (p : CacheStep → Prop) (d : Stepwise α) : Prop :=
  d.Keeps (fun q (_ : Unit) => p q) (fun _ _ _ _ => True) ()

lemma onlyMakes_enlistAll {p : CacheStep → Prop} {id : Int} (h : ∀ key, p (.enlist id key))
    (keys : List String) : OnlyMakes p (enlistAll id keys) := by
  induction keys with
  | nil => trivial
  | cons key keys ih => exact ⟨h key, fun _ _ _ => ih⟩

lemma onlyMakes_firstServable {p : CacheStep → Prop} (h : ∀ id, p (.read id) ∧ p (.evict id))
    (f t : Int) (ids : List Int) : OnlyMakes p (firstServable f t ids) := by
  induction ids with
  | nil => trivial
  | cons id ids ih =>
    refine ⟨(h id).1, fun a _ _ => ?_⟩
    cases a with
    | none => exact ⟨(h id).2, fun _ _ _ => ih⟩
    | some payload =>
      show OnlyMakes p (match Banner.servable? payload f t with | some b => _ | none => _)
      cases Banner.servable? payload f t with
      | none => exact ih
      | some b => trivial

lemma onlyMakes_call (visit : Visit) (c : CacheCall) : OnlyMakes c.Makes (call visit c) := by
  cases c with
  | put b =>
    refine ⟨.inl rfl, fun _ _ _ => ?_⟩
    exact (onlyMakes_enlistAll (fun key => .inr ⟨key, rfl⟩) b.indexKeys).bind fun _ _ => trivial
  | get f t =>
    refine ⟨.inl rfl, fun ids _ _ => ?_⟩
    refine (onlyMakes_firstServable (fun id => ⟨.inr ⟨id, .inl rfl⟩, .inr ⟨id, .inr rfl⟩⟩) f t
      (visit.order ids)).bind fun r _ => ?_
    cases r <;> trivial
  | delete id => exact ⟨rfl, fun _ _ _ => trivial⟩
  | ping => trivial

open Dialogue (leads_bind leads_done)

abbrev Record : Type := List ((q : CacheStep) × q.Answer)

variable {said more : Record} {f t : Int}

lemma leads_make {α : Type} {q : CacheStep} {next : q.Answer → Stepwise α} {r : α}
    (h : (make q >>= next).Leads said (.done r)) :
    ∃ a later, said = ⟨q, a⟩ :: later ∧ (next a).Leads later (.done r) :=
  Dialogue.leads_ask.mp h

lemma enlistAll_told {id : Int} {keys : List String} {u : Unit}
    (h : (enlistAll id keys).Leads said (.done u)) :
    ∀ key ∈ keys, ⟨.enlist id key, ()⟩ ∈ said := by
  induction keys generalizing said with
  | nil => exact fun _ hkey => (List.not_mem_nil hkey).elim
  | cons key keys ih =>
    obtain ⟨_, later, rfl, hlater⟩ := leads_make h
    exact List.forall_mem_cons.mpr ⟨List.mem_cons_self, fun key' hkey' =>
      List.mem_cons_of_mem _ (ih hlater key' hkey')⟩

lemma put_told {b : Banner} {r : Except CacheError Unit} (h : (put b).Leads said (.done r)) :
    ⟨.keep b, ()⟩ ∈ said ∧ ∀ key ∈ b.indexKeys, ⟨.enlist b.id key, ()⟩ ∈ said := by
  obtain ⟨_, later, rfl, hlater⟩ := leads_make h
  obtain ⟨before, after, _, rfl, hall, -⟩ := leads_bind hlater
  exact ⟨List.mem_cons_self, fun key hkey =>
    List.mem_cons_of_mem _ (List.mem_append_left _ (enlistAll_told hall key hkey))⟩

inductive Searched (f t : Int) (said : Record) (ids : List Int) : Option Banner → Prop
  | found {id : Int} {payload : ByteArray} {b : Banner} (hread : ⟨.read id, some payload⟩ ∈ said)
      (hb : Banner.servable? payload f t = some b) : Searched f t said ids (some b)
  | nothing (hall : ∀ id ∈ ids, ∃ a, ⟨.read id, a⟩ ∈ said ∧
      a.bind (Banner.servable? · f t) = none) : Searched f t said ids none

lemma Searched.cons {ids : List Int} {r : Option Banner} (h : Searched f t more ids r)
    (hsub : more ⊆ said) {id : Int} {a : Option ByteArray}
    (hnone : a.bind (Banner.servable? · f t) = none) :
    Searched f t (⟨.read id, a⟩ :: said) (id :: ids) r := by
  cases h with
  | found hread hb => exact .found (List.mem_cons_of_mem _ (hsub hread)) hb
  | nothing hall =>
    refine .nothing (List.forall_mem_cons.mpr ⟨⟨a, List.mem_cons_self, hnone⟩, fun j hj => ?_⟩)
    obtain ⟨a', hread, ha'⟩ := hall j hj
    exact ⟨a', List.mem_cons_of_mem _ (hsub hread), ha'⟩

lemma firstServable_told {ids : List Int} {r : Option Banner}
    (h : (firstServable f t ids).Leads said (.done r)) : Searched f t said ids r := by
  induction ids generalizing said with
  | nil =>
    rw [(leads_done.mp h).2]
    exact .nothing (List.forall_mem_nil _)
  | cons id ids ih =>
    obtain ⟨a, later, rfl, hlater⟩ := leads_make h
    cases a with
    | none =>
      obtain ⟨_, more, rfl, hmore⟩ := leads_make hlater
      exact (ih hmore).cons (List.subset_cons_self _ _) rfl
    | some payload =>
      dsimp only at hlater
      cases hb : Banner.servable? payload f t with
      | none =>
        rw [hb] at hlater
        exact (ih hlater).cons (List.Subset.refl _) hb
      | some b =>
        rw [hb] at hlater
        rw [(leads_done.mp hlater).2]
        exact .found List.mem_cons_self hb

lemma get_told {visit : Visit} {r : Except CacheError Banner}
    (h : (get visit f t).Leads said (.done r)) :
    ∃ ids found, ⟨.members (indexKey f t), ids⟩ ∈ said ∧ Searched f t said ids found ∧
      r = found.elim (.error (.notFound (indexKey f t))) .ok := by
  obtain ⟨ids, later, rfl, hlater⟩ := leads_make h
  obtain ⟨before, after, found, rfl, hsearch, hend⟩ := leads_bind hlater
  have hsub : before ⊆ ⟨.members (indexKey f t), ids⟩ :: (before ++ after) :=
    fun _ hx => List.mem_cons_of_mem _ (List.mem_append_left _ hx)
  refine ⟨ids, found, List.mem_cons_self, ?_, ?_⟩
  · cases firstServable_told hsearch with
    | found hread hb => exact .found (hsub hread) hb
    | nothing hall =>
      refine .nothing fun id hid => ?_
      obtain ⟨a, hread, ha⟩ := hall id ((visit.perm ids).mem_iff.mpr hid)
      exact ⟨a, hsub hread, ha⟩
  · cases found with
    | none => exact (leads_done.mp hend).2
    | some b => exact (leads_done.mp hend).2

end Stepwise

namespace LocalCache

variable {c : LocalCache} {now : Nat}

lemma ttl_step (q : CacheStep) : (c.step now q).2.ttl = c.ttl := by
  cases q with
  | evict id => exact (swept_evict c id now).ttl
  | _ => rfl

lemma mem_members_step {q : CacheStep} {key : String} {id : Int} :
    id ∈ (c.step now q).2.members key ↔ id ∈ c.members key ∨ q = .enlist id key := by
  cases q with
  | enlist j k =>
    rw [step, members_enlist, CacheStep.enlist.injEq]
    exact or_congr_right ⟨fun ⟨hk, hj⟩ => ⟨hj.symm, hk.symm⟩, fun ⟨hj, hk⟩ => ⟨hk.symm, hj.symm⟩⟩
  | evict j =>
    rw [step, members, (swept_evict c j now).index]
    exact (or_iff_left (by rintro ⟨⟩)).symm
  | _ => exact (or_iff_left (by rintro ⟨⟩)).symm

lemma kept?_step (c : LocalCache) (now : Nat) (q : CacheStep) (id : Int) :
    (c.step now q).2.kept? id = c.kept? id ∨ (∃ b, q = .keep b ∧ b.id = id) ∨ q = .remove id ∨
      ∃ x, q = .evict id ∧ c.kept? id = some x ∧ x.expired now = true := by
  cases q with
  | keep b =>
    by_cases hid : b.id = id
    · exact .inr (.inl ⟨b, rfl, hid⟩)
    · refine .inl ?_
      simp [step, keep, kept?, Table.get?_insert, hid]
  | remove j =>
    by_cases hid : j = id
    · exact .inr (.inr (.inl (hid ▸ rfl)))
    · refine .inl ?_
      simp [step, remove, kept?, Table.get?_erase, hid]
  | evict j =>
    rcases (swept_evict c j now).kept id with hsame | ⟨hnone, x, hx, hexp⟩
    · exact .inl hsame
    · refine .inr (.inr (.inr ⟨x, ?_, hx, hexp⟩))
      by_contra hne
      have hid : j ≠ id := fun he => hne (he ▸ rfl)
      have hkept : (c.evict j now).kept? id = c.kept? id := by
        unfold evict
        split
        · split_ifs
          · simp [kept?, Table.get?_erase, hid]
          · rfl
        · rfl
      rw [hkept, hx] at hnone
      cases hnone
  | _ => exact .inl rfl

lemma kept?_keep (c : LocalCache) (b : Banner) (now : Nat) :
    (c.step now (.keep b)).2.kept? b.id = some ⟨b.encode, now, c.ttl⟩ := by
  simp [step, keep, kept?, Table.get?_insert]

end LocalCache

end Billboard
