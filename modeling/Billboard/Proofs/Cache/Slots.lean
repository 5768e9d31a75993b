import Billboard.Proofs.Cache.Shared
import Billboard.Proofs.Redis.Keys

/-! What a cache has for an id or a pair depends on those uses alone that concern it. -/

namespace Billboard

open Banner (payloadKey indexKey)
open Redis (Server Command Request)

inductive CacheSlot where
  | payload (id : Int)
  | index (feature tag : Int)
deriving DecidableEq

namespace CacheSlot

def key : CacheSlot → String
  | .payload id => payloadKey id
  | .index feature tag => indexKey feature tag

lemma key_injective : Function.Injective key := by
  intro slot slot' h
  cases slot with
  | payload id =>
    cases slot' with
    | payload id' => exact congrArg _ (Banner.payloadKey_injective h)
    | index f' t' => exact (Banner.payloadKey_ne_indexKey id f' t' h).elim
  | index f t =>
    cases slot' with
    | payload id' => exact (Banner.payloadKey_ne_indexKey id' f t h.symm).elim
    | index f' t' =>
      obtain ⟨rfl, rfl⟩ := Banner.indexKey_inj.mp h
      rfl

end CacheSlot

def CacheCall.slots : CacheCall → List CacheSlot
  | .put b => .payload b.id :: b.tags.map (.index b.feature)
  | .delete id => [.payload id]
  | .get .. => []
  | .ping => []

/-- Whether a use bears on what is kept in the slot; the passing of time bears on everything. -/
def CacheUse.concerns (slot : CacheSlot) : CacheUse → Bool
  | .call _ c => slot ∈ c.slots
  | .wait _ => true

lemma CacheCall.payload_mem_slots_put {b : Banner} {id : Int} :
    .payload id ∈ (CacheCall.put b).slots ↔ b.id = id := by
  simp [CacheCall.slots, eq_comm]

lemma CacheCall.index_mem_slots_put {b : Banner} {f t : Int} :
    .index f t ∈ (CacheCall.put b).slots ↔ b.serves f t = true := by
  simp [CacheCall.slots, Banner.serves, and_comm]

def LocalCache.AgreeAt (now : Nat) (c d : LocalCache) : CacheSlot → Prop
  | .payload id => ∀ later, now ≤ later → d.live? id later = c.live? id later
  | .index f t => ∀ id, id ∈ d.indexMembers f t ↔ id ∈ c.indexMembers f t

namespace LocalCache

variable {now : Nat} {c d e : LocalCache} {slot : CacheSlot}

lemma AgreeAt.symm (h : AgreeAt now c d slot) : AgreeAt now d c slot := by
  cases slot with
  | payload id => exact fun later hl => (h later hl).symm
  | index f t => exact fun id => (h id).symm

lemma AgreeAt.trans (h : AgreeAt now c d slot) (h' : AgreeAt now d e slot) :
    AgreeAt now c e slot := by
  cases slot with
  | payload id => exact fun later hl => (h' later hl).trans (h later hl)
  | index f t => exact fun id => (h' id).trans (h id)

lemma Alike.agreeAt (h : Alike now c d) (slot : CacheSlot) : AgreeAt now c d slot := by
  cases slot with
  | payload id => exact fun later hl => h.live later hl id
  | index f t =>
    intro id
    rw [indexMembers, indexMembers, members, members, h.index]

lemma AgreeAt.later {later : Nat} (h : AgreeAt now c d slot) (hl : now ≤ later) :
    AgreeAt later c d slot := by
  cases slot with
  | payload id => exact fun time ht => h time (hl.trans ht)
  | index f t => exact h

lemma agreeAt_answer {q : CacheCall} (h : slot ∉ q.slots) (visit : Visit) (now : Nat)
    (c : LocalCache) : AgreeAt now c (c.answer visit now q).2 slot := by
  cases q with
  | put b =>
    cases slot with
    | payload id =>
      rw [CacheCall.payload_mem_slots_put] at h
      intro later _
      rw [answer, live?_put, if_neg h]
    | index f t =>
      rw [CacheCall.index_mem_slots_put] at h
      intro id
      rw [answer, mem_indexMembers_put]
      exact or_iff_left fun hs => h hs.1
  | get f t => exact (c.swept_get visit f t now).alike.agreeAt slot
  | delete j =>
    cases slot with
    | payload id =>
      have hne : j ≠ id := fun he => h (he ▸ List.mem_singleton_self _)
      intro later _
      rw [answer, live?_delete, if_neg hne]
    | index f t =>
      intro id
      rw [answer, indexMembers, members, delete_index, indexMembers, members]
  | ping => exact (Swept.refl now c).alike.agreeAt slot

lemma AgreeAt.answer (h : AgreeAt now c d slot) (httl : d.ttl = c.ttl) (visit : Visit)
    (q : CacheCall) : AgreeAt now (c.answer visit now q).2 (d.answer visit now q).2 slot := by
  by_cases hq : slot ∈ q.slots
  · cases q with
    | put b =>
      cases slot with
      | payload id =>
        intro later hl
        simp only [LocalCache.answer, live?_put, httl, h later hl]
      | index f t =>
        intro id
        simp only [LocalCache.answer, mem_indexMembers_put, h id]
    | get f t => cases hq
    | delete j =>
      obtain rfl := List.mem_singleton.mp hq
      intro later hl
      simp only [LocalCache.answer, live?_delete, h later hl]
    | ping => cases hq
  · exact (agreeAt_answer hq visit now c).symm.trans (h.trans (agreeAt_answer hq visit now d))

lemma answer_ttl (c : LocalCache) (visit : Visit) (now : Nat) (q : CacheCall) :
    (c.answer visit now q).2.ttl = c.ttl := by
  cases q with
  | put b => exact c.put_ttl b now
  | get f t => exact (c.swept_get visit f t now).ttl
  | delete id => exact c.delete_ttl id now
  | ping => rfl

end LocalCache

lemma rel_foldl_filter {σ α : Type} {r : σ → σ → Prop} {step : σ → α → σ} {p : α → Bool}
    (both : ∀ s t a, r s t → r (step s a) (step t a))
    (skip : ∀ s t a, p a = false → r s t → r (step s a) t) {s t : σ} (h : r s t) (l : List α) :
    r (l.foldl step s) ((l.filter p).foldl step t) := by
  rw [List.foldl_filter]
  refine List.foldl_rel h fun a _ s t hst => ?_
  split
  · exact both s t a hst
  · rename_i hp
    exact skip s t a (Bool.eq_false_of_not_eq_true hp) hst

namespace TimedCache

variable {s t : TimedCache} {slot : CacheSlot}

structure AgreeAt (slot : CacheSlot) (s t : TimedCache) : Prop where
  now : t.now = s.now
  ttl : t.cache.ttl = s.cache.ttl
  cache : s.cache.AgreeAt s.now t.cache slot

lemma AgreeAt.next (h : AgreeAt slot s t) (use : CacheUse) :
    AgreeAt slot (s.next use) (t.next use) := by
  cases use with
  | call visit q =>
    refine ⟨h.now, ?_, ?_⟩
    · simp only [TimedCache.next, LocalCache.answer_ttl, h.ttl]
    · simp only [TimedCache.next, h.now]
      exact h.cache.answer h.ttl visit q
  | wait ms =>
    exact ⟨congrArg (· + ms) h.now, h.ttl, h.cache.later (Nat.le_add_right s.now ms)⟩

lemma AgreeAt.next_left (h : AgreeAt slot s t) {use : CacheUse}
    (hu : use.concerns slot = false) : AgreeAt slot (s.next use) t := by
  cases use with
  | call visit q =>
    have hq : slot ∉ q.slots := of_decide_eq_false hu
    exact ⟨h.now, h.ttl.trans (s.cache.answer_ttl visit s.now q).symm,
      (LocalCache.agreeAt_answer hq visit s.now s.cache).symm.trans h.cache⟩
  | wait ms => cases hu

lemma agreeAt_filter (s : TimedCache) (uses : List CacheUse) (slot : CacheSlot) :
    AgreeAt slot (s.after uses) (s.after (uses.filter (CacheUse.concerns slot))) :=
  rel_foldl_filter (fun _ _ use h => h.next use) (fun _ _ _ hu h => h.next_left hu)
    ⟨rfl, rfl, (LocalCache.Swept.refl s.now s.cache).alike.agreeAt slot⟩ uses

end TimedCache

namespace SharedCache

def request? (ttl : Nat) : CacheCall → Option Request
  | .put b => some (.atomic (commands ttl b))
  | .get .. => none
  | .delete id => some (.one (.del (payloadKey id)))
  | .ping => some (.one .ping)

variable {ttl : Nat} {q : CacheCall} {r : Request} {key : String} {slot : CacheSlot} {s s' : Server}

lemma answer_snd (hr : request? ttl q = some r) (visit : Visit) (now : Nat) (s : Server) :
    (answer ttl visit now q s).2 = (s.answer now r).2 := by
  cases q with
  | put b =>
    cases hr
    simp only [answer, call, put, run_send]
    split <;> rfl
  | get f t => cases hr
  | delete id =>
    cases hr
    simp only [answer, call, delete, run_send]
    split <;> rfl
  | ping =>
    cases hr
    simp only [answer, call, ping, run_send]
    split <;> rfl

lemma mem_slots_of_changes (hr : request? ttl q = some r) {c : Command} (hc : c ∈ r.commands)
    (h : c.Changes slot.key) : slot ∈ q.slots := by
  cases q with
  | put b =>
    cases hr
    rcases List.mem_cons.mp hc with rfl | hc
    · have hkey : CacheSlot.key (.payload b.id) = slot.key := h
      obtain rfl := CacheSlot.key_injective hkey
      exact List.mem_cons_self
    · obtain ⟨k, hk, rfl⟩ := List.mem_map.mp hc
      obtain ⟨t, ht, rfl⟩ := List.mem_map.mp hk
      have hkey : CacheSlot.key (.index b.feature t) = slot.key := h
      obtain rfl := CacheSlot.key_injective hkey
      exact List.mem_cons_of_mem _ (List.mem_map_of_mem ht)
  | get f t => cases hr
  | delete id =>
    cases hr
    obtain rfl := List.mem_singleton.mp hc
    have hkey : CacheSlot.key (.payload id) = slot.key := h
    obtain rfl := CacheSlot.key_injective hkey
    exact List.mem_singleton_self _
  | ping =>
    cases hr
    obtain rfl := List.mem_singleton.mp hc
    exact h.elim

lemma agreeAt_firstServable (f t : Int) (now : Nat) (ids : List Int) (s : Server) :
    s.AgreeAt key ((firstServable f t ids).run (fun r s => s.answer now r) s).2 := by
  induction ids generalizing s with
  | nil => exact (Server.Same.refl s).agreeAt key
  | cons id ids ih =>
    have hget : s.AgreeAt key (s.answer now (.one (.get (payloadKey id)))).2 :=
      Server.agreeAt_execute (c := .get (payloadKey id)) not_false now s
    rw [firstServable, run_send]
    split
    · exact hget
    · exact hget.trans (ih _)
    · split
      · exact hget
      · exact hget.trans (ih _)
    · exact hget

lemma agreeAt_read (hr : request? ttl q = none) (visit : Visit) (now : Nat) (s : Server) :
    s.AgreeAt key (answer ttl visit now q s).2 := by
  cases q with
  | put b => cases hr
  | get f t =>
    have hsmembers : s.AgreeAt key (s.answer now (.one (.smembers (indexKey f t)))).2 :=
      Server.agreeAt_execute (c := .smembers (indexKey f t)) not_false now s
    simp only [answer, call, get, run_send]
    split
    · exact hsmembers
    · split
      · exact hsmembers
      · exact hsmembers.trans (agreeAt_firstServable f t now _ _)
    · exact hsmembers
  | delete id => cases hr
  | ping => cases hr

lemma agreeAt_answer (h : slot ∉ q.slots) (ttl : Nat) (visit : Visit) (now : Nat) (s : Server) :
    s.AgreeAt slot.key (answer ttl visit now q s).2 := by
  cases hr : request? ttl q with
  | none => exact agreeAt_read hr visit now s
  | some r =>
    rw [answer_snd hr]
    exact Server.agreeAt_answer (fun c hc hchanges => h (mem_slots_of_changes hr hc hchanges)) now s

lemma answer_agreeAt (h : s.AgreeAt key s') (ttl : Nat) (visit : Visit) (now : Nat)
    (q : CacheCall) :
    (answer ttl visit now q s).2.AgreeAt key (answer ttl visit now q s').2 := by
  cases hr : request? ttl q with
  | none =>
    -- the servers may answer a read differently, so that it goes on differently; it changes neither
    have hs : s.AgreeAt key (answer ttl visit now q s).2 := agreeAt_read hr visit now s
    exact hs.symm.trans (h.trans (agreeAt_read hr visit now s'))
  | some r =>
    rw [answer_snd hr, answer_snd hr]
    exact h.answer now r

lemma Parted.answer (h : Parted s) (ttl : Nat) (visit : Visit) (now : Nat)
    (q : CacheCall) : Parted (answer ttl visit now q s).2 := by
  cases q with
  | put b => exact h.put ttl visit now b
  | get f t => exact h.agree fun _ => agreeAt_read rfl visit now s
  | delete id =>
    have hsame := (answer_delete h.healthy ttl visit now (h.set_none id)).2
    exact (h.remove (payloadKey id)).agree fun key => hsame.agreeAt key
  | ping => exact h.agree fun key => (answer_ping h.healthy ttl visit now).2.agreeAt key

end SharedCache

namespace TimedServer

variable {ttl : Nat} {r r' : TimedServer} {slot : CacheSlot}

structure AgreeAt (key : String) (r r' : TimedServer) : Prop where
  now : r'.now = r.now
  server : r.server.AgreeAt key r'.server

lemma AgreeAt.next {key : String} (h : AgreeAt key r r') (use : CacheUse) :
    AgreeAt key (r.next ttl use) (r'.next ttl use) := by
  cases use with
  | call visit q =>
    refine ⟨h.now, ?_⟩
    simp only [TimedServer.next, h.now]
    exact SharedCache.answer_agreeAt h.server ttl visit r.now q
  | wait ms => exact ⟨congrArg (· + ms) h.now, h.server⟩

lemma AgreeAt.next_left (h : AgreeAt slot.key r r') {use : CacheUse}
    (hu : use.concerns slot = false) : AgreeAt slot.key (r.next ttl use) r' := by
  cases use with
  | call visit q =>
    have hq : slot ∉ q.slots := of_decide_eq_false hu
    exact ⟨h.now, (SharedCache.agreeAt_answer hq ttl visit r.now r.server).symm.trans h.server⟩
  | wait ms => cases hu

lemma agreeAt_filter (ttl : Nat) (r : TimedServer) (uses : List CacheUse) (slot : CacheSlot) :
    AgreeAt slot.key (r.after ttl uses) (r.after ttl (uses.filter (CacheUse.concerns slot))) :=
  rel_foldl_filter (fun _ _ use h => h.next use) (fun _ _ _ hu h => h.next_left hu)
    ⟨rfl, (Server.Same.refl r.server).agreeAt slot.key⟩ uses

lemma parted_after (h : SharedCache.Parted r.server) (uses : List CacheUse) :
    SharedCache.Parted (r.after ttl uses).server := by
  induction uses generalizing r with
  | nil => exact h
  | cons use uses ih =>
    apply ih
    cases use with
    | call visit q => exact h.answer ttl visit r.now q
    | wait ms => exact h

end TimedServer

/-- What a cache has for an id or for a pair after some uses is what it has after those uses alone
that concern it. -/
theorem CacheSlot.kept_apart :
    (Function.Injective payloadKey ∧
      (Function.Injective fun pair : Int × Int => indexKey pair.1 pair.2) ∧
      ∀ id feature tag, payloadKey id ≠ indexKey feature tag) ∧
    (∀ (s : TimedCache) (uses : List CacheUse) (slot : CacheSlot),
      TimedCache.AgreeAt slot (s.after uses) (s.after (uses.filter (CacheUse.concerns slot)))) ∧
    (∀ (ttl : Nat) (r : TimedServer) (uses : List CacheUse) (slot : CacheSlot),
      TimedServer.AgreeAt slot.key (r.after ttl uses)
        (r.after ttl (uses.filter (CacheUse.concerns slot)))) ∧
    ∀ (ttl start : Nat) (uses : List CacheUse) (key : String),
      let server := ((TimedServer.fresh start).after ttl uses).server
      server.strings.get? key = none ∨ server.sets.get? key = none := by
  refine ⟨⟨Banner.payloadKey_injective, fun p q h => ?_, Banner.payloadKey_ne_indexKey⟩,
    TimedCache.agreeAt_filter, TimedServer.agreeAt_filter, fun ttl start uses key => ?_⟩
  · obtain ⟨hf, ht⟩ := Banner.indexKey_inj.mp h
    exact Prod.ext hf ht
  · exact (TimedServer.parted_after .empty uses).string_or_set_none key

end Billboard
