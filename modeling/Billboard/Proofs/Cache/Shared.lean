import Billboard.Cache.Shared
import Billboard.Proofs.Cache.Memory
import Billboard.Proofs.Redis.Keys
import Billboard.Proofs.Text.Numeral
import Mathlib.Data.List.Basic

/-! The cache behind a server answers as the cache inside a process does. -/

namespace Billboard

open Banner (payloadKey indexKey)
open Redis (Server Command Request Reply)
open Text (intText IntRange)

structure TimedServer where
  server : Server
  now : Nat

namespace TimedServer

def fresh (start : Nat) : TimedServer := ⟨{}, start⟩

def next (ttl : Nat) (r : TimedServer) : CacheUse → TimedServer
  | .call visit c => { r with server := (SharedCache.answer ttl visit r.now c r.server).2 }
  | .wait ms => { r with now := r.now + ms }

def after (ttl : Nat) (r : TimedServer) (uses : List CacheUse) : TimedServer :=
  uses.foldl (next ttl) r

end TimedServer

inductive CacheUse.Same : CacheUse → CacheUse → Prop
  | call (visit visit' : Visit) (c : CacheCall) : Same (.call visit c) (.call visit' c)
  | wait (ms : Nat) : Same (.wait ms) (.wait ms)

namespace SharedCache

variable {s : Server}

def served? (s : Server) (f t : Int) (now : Nat) (id : Int) : Option Banner :=
  (s.string? (payloadKey id) now).bind fun payload => Banner.servable? payload f t

lemma served?_same {s' : Server} (h : s.Same s') (f t : Int) (now : Nat) :
    served? s' f t now = served? s f t now := by
  funext id
  rw [served?, served?, h.string?]

lemma run_send {α : Type} (now : Nat) (r : Request) (f : Reply → Exchange α) (s : Server) :
    (send r >>= f).run (fun r s => s.answer now r) s =
      (f (s.answer now r).1).run (fun r s => s.answer now r) (s.answer now r).2 := rfl

lemma firstServable_run (hs : s.Healthy) (f t : Int) (now : Nat) (ids : List Int) :
    let p := (firstServable f t ids).run (fun r s => s.answer now r) s
    p.1 = (ids.findSome? (served? s f t now)).elim (.error (.notFound (indexKey f t))) .ok ∧
      s.Same p.2 := by
  induction ids generalizing s with
  | nil => exact ⟨rfl, .refl s⟩
  | cons id ids ih =>
    have hget : s.answer now (.one (.get (payloadKey id))) =
        (.bulk (s.string? (payloadKey id) now), s.note (Command.get (payloadKey id)).words) :=
      hs.execute now (.get (payloadKey id))
    have hnote := Server.same_note s (Command.get (payloadKey id)).words
    obtain ⟨hlater, hsame⟩ := ih (hs.same hnote)
    rw [served?_same hnote] at hlater
    simp only [firstServable, run_send, hget, List.findSome?_cons]
    cases hstring : s.string? (payloadKey id) now with
    | none =>
      simp only [served?, hstring, Option.bind_none]
      exact ⟨hlater, hnote.trans hsame⟩
    | some payload =>
      cases hb : Banner.servable? payload f t with
      | none =>
        simp only [served?, hstring, Option.bind_some, hb]
        exact ⟨hlater, hnote.trans hsame⟩
      | some b =>
        simp only [served?, hstring, Option.bind_some, hb]
        exact ⟨rfl, hnote⟩

lemma idsOf_eq_some (members : List String)
    (h : ∀ m ∈ members, ∃ id, IntRange.i64.contains id = true ∧ intText id = m) :
    ∃ ids, idsOf members = some ids ∧ ids.map intText = members := by
  induction members with
  | nil => exact ⟨[], rfl, rfl⟩
  | cons m members ih =>
    obtain ⟨⟨id, hid, rfl⟩, hmembers⟩ := List.forall_mem_cons.mp h
    obtain ⟨ids, hids, rfl⟩ := ih hmembers
    have hread : (Text.readInt .i64 (intText id).toList).toOption = some id := by
      rw [intText, String.toList_ofList, Text.readInt_intDigits hid (by decide)]
      rfl
    refine ⟨id :: ids, ?_, rfl⟩
    rw [idsOf] at hids ⊢
    rw [List.mapM_cons, hread, hids]
    rfl

lemma answer_put (hs : s.Healthy) (ttl : Nat) (visit : Visit) (now : Nat) (b : Banner) :
    let p := answer ttl visit now (.put b) s
    p.1 = .ok () ∧ p.2.Healthy ∧
      (∀ id later, p.2.string? (payloadKey id) later =
        if b.id = id then (if later < now + 1000 * ttl then some b.encode else none)
        else s.string? (payloadKey id) later) ∧
      (∀ k m, m ∈ p.2.members k ↔ m ∈ s.members k ∨ (k ∈ b.indexKeys ∧ m = intText b.id)) ∧
      (∀ k, p.2.strings.get? k ≠ none → s.strings.get? k ≠ none ∨ k = payloadKey b.id) ∧
      ∀ k, p.2.sets.get? k ≠ none → s.sets.get? k ≠ none ∨ k ∈ b.indexKeys := by
  intro p
  -- after SETEX all that is left of the transaction adds to sets, which leaves strings alone
  let entry : Redis.Entry := ⟨b.encode, some (now + 1000 * ttl)⟩
  let kept : Server := ((s.note ["MULTI"]).note (Command.setex (payloadKey b.id) ttl b.encode).words)
    |>.setString (payloadKey b.id) entry
  have hkept : kept.Healthy := ⟨hs.broken, hs.expiring⟩
  have hmulti : (s.note ["MULTI"]).Healthy := hs.same (Server.same_note s _)
  have hsetex : (s.note ["MULTI"]).execute now (.setex (payloadKey b.id) ttl b.encode) =
      (.status "OK", kept) := by
    have hexpiring : ((s.note ["MULTI"]).note
      (Command.setex (payloadKey b.id) ttl b.encode).words).expiring = true := hs.expiring
    simp only [hmulti.execute, Server.apply, hexpiring, if_true]
    rfl
  obtain ⟨hnone, hhealthy, hstrings, hmembers, hsets⟩ :=
    hkept.executeAll_sadd now b.indexKeys (intText b.id)
  have hp : p = (.ok (), (Redis.Server.executeAll now
      (b.indexKeys.map fun key => .sadd key (intText b.id)) kept).2.note ["EXEC"]) := by
    simp only [p, answer, call, put, run_send, hs.answer_atomic, commands, Server.executeAll,
      hsetex, hnone]
    rfl
  have hstring : ∀ id later, kept.string? (payloadKey id) later =
      if b.id = id then (if later < now + 1000 * ttl then some b.encode else none)
      else s.string? (payloadKey id) later := by
    intro id later
    rw [Server.string?_setString]
    simp only [Banner.payloadKey_inj, entry, Redis.Entry.live, decide_eq_true_eq]
    rfl
  rw [hp]
  refine ⟨rfl, hhealthy.same (Server.same_note _ _), fun id later => ?_, fun k m => ?_,
    fun k hk => ?_, fun k hk => ?_⟩
  · rw [← hstring, Server.string?, Server.string?]
    simp only [Server.note, hstrings]
  · exact hmembers k m
  · have hk' : kept.strings.get? k ≠ none := hstrings ▸ hk
    by_cases hkey : payloadKey b.id = k
    · exact .inr hkey.symm
    · simp only [kept, Server.setString, Table.get?_insert, hkey, if_false] at hk'
      exact .inl hk'
  · exact hsets k hk

lemma answer_get (hs : s.Healthy) (ttl : Nat) (visit : Visit) (now : Nat) {f t : Int}
    {ids : List Int} (hids : idsOf (s.members (indexKey f t)) = some ids) :
    (answer ttl visit now (.get f t) s).1 =
      ((visit.order ids).findSome? (served? s f t now)).elim (.error (.notFound (indexKey f t))) .ok ∧
      s.Same (answer ttl visit now (.get f t) s).2 := by
  have hsmembers : s.answer now (.one (.smembers (indexKey f t))) =
      (.array (s.members (indexKey f t)), s.note (Command.smembers (indexKey f t)).words) :=
    hs.execute now (.smembers (indexKey f t))
  have hnote := Server.same_note s (Command.smembers (indexKey f t)).words
  have hrun := firstServable_run (hs.same hnote) f t now (visit.order ids)
  rw [served?_same hnote] at hrun
  simp only [answer, call, get, run_send, hsmembers, hids]
  exact ⟨hrun.1, hnote.trans hrun.2⟩

lemma answer_delete (hs : s.Healthy) (ttl : Nat) (visit : Visit) (now : Nat) {id : Int}
    (hset : s.sets.get? (payloadKey id) = none) :
    (answer ttl visit now (.delete id) s).1 =
      (if (s.string? (payloadKey id) now).isSome then .ok ()
        else .error (.notFound (payloadKey id))) ∧
      (s.remove (payloadKey id)).Same (answer ttl visit now (.delete id) s).2 := by
  have hdel : s.answer now (.one (.del (payloadKey id))) =
      (.integer (if (s.string? (payloadKey id) now).isSome || (s.sets.get? (payloadKey id)).isSome
        then 1 else 0),
        (s.note (Command.del (payloadKey id)).words).remove (payloadKey id)) :=
    hs.execute now (.del (payloadKey id))
  simp only [answer, call, delete, run_send, hdel, hset, Option.isSome_none, Bool.or_false]
  refine ⟨?_, rfl, rfl, rfl, rfl⟩
  cases (s.string? (payloadKey id) now).isSome <;> rfl

lemma answer_ping (hs : s.Healthy) (ttl : Nat) (visit : Visit) (now : Nat) :
    (answer ttl visit now .ping s).1 = .ok () ∧ s.Same (answer ttl visit now .ping s).2 := by
  have hping : s.answer now (.one .ping) = (.status "PONG", s.note Command.ping.words) :=
    hs.execute now .ping
  simp only [answer, call, ping, run_send, hping]
  exact ⟨rfl, Server.same_note s _⟩

/-- The server refuses nothing, and it has strings under the keys of ids only and sets under those
of pairs only. -/
structure Parted (s : Server) : Prop where
  healthy : s.Healthy
  strings : ∀ k, s.strings.get? k ≠ none → ∃ id, k = payloadKey id
  sets : ∀ k, s.sets.get? k ≠ none → ∃ f t, k = indexKey f t

namespace Parted

lemma empty : Parted {} where
  healthy := ⟨rfl, rfl⟩
  strings _ h := (h rfl).elim
  sets _ h := (h rfl).elim

lemma set_none (h : Parted s) (id : Int) : s.sets.get? (payloadKey id) = none := by
  by_contra hne
  obtain ⟨f, t, hk⟩ := h.sets _ hne
  exact Banner.payloadKey_ne_indexKey id f t hk

lemma string_or_set_none (h : Parted s) (key : String) :
    s.strings.get? key = none ∨ s.sets.get? key = none := by
  by_contra! hne
  obtain ⟨id, rfl⟩ := h.strings key hne.1
  exact hne.2 (h.set_none id)

lemma agree (h : Parted s) {s' : Server} (hs : ∀ key, s.AgreeAt key s') : Parted s' where
  healthy := ⟨(hs "").broken.trans h.healthy.broken, (hs "").expiring.trans h.healthy.expiring⟩
  strings k hk := h.strings k ((hs k).string ▸ hk)
  sets k hk := h.sets k ((hs k).set ▸ hk)

lemma put (h : Parted s) (ttl : Nat) (visit : Visit) (now : Nat) (b : Banner) :
    Parted (answer ttl visit now (.put b) s).2 := by
  obtain ⟨-, hhealthy, -, -, hstrings, hsets⟩ := answer_put h.healthy ttl visit now b
  refine ⟨hhealthy, fun k hk => ?_, fun k hk => ?_⟩
  · rcases hstrings k hk with hk | rfl
    · exact h.strings k hk
    · exact ⟨b.id, rfl⟩
  · rcases hsets k hk with hk | hk
    · exact h.sets k hk
    · obtain ⟨t, -, rfl⟩ := List.mem_map.mp hk
      exact ⟨b.feature, t, rfl⟩

lemma remove (h : Parted s) (key : String) : Parted (s.remove key) where
  healthy := ⟨h.healthy.broken, h.healthy.expiring⟩
  strings k hk := by
    simp only [Server.remove, Table.get?_erase] at hk
    split_ifs at hk
    · exact (hk rfl).elim
    · exact h.strings k hk
  sets k hk := by
    simp only [Server.remove, Table.get?_erase] at hk
    split_ifs at hk
    · exact (hk rfl).elim
    · exact h.sets k hk

end Parted

end SharedCache

/-- A server keeps for the cache that services share what the cache inside a process keeps, now and
at any later time. -/
structure Mirrors (ttl : Nat) (s : TimedCache) (r : TimedServer) : Prop where
  healthy : r.server.Healthy
  ttl_eq : s.cache.ttl = 1000 * ttl
  live : ∀ id ms, r.server.string? (payloadKey id) (r.now + ms) = s.cache.live? id (s.now + ms)
  listed : ∀ f t m, m ∈ r.server.members (indexKey f t) ↔
    ∃ id ∈ s.cache.indexMembers f t, intText id = m
  wide : ∀ f t, ∀ id ∈ s.cache.indexMembers f t, IntRange.i64.contains id = true
  strings : ∀ k, r.server.strings.get? k ≠ none → ∃ id, k = payloadKey id
  sets : ∀ k, r.server.sets.get? k ≠ none → ∃ f t, k = indexKey f t

namespace Mirrors

variable {ttl : Nat} {s : TimedCache} {r : TimedServer}

lemma fresh (ttl start start' : Nat) :
    Mirrors ttl (.fresh (1000 * ttl) start) (.fresh start') where
  healthy := ⟨rfl, rfl⟩
  ttl_eq := rfl
  live _ _ := rfl
  listed _ _ _ := ⟨fun h => (List.not_mem_nil h).elim, fun ⟨_, h, _⟩ => (List.not_mem_nil h).elim⟩
  wide _ _ _ h := (List.not_mem_nil h).elim
  strings _ h := (h rfl).elim
  sets _ h := (h rfl).elim

lemma parted (h : Mirrors ttl s r) : SharedCache.Parted r.server := ⟨h.healthy, h.strings, h.sets⟩

lemma exists_idsOf (h : Mirrors ttl s r) (f t : Int) :
    ∃ ids, SharedCache.idsOf (r.server.members (indexKey f t)) = some ids ∧
      ∀ id, id ∈ ids ↔ id ∈ s.cache.indexMembers f t := by
  obtain ⟨ids, hids, hmembers⟩ := SharedCache.idsOf_eq_some (r.server.members (indexKey f t))
    fun m hm => by
      obtain ⟨id, hid, rfl⟩ := (h.listed f t m).mp hm
      exact ⟨id, h.wide f t id hid, rfl⟩
  refine ⟨ids, hids, fun id => ?_⟩
  rw [← List.mem_map_of_injective Text.intText_injective, hmembers, h.listed f t]
  simp only [Text.intText_injective.eq_iff, exists_eq_right]

lemma served? (h : Mirrors ttl s r) (f t : Int) :
    SharedCache.served? r.server f t r.now = s.cache.served? f t s.now := by
  funext id
  have hlive := h.live id 0
  rw [Nat.add_zero, Nat.add_zero] at hlive
  rw [SharedCache.served?, LocalCache.served?, hlive]

lemma results (h : Mirrors ttl s r) (c : CacheCall) :
    {a | ∃ visit, (s.cache.answer visit s.now c).1 = a} =
      {a | ∃ visit, (SharedCache.answer ttl visit r.now c r.server).1 = a} := by
  cases c with
  | put b =>
    simp only [(SharedCache.answer_put h.healthy ttl _ r.now b).1]
    rfl
  | get f t =>
    obtain ⟨ids, hids, hmem⟩ := h.exists_idsOf f t
    simp only [(SharedCache.answer_get h.healthy ttl _ r.now hids).1, h.served? f t,
      Visit.first_results, hmem]
    simp only [LocalCache.answer, LocalCache.get_fst, Visit.first_results]
  | delete id =>
    have hlive := h.live id 0
    rw [Nat.add_zero, Nat.add_zero] at hlive
    simp only [(SharedCache.answer_delete h.healthy ttl _ r.now (h.parted.set_none id)).1, hlive,
      LocalCache.answer, LocalCache.delete_eq]
  | ping =>
    simp only [(SharedCache.answer_ping h.healthy ttl _ r.now).1]
    rfl

lemma call_put (h : Mirrors ttl s r) (visit visit' : Visit) {b : Banner}
    (hid : IntRange.i64.contains b.id = true) :
    Mirrors ttl (s.next (.call visit (.put b))) (r.next ttl (.call visit' (.put b))) := by
  obtain ⟨-, hhealthy, hstring, hmembers, -⟩ :=
    SharedCache.answer_put h.healthy ttl visit' r.now b
  have hparted := h.parted.put ttl visit' r.now b
  refine ⟨hhealthy, (s.cache.put_ttl b s.now).trans h.ttl_eq, fun id ms => ?_, fun f t m => ?_,
    fun f t id hm => ?_, hparted.strings, hparted.sets⟩
  · -- the server counts down what the process counts up
    simp only [TimedServer.next, TimedCache.next, LocalCache.answer, hstring, LocalCache.live?_put,
      h.live, h.ttl_eq]
    split_ifs <;> first | rfl | omega
  · simp only [TimedServer.next, TimedCache.next, LocalCache.answer, hmembers, h.listed,
      LocalCache.mem_indexMembers_put, Banner.mem_indexKeys]
    constructor
    · rintro (⟨id, hm, rfl⟩ | ⟨hserves, rfl⟩)
      · exact ⟨id, .inl hm, rfl⟩
      · exact ⟨b.id, .inr ⟨hserves, rfl⟩, rfl⟩
    · rintro ⟨id, hm | ⟨hserves, rfl⟩, rfl⟩
      · exact .inl ⟨id, hm, rfl⟩
      · exact .inr ⟨hserves, rfl⟩
  · rcases LocalCache.mem_indexMembers_put.mp hm with hm | ⟨-, rfl⟩
    · exact h.wide f t id hm
    · exact hid

lemma noted (h : Mirrors ttl s r) {server : Server} (hs : r.server.Same server) :
    Mirrors ttl s ⟨server, r.now⟩ where
  healthy := h.healthy.same hs
  ttl_eq := h.ttl_eq
  live id ms := (hs.string? _ _).trans (h.live id ms)
  listed f t m := by
    rw [hs.members]
    exact h.listed f t m
  wide := h.wide
  strings k hk := h.strings k (hs.strings ▸ hk)
  sets k hk := h.sets k (hs.sets ▸ hk)

lemma swept (h : Mirrors ttl s r) {cache : LocalCache}
    (hs : LocalCache.Swept s.now s.cache cache) : Mirrors ttl ⟨cache, s.now⟩ r where
  healthy := h.healthy
  ttl_eq := hs.ttl.trans h.ttl_eq
  live id ms := (h.live id ms).trans (hs.live? (Nat.le_add_right s.now ms) id).symm
  listed f t m := by
    rw [LocalCache.indexMembers, LocalCache.members, hs.index]
    exact h.listed f t m
  wide f t id hm := by
    rw [LocalCache.indexMembers, LocalCache.members, hs.index] at hm
    exact h.wide f t id hm
  strings := h.strings
  sets := h.sets

lemma call_get (h : Mirrors ttl s r) (visit visit' : Visit) (f t : Int) :
    Mirrors ttl (s.next (.call visit (.get f t))) (r.next ttl (.call visit' (.get f t))) := by
  obtain ⟨ids, hids, -⟩ := h.exists_idsOf f t
  have hsame := (SharedCache.answer_get h.healthy ttl visit' r.now hids).2
  exact (h.swept (s.cache.swept_get visit f t s.now)).noted hsame

lemma remove (h : Mirrors ttl s r) (id : Int) :
    Mirrors ttl ⟨(s.cache.delete id s.now).2, s.now⟩ ⟨r.server.remove (payloadKey id), r.now⟩ where
  healthy := ⟨h.healthy.broken, h.healthy.expiring⟩
  ttl_eq := (s.cache.delete_ttl id s.now).trans h.ttl_eq
  live j ms := by
    simp only [Server.string?_remove, LocalCache.live?_delete, Banner.payloadKey_inj, h.live]
  listed f t m := by
    simp only [Server.members_remove, Banner.payloadKey_ne_indexKey, if_false,
      LocalCache.indexMembers, LocalCache.members, LocalCache.delete_index]
    exact h.listed f t m
  wide f t j hm := by
    rw [LocalCache.indexMembers, LocalCache.members, LocalCache.delete_index] at hm
    exact h.wide f t j hm
  strings := (h.parted.remove (payloadKey id)).strings
  sets := (h.parted.remove (payloadKey id)).sets

lemma call_delete (h : Mirrors ttl s r) (visit visit' : Visit) (id : Int) :
    Mirrors ttl (s.next (.call visit (.delete id))) (r.next ttl (.call visit' (.delete id))) :=
  (h.remove id).noted (SharedCache.answer_delete h.healthy ttl visit' r.now (h.parted.set_none id)).2

lemma wait (h : Mirrors ttl s r) (ms : Nat) :
    Mirrors ttl (s.next (.wait ms)) (r.next ttl (.wait ms)) where
  healthy := h.healthy
  ttl_eq := h.ttl_eq
  live id later := by
    simp only [TimedServer.next, TimedCache.next, Nat.add_assoc]
    exact h.live id (ms + later)
  listed := h.listed
  wide := h.wide
  strings := h.strings
  sets := h.sets

lemma next (h : Mirrors ttl s r) {use use' : CacheUse} (hsame : use.Same use')
    (hid : ∀ visit b, use = .call visit (.put b) → IntRange.i64.contains b.id = true) :
    Mirrors ttl (s.next use) (r.next ttl use') := by
  cases hsame with
  | call visit visit' c =>
    cases c with
    | put b => exact h.call_put visit visit' (hid visit b rfl)
    | get f t => exact h.call_get visit visit' f t
    | delete id => exact h.call_delete visit visit' id
    | ping => exact h.noted (SharedCache.answer_ping h.healthy ttl visit' r.now).2
  | wait ms => exact h.wait ms

lemma after (h : Mirrors ttl s r) {uses uses' : List CacheUse}
    (hsame : List.Forall₂ CacheUse.Same uses uses')
    (hids : ∀ b, WasPut uses b → IntRange.i64.contains b.id = true) :
    Mirrors ttl (s.after uses) (r.after ttl uses') := by
  induction hsame generalizing s r with
  | nil => exact h
  | cons huse _ ih =>
    refine ih (h.next huse fun visit b he => hids b ⟨visit, ?_⟩) fun b ⟨visit, hb⟩ => ?_
    · rw [he]
      exact List.mem_cons_self
    · exact hids b ⟨visit, List.mem_cons_of_mem _ hb⟩

end Mirrors

/-- After the same uses both caches can answer a call in the same ways, and no key of the server has
both a payload and an index set. -/
theorem SharedCache.agrees_with_local (ttl start start' : Nat) {uses uses' : List CacheUse}
    (hsame : List.Forall₂ CacheUse.Same uses uses')
    (hids : ∀ b, WasPut uses b → IntRange.i64.contains b.id = true) :
    let s := (TimedCache.fresh (1000 * ttl) start).after uses
    let r := (TimedServer.fresh start').after ttl uses'
    (∀ c, {a | ∃ visit, (s.cache.answer visit s.now c).1 = a} =
      {a | ∃ visit, (SharedCache.answer ttl visit r.now c r.server).1 = a}) ∧
    ∀ key, r.server.strings.get? key = none ∨ r.server.sets.get? key = none :=
  have h := (Mirrors.fresh ttl start start').after hsame hids
  ⟨h.results, h.parted.string_or_set_none⟩

theorem SharedCache.agrees_with_local_put_wait :
    let uses : List CacheUse := [.call (.first 0) (.put (.sample 7)), .wait 999]
    let r := (TimedServer.fresh 5).after 1 uses
    List.Forall₂ CacheUse.Same uses uses ∧
    (∀ b, WasPut uses b → IntRange.i64.contains b.id = true) ∧
    {a | ∃ visit, (SharedCache.answer 1 visit r.now (.delete 7) r.server).1 = a} = {.ok ()} := by
  intro uses r
  have hsame : List.Forall₂ CacheUse.Same uses uses := .cons (.call ..) (.cons (.wait 999) .nil)
  have hids : ∀ b, WasPut uses b → IntRange.i64.contains b.id = true := by
    rintro b ⟨visit, hb⟩
    simp only [uses, List.mem_cons, List.not_mem_nil, or_false, CacheUse.call.injEq,
      CacheCall.put.injEq, reduceCtorEq] at hb
    rw [hb.2]
    decide
  refine ⟨hsame, hids, ?_⟩
  have hlive : LocalCache.live? ((LocalCache.mk 1000 [] []).put (.sample 7) 0) 7 999 =
      some (Banner.sample 7).encode := by
    rw [LocalCache.live?_put]
    rfl
  have hfound : ∀ visit, (LocalCache.answer visit 999 (.delete 7)
      ((LocalCache.mk 1000 [] []).put (.sample 7) 0)).1 = .ok () := fun visit => by
    simp only [LocalCache.answer, LocalCache.delete_eq, hlive, Option.isSome_some, if_true]
  refine ((SharedCache.agrees_with_local 1 0 5 hsame hids).1 (.delete 7)).symm.trans ?_
  ext a
  constructor
  · rintro ⟨visit, rfl⟩
    exact hfound visit
  · rintro rfl
    exact ⟨.first 0, hfound _⟩

end Billboard
