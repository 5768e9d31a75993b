import Billboard.Proofs.Cache.Local

/-! Uses of a cache over time. A read sweeps away expired payloads; no later call can tell. -/

namespace Billboard

inductive CacheUse where
  | call (visit : Visit) (c : CacheCall)
  | wait (ms : Nat)

structure TimedCache where
  cache : LocalCache
  now : Nat

namespace TimedCache

def fresh (ttl start : Nat) : TimedCache := ⟨{ ttl := ttl }, start⟩

def next (s : TimedCache) : CacheUse → TimedCache
  | .call visit c => { s with cache := (s.cache.answer visit s.now c).2 }
  | .wait ms => { s with now := s.now + ms }

def after (s : TimedCache) (uses : List CacheUse) : TimedCache := uses.foldl next s

def replies (s : TimedCache) : List CacheUse → List ((c : CacheCall) × c.Answer)
  | [] => []
  | .call visit c :: rest =>
    ⟨c, (s.cache.answer visit s.now c).1⟩ :: (s.next (.call visit c)).replies rest
  | .wait ms :: rest => (s.next (.wait ms)).replies rest

end TimedCache

/-- No call tells the two caches apart from a time on. -/
structure LocalCache.Alike (now : Nat) (c d : LocalCache) : Prop where
  ttl : d.ttl = c.ttl
  index : d.index = c.index
  live : ∀ later, now ≤ later → ∀ id, d.live? id later = c.live? id later

namespace LocalCache

lemma Swept.alike {now : Nat} {c d : LocalCache} (h : Swept now c d) : Alike now c d :=
  ⟨h.ttl, h.index, fun _ hl id => h.live? hl id⟩

lemma live?_put (c : LocalCache) (b : Banner) (now : Nat) (id : Int) (later : Nat) :
    (c.put b now).live? id later =
      if b.id = id then (if c.ttl ≤ later - now then none else some b.encode)
      else c.live? id later := by
  have he := c.kept?_put b now id
  unfold kept? at he
  unfold live?
  rw [he]
  by_cases hid : b.id = id
  · simp [hid, CacheEntry.expired]
  · simp [hid]

lemma live?_delete (c : LocalCache) (id : Int) (now : Nat) (j : Int) (later : Nat) :
    (c.delete id now).2.live? j later = if id = j then none else c.live? j later := by
  have he := c.kept?_delete id now j
  unfold kept? at he
  unfold live?
  rw [he]
  by_cases hid : id = j <;> simp [hid]

lemma foldl_enlist_index {c d : LocalCache} (id : Int) (keys : List String)
    (h : d.index = c.index) : (keys.foldl (fun c key => c.enlist id key) d).index =
      (keys.foldl (fun c key => c.enlist id key) c).index := by
  induction keys generalizing c d with
  | nil => exact h
  | cons key keys ih =>
    apply ih
    simp only [enlist, members, h]
    rfl

lemma Alike.served? {now : Nat} {c d : LocalCache} (h : Alike now c d) (f t : Int) :
    d.served? f t now = c.served? f t now := by
  funext id
  rw [LocalCache.served?, LocalCache.served?, h.live now (Nat.le_refl now)]

lemma Alike.call {now : Nat} {c d : LocalCache} (h : Alike now c d) (visit : Visit)
    (q : CacheCall) : (d.answer visit now q).1 = (c.answer visit now q).1 ∧
      Alike now (c.answer visit now q).2 (d.answer visit now q).2 := by
  cases q with
  | put b =>
    refine ⟨rfl, by simp [answer, h.ttl], ?_, fun later hl id => ?_⟩
    · exact foldl_enlist_index b.id b.indexKeys h.index
    · simp only [answer, live?_put, h.ttl, h.live later hl id]
  | get f t =>
    have hc := (swept_get c visit f t now).alike
    have hd := (swept_get d visit f t now).alike
    refine ⟨?_, ?_⟩
    · simp only [answer, get_fst, indexMembers, members, h.index, h.served?]
    · refine ⟨hd.ttl.trans (h.ttl.trans hc.ttl.symm), hd.index.trans (h.index.trans hc.index.symm),
        fun later hl id => ?_⟩
      exact (hd.live later hl id).trans ((h.live later hl id).trans (hc.live later hl id).symm)
  | delete id =>
    refine ⟨?_, by simp [answer, h.ttl], by simp [answer, h.index], fun later hl j => ?_⟩
    · simp only [answer, delete_eq, h.live now (Nat.le_refl now)]
    · simp only [answer, live?_delete, h.live later hl j]
  | ping => exact ⟨rfl, h⟩

lemma Alike.later {now later : Nat} {c d : LocalCache} (h : Alike now c d) (hl : now ≤ later) :
    Alike later c d :=
  ⟨h.ttl, h.index, fun time ht id => h.live time (hl.trans ht) id⟩

lemma Alike.replies {now : Nat} {c d : LocalCache} (h : Alike now c d) (uses : List CacheUse) :
    (TimedCache.mk d now).replies uses = (TimedCache.mk c now).replies uses := by
  induction uses generalizing c d now with
  | nil => rfl
  | cons use uses ih =>
    cases use with
    | call visit call =>
      obtain ⟨ha, hs⟩ := h.call visit call
      simp only [TimedCache.replies, TimedCache.next, ha]
      exact congrArg _ (ih hs)
    | wait ms => exact ih (h.later (Nat.le_add_right now ms))

end LocalCache

end Billboard
