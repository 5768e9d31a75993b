import Billboard.Proofs.Service.InMemory

/-! A refresh made again changes nothing but caching times. -/

namespace Billboard

open Clock (Timestamp)

namespace LocalCache

/-- The second cache has the payloads of the first one, with their caching times, and its index
sets. -/
structure Same (c d : LocalCache) : Prop where
  ttl : d.ttl = c.ttl
  payloads : ∀ key, d.payloads.get? key = c.payloads.get? key
  members : ∀ key id, id ∈ d.members key ↔ id ∈ c.members key

lemma Same.putAll_perm (c : LocalCache) {bs bs' : List Banner} (now : Nat)
    (hid : bs.Pairwise fun a b => a.id ≠ b.id) (hp : bs'.Perm bs) :
    Same (c.putAll bs now) (c.putAll bs' now) where
  ttl := by rw [putAll_ttl, putAll_ttl]
  payloads key := by
    by_cases hkey : ∃ b ∈ bs, Banner.payloadKey b.id = key
    · obtain ⟨b, hb, rfl⟩ := hkey
      have hid' : bs'.Pairwise fun a b => a.id ≠ b.id := (hp.pairwise_iff Ne.symm).mpr hid
      have h : (c.putAll bs now).kept? b.id = some ⟨b.encode, now, c.ttl⟩ :=
        kept?_putAll_of_mem hid hb
      exact (kept?_putAll_of_mem hid' (hp.mem_iff.mpr hb)).trans h.symm
    · push Not at hkey
      rw [← putFrom_const c bs now 0, ← putFrom_const c bs' now 0, get?_payloads_putFrom hkey,
        get?_payloads_putFrom]
      intro b hb
      exact hkey b (hp.mem_iff.mp hb)
  members key id := by
    simp only [mem_members_putAll, hp.mem_iff]

/-- The pairs for which the banner of an id can be read at a time. -/
def readable (c : LocalCache) (now : Nat) (id : Int) : Set (Int × Int) :=
  {p | id ∈ c.indexMembers p.1 p.2 ∧ (c.served? p.1 p.2 now id).isSome}

lemma readable_congr {c d : LocalCache} {time now : Nat} {id : Int}
    (hmembers : ∀ key, id ∈ d.members key ↔ id ∈ c.members key)
    (hlive : d.live? id now = c.live? id time) : d.readable now id = c.readable time id := by
  ext ⟨f, t⟩
  simp only [readable, indexMembers, served?, Set.mem_ofPred_eq, hmembers, hlive]

lemma live?_of_kept_at {c : LocalCache} {id : Int} {payload : ByteArray} {now ttl : Nat}
    (h : c.kept? id = some ⟨payload, now, ttl⟩) :
    c.live? id now = if ttl = 0 then none else some payload := by
  unfold kept? at h
  unfold live?
  rw [h]
  simp [CacheEntry.expired]

end LocalCache

def Turn.Writes : Turn → Prop
  | .perform (.create _) _ | .perform (.update ..) _ | .perform (.delete _) _ => True
  | _ => False

namespace World

variable {s t u v : World Catalog LocalCache} {time : Timestamp}

def Indexed (s : World Catalog LocalCache) : Prop :=
  ∀ b ∈ s.store.rows, ∀ key ∈ b.indexKeys, b.id ∈ s.cache.members key

lemma indexed_refresh (s : World Catalog LocalCache) (time : Timestamp) :
    (s.after time .refresh).Indexed := by
  intro b hb key hkey
  exact LocalCache.mem_members_putAll.mpr (.inr ⟨b, Catalog.mem_query_all.mpr hb, hkey, rfl⟩)

structure Unwritten (s t : World Catalog LocalCache) : Prop where
  store : t.store = s.store
  now : s.now ≤ t.now
  ttl : t.cache.ttl = s.cache.ttl
  members : ∀ key id, id ∈ t.cache.members key ↔ id ∈ s.cache.members key
  foreign : ∀ id, (∀ b ∈ s.store.rows, b.id ≠ id) → t.cache.kept? id = s.cache.kept? id ∨
    (t.cache.kept? id = none ∧ ∃ e, s.cache.kept? id = some e ∧ e.expired t.now = true)

namespace Unwritten

lemma refl (s : World Catalog LocalCache) : Unwritten s s :=
  ⟨rfl, le_rfl, rfl, fun _ _ => .rfl, fun _ _ => .inl rfl⟩

lemma wait (h : Unwritten s t) (ms : Nat) : Unwritten s { t with now := t.now + ms } where
  store := h.store
  now := h.now.trans (Nat.le_add_right _ _)
  ttl := h.ttl
  members := h.members
  foreign id hid := by
    refine (h.foreign id hid).imp_right fun ⟨hnone, e, he, hexpired⟩ => ⟨hnone, e, he, ?_⟩
    exact CacheEntry.expired_mono hexpired (Nat.le_add_right _ _)

lemma swept (h : Unwritten s t) (hu : Swept t u) : Unwritten s u where
  store := hu.store.trans h.store
  now := h.now.trans_eq hu.now.symm
  ttl := hu.cache.ttl.trans h.ttl
  members key id := by
    rw [← h.members, LocalCache.members, hu.cache.index, LocalCache.members]
  foreign id hid := by
    rw [hu.now]
    rcases hu.cache.kept id with hsame | ⟨hnone, e, he, hexpired⟩
    · rw [hsame]
      exact h.foreign id hid
    · rcases h.foreign id hid with hsame | ⟨hnone', -⟩
      · exact .inr ⟨hnone, e, hsame ▸ he, hexpired⟩
      · cases hnone'.symm.trans he

lemma refresh (h : Unwritten s t) (hs : s.Indexed) (time : Timestamp) :
    Unwritten s (t.after time .refresh) where
  store := h.store
  now := h.now
  ttl := (LocalCache.putAll_ttl ..).trans h.ttl
  members key id := by
    rw [World.after, LocalCache.mem_members_putAll, h.members]
    apply or_iff_left_of_imp
    rintro ⟨b, hb, hkey, rfl⟩
    rw [Catalog.mem_query_all, h.store] at hb
    exact hs b hb key hkey
  foreign id hid := by
    have hforeign : ∀ b ∈ t.store.query {}, b.id ≠ id := by
      intro b hb
      rw [Catalog.mem_query_all, h.store] at hb
      exact hid b hb
    rw [World.after, LocalCache.kept?_putAll_of_notMem hforeign]
    exact h.foreign id hid

lemma perform (h : Unwritten s t) (hs : s.Indexed) {o : Operation} {r : o.Result}
    (hw : ¬ (Turn.perform o time).Writes)
    (hr : Performs Catalog.model LocalCache.overTime time t o r u) : Unwritten s u := by
  have hu := hr.after
  cases o with
  | create d => exact (hw trivial).elim
  | update id d => exact (hw trivial).elim
  | delete id => exact (hw trivial).elim
  | refresh => exact (h.refresh hs time).swept hu
  | list r => exact h.swept hu
  | pickOne f u isAdmin lastRevision => exact h.swept hu

lemma session (hs : s.Indexed) {turns : List Turn} (hw : ∀ turn ∈ turns, ¬ turn.Writes)
    (h : Session Catalog.model LocalCache.overTime s turns t) : Unwritten s t := by
  induction h with
  | nil => exact .refl s
  | wait _ ms ih => exact (ih fun turn hturn => hw turn (List.mem_cons_of_mem _ hturn)).wait ms
  | perform _ hr ih =>
    have hbefore := ih fun turn hturn => hw turn (List.mem_cons_of_mem _ hturn)
    exact hbefore.perform hs (hw _ List.mem_cons_self) (Service.mem_outcomes_iff_performs.mp hr)

end Unwritten

lemma outcomes_refresh (s : World Catalog LocalCache) (time : Timestamp) :
    Service.refresh.outcomes (answers Catalog.model LocalCache.overTime time) s =
      {(.ok s.store.rows.length, s.after time .refresh)} := by
  ext ⟨r, t⟩
  rw [Service.performs_refresh, performs_refresh, s.store.query_all_perm.length_eq]
  exact Prod.mk_inj.symm

/-- Banners with different ids may be put in any order. A refresh after another one, with no write
in between, leaves all that can be read as it is. -/
theorem refresh_again :
    (∀ (s : World Catalog LocalCache) (time : Timestamp) (bs bs' : List Banner),
      (bs.Pairwise fun a b => a.id ≠ b.id) → bs'.Perm bs →
        ∃ c d, LocalCache.Same c d ∧
          (Service.putAll bs).outcomes (answers Catalog.model LocalCache.overTime time) s =
            {(.ok (), { s with cache := c })} ∧
          (Service.putAll bs').outcomes (answers Catalog.model LocalCache.overTime time) s =
            {(.ok (), { s with cache := d })}) ∧
    ∀ (s : World Catalog LocalCache) (time : Timestamp), s.store.Keyed →
      ∃ t, Service.refresh.outcomes (answers Catalog.model LocalCache.overTime time) s =
          {(.ok s.store.rows.length, t)} ∧
        ∀ turns u later, Session Catalog.model LocalCache.overTime t turns u →
          (∀ turn ∈ turns, ¬ turn.Writes) →
          ∃ v, Service.refresh.outcomes (answers Catalog.model LocalCache.overTime later) u =
              {(.ok s.store.rows.length, v)} ∧
            v.store = s.store ∧ v.now = u.now ∧
            (∀ key id, id ∈ v.cache.members key ↔ id ∈ t.cache.members key) ∧
            (∀ b ∈ s.store.rows,
              t.cache.kept? b.id = some ⟨b.encode, t.now, s.cache.ttl⟩ ∧
              v.cache.kept? b.id = some ⟨b.encode, v.now, s.cache.ttl⟩ ∧
              v.cache.readable v.now b.id = t.cache.readable t.now b.id) ∧
            ∀ id, (∀ b ∈ s.store.rows, b.id ≠ id) →
              (v.cache.kept? id = t.cache.kept? id ∨ (v.cache.kept? id = none ∧
                ∃ e, t.cache.kept? id = some e ∧ e.expired v.now = true)) ∧
              v.cache.readable v.now id = t.cache.readable v.now id := by
  constructor
  · intro s time bs bs' hid hp
    refine ⟨_, _, LocalCache.Same.putAll_perm s.cache s.now hid hp, ?_, ?_⟩
    · ext ⟨r, t⟩
      exact mem_outcomes_putAll.trans Prod.mk_inj.symm
    · ext ⟨r, t⟩
      exact mem_outcomes_putAll.trans Prod.mk_inj.symm
  · intro s time hkeyed
    refine ⟨_, outcomes_refresh s time, fun turns u later hsession hw => ?_⟩
    -- the first refresh has put every row into its index sets, so none of them grows any more
    have hindexed := s.indexed_refresh time
    have hu : Unwritten (s.after time .refresh) u := .session hindexed hw hsession
    have hv := hu.refresh hindexed later
    have hstore : u.store = s.store := hu.store
    have hlength : u.store.rows.length = s.store.rows.length := by rw [hstore]
    refine ⟨u.after later .refresh, hlength ▸ outcomes_refresh u later, hstore, rfl, hv.members,
      fun b hb => ?_, fun id hid => ⟨hv.foreign id hid, ?_⟩⟩
    · have hfirst := kept?_refresh hkeyed hb time
      have hsecond : (u.after later .refresh).cache.kept? b.id =
          some ⟨b.encode, u.now, s.cache.ttl⟩ := by
        rw [kept?_refresh (hstore ▸ hkeyed) (hstore ▸ hb) later, hu.ttl]
        rw [World.after, LocalCache.putAll_ttl]
      refine ⟨hfirst, hsecond, LocalCache.readable_congr (hv.members · b.id) ?_⟩
      exact (LocalCache.live?_of_kept_at hsecond).trans
        (LocalCache.live?_of_kept_at hfirst).symm
    · apply LocalCache.readable_congr (hv.members · id)
      exact LocalCache.live?_of_kept (hv.foreign id hid) le_rfl

theorem refresh_again_later :
    let cache : LocalCache := ⟨5, [(Banner.payloadKey 7, ⟨(Banner.sample 7).encode, 0, 3⟩)],
      [(Banner.indexKey 1 2, [7])]⟩
    let s : World Catalog LocalCache := ⟨⟨[.sample 2, .sample 1], 3⟩, cache, 0⟩
    s.store.Keyed ∧ ∀ time,
      (∃ c d, LocalCache.Same c d ∧
        (Service.putAll [.sample 2, .sample 1]).outcomes
          (answers Catalog.model LocalCache.overTime time) s = {(.ok (), { s with cache := c })} ∧
        (Service.putAll [.sample 1, .sample 2]).outcomes
          (answers Catalog.model LocalCache.overTime time) s = {(.ok (), { s with cache := d })}) ∧
      ∃ t v, Service.refresh.outcomes (answers Catalog.model LocalCache.overTime time) s =
          {(.ok 2, t)} ∧
        Service.refresh.outcomes (answers Catalog.model LocalCache.overTime time)
          { t with now := t.now + 4 } = {(.ok 2, v)} ∧
        v.cache.readable v.now 1 = t.cache.readable t.now 1 ∧
        v.cache.readable v.now 7 = t.cache.readable v.now 7 := by
  intro cache s
  have hkeyed : s.store.Keyed := by simp [s, Catalog.Keyed, Banner.sample]
  refine ⟨hkeyed, fun time => ⟨?_, ?_⟩⟩
  · exact refresh_again.1 s time [.sample 2, .sample 1] [.sample 1, .sample 2] hkeyed (by decide)
  · obtain ⟨t, ht, hagain⟩ := refresh_again.2 s time hkeyed
    obtain ⟨v, hv, -, -, -, hrows, hforeign⟩ :=
      hagain [.wait 4] _ time (.wait .nil 4) (by simp [Turn.Writes])
    obtain ⟨-, -, hrow⟩ := hrows (.sample 1) (by decide)
    exact ⟨t, v, ht, hv, hrow, (hforeign 7 (by decide)).2⟩

end World

end Billboard
