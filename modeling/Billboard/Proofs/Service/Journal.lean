import Billboard.Proofs.Service.Faltering
import Billboard.Proofs.Service.InMemory

/-! What was performed accounts for every row and for every banner that was shown. -/

namespace Billboard

open Banner (Draft WellPlaced normalTags)
open Clock (Timestamp)

structure Entry where
  operation : Operation
  time : Timestamp
  result : operation.Result
  before : World Catalog LocalCache
  after : World Catalog LocalCache

namespace Entry

def created? (e : Entry) : Option Banner := e.operation.created? e.result

def effect (e : Entry) (c : Catalog) : Catalog := e.operation.effect e.time e.result c

def Made (e : Entry) : Prop := ∃ failure, Performs (Catalog.faltering failure)
  LocalCache.faltering e.time e.before e.operation e.result e.after

def Dates (e : Entry) (b : Banner) : Prop :=
  (∃ c, e.created? = some c ∧ c.id = b.id) ∧ b.createdAt = e.time.toMicros

lemma Dates.of_eq {e : Entry} {b b' : Banner} (h : e.Dates b) (hid : b'.id = b.id)
    (hcreated : b'.createdAt = b.createdAt) : e.Dates b' := by
  rw [Dates, hid, hcreated]
  exact h

end Entry

/-- What can come of operations one after another. No time has to pass: the clock of the cache shows
anything. -/
inductive Journal (start : World Catalog LocalCache) : List Entry → World Catalog LocalCache → Prop
  | nil : Journal start [] start
  | perform {es s} (h : Journal start es s) (failure : Option StoreError) {o : Operation} {time r t}
      (hr : (r, t) ∈ o.action.outcomes
        (World.answers (Catalog.faltering failure) LocalCache.faltering time) s) :
      Journal start (⟨o, time, r, s, t⟩ :: es) t
  | shutdown {es s} (h : Journal start es s) (failure : Option StoreError) {time t}
      (ht : ((), t) ∈ Service.shutdown.outcomes
        (World.answers (Catalog.faltering failure) LocalCache.faltering time) s) :
      Journal start es t

namespace Journal

variable {ttl now : Nat} {es : List Entry} {s t : World Catalog LocalCache}

def created (es : List Entry) : List Banner := es.filterMap Entry.created?

structure Stored (es : List Entry) (next : Int) (b : Banner) : Prop where
  placed : WellPlaced b.feature b.tags
  positive : 1 ≤ b.id
  below : b.id < next
  dated : ∃ e ∈ es, e.Dates b
  proper : (∀ e ∈ es, e.time.Proper) → b.createdAt.Proper ∧ b.updatedAt.Proper

lemma Stored.mono {next next' : Int} {b : Banner} (h : Stored es next b) (hn : next ≤ next')
    (e : Entry) : Stored (e :: es) next' b where
  placed := h.placed
  positive := h.positive
  below := h.below.trans_le hn
  dated := by
    obtain ⟨e', he', hd⟩ := h.dated
    exact ⟨e', List.mem_cons_of_mem _ he', hd⟩
  proper hp := h.proper (List.forall_mem_cons.mp hp).2

structure Counts (bs : List Banner) (next : Int) : Prop where
  next_eq : next = bs.length + 1
  descending : bs.Pairwise fun newer older => older.id < newer.id
  below : ∀ b ∈ bs, b.id < next

lemma Counts.cons {bs : List Banner} {next : Int} (h : Counts bs next) {b : Banner}
    (hb : b.id = next) : Counts (b :: bs) (next + 1) where
  next_eq := by
    rw [h.next_eq, List.length_cons]
    rfl
  descending := List.pairwise_cons.mpr ⟨hb ▸ h.below, h.descending⟩
  below := List.forall_mem_cons.mpr
    ⟨hb ▸ Int.lt_succ _, fun a ha => (h.below a ha).trans (Int.lt_succ _)⟩

structure Sound (es : List Entry) (s : World Catalog LocalCache) : Prop where
  store : s.store = es.foldr Entry.effect {}
  counts : Counts (created es) s.store.nextId
  rows : ∀ b ∈ s.store.rows, Stored es s.store.nextId b
  kept : s.cache.KeepsOnly {b | Stored es s.store.nextId b}

lemma sound_fresh (ttl now : Nat) : Sound [] (World.fresh ttl now) where
  store := rfl
  counts := ⟨rfl, .nil, nofun⟩
  rows := nofun
  kept := nofun

section

variable {e : Entry}

lemma Sound.counts_made (hs : Sound es e.before) (h : e.Made) :
    Counts (created (e :: es)) e.after.store.nextId := by
  obtain ⟨failure, h⟩ := h
  have hnext := h.nextId_eq
  cases hc : e.created? with
  | none =>
    have hnone : e.operation.created? e.result = none := hc
    rw [hnone, Option.toList_none, List.length_nil, Int.natCast_zero, Int.add_zero] at hnext
    rw [created, List.filterMap_cons_none hc, hnext]
    exact hs.counts
  | some b =>
    have hsome : e.operation.created? e.result = some b := hc
    rw [hsome, Option.toList_some, List.length_singleton] at hnext
    rw [created, List.filterMap_cons_some hc, hnext]
    exact hs.counts.cons (h.of_created hc).1

lemma Sound.stored_new (hs : Sound es e.before) (h : e.Made) {b : Banner}
    (hb : e.created? = some b) : Stored (e :: es) e.after.store.nextId b := by
  have hcounts := hs.counts_made h
  obtain ⟨failure, h⟩ := h
  obtain ⟨hid, hplaced, d, -, hdraft⟩ := h.of_created hb
  have hcreated : b.createdAt = e.time.toMicros := congrArg Banner.createdAt hdraft
  have hupdated : b.updatedAt = e.time.toMicros := congrArg Banner.updatedAt hdraft
  refine ⟨hplaced, ?_, hcounts.below b ?_, ⟨e, List.mem_cons_self, ⟨b, hb, rfl⟩, hcreated⟩,
    fun hp => ?_⟩
  · rw [hid, hs.counts.next_eq]
    omega
  · rw [created, List.filterMap_cons_some hb]
    exact List.mem_cons_self
  · rw [hcreated, hupdated]
    have htime := (hp e List.mem_cons_self).toMicros
    exact ⟨htime, htime⟩

lemma Stored.made {b : Banner} (hb : Stored es e.before.store.nextId b) (h : e.Made) :
    Stored (e :: es) e.after.store.nextId b := by
  obtain ⟨failure, h⟩ := h
  refine hb.mono ?_ e
  rw [h.nextId_eq]
  omega

lemma Sound.made (hs : Sound es e.before) (hm : e.Made) : Sound (e :: es) e.after := by
  obtain ⟨failure, h⟩ := id hm
  have hold : ∀ b, Stored es e.before.store.nextId b →
      Stored (e :: es) e.after.store.nextId b := fun b hb => hb.made hm
  refine ⟨?_, hs.counts_made hm, fun b hb => ?_, ?_⟩
  · rw [h.store_eq_effect, hs.store]
    rfl
  · rcases h.mem_rows hb with hb | hb | ⟨old, ho, hid, hcreated, hupdated, hplaced⟩
    · exact hold b (hs.rows b hb)
    · exact hs.stored_new hm hb
    · have hrow := hold old (hs.rows old ho)
      refine ⟨hplaced, hid ▸ hrow.positive, hid ▸ hrow.below, ?_, fun hp => ?_⟩
      · obtain ⟨e', he', hd⟩ := hrow.dated
        exact ⟨e', he', hd.of_eq hid hcreated⟩
      · rw [hcreated, hupdated]
        exact ⟨(hrow.proper hp).1, (hp e List.mem_cons_self).toMicros⟩
  · exact h.keepsOnly (hs.kept.mono hold) (fun b hb => hold b (hs.rows b hb))
      fun b hb => hs.stored_new hm hb

lemma Sound.returned (hs : Sound es e.before) (hm : e.Made) {b : Banner}
    (hb : e.operation.Returns b e.result) :
    WellPlaced b.feature b.tags ∧ 1 ≤ b.id ∧ b.id < e.after.store.nextId ∧
      ((e.operation.Uncached ∨ ∀ e' ∈ e :: es, e'.time.Proper) → ∃ e' ∈ e :: es, e'.Dates b) := by
  obtain ⟨failure, h⟩ := id hm
  have hknown : Stored (e :: es) e.after.store.nextId b → WellPlaced b.feature b.tags ∧
      1 ≤ b.id ∧ b.id < e.after.store.nextId ∧
      ((e.operation.Uncached ∨ ∀ e' ∈ e :: es, e'.time.Proper) → ∃ e' ∈ e :: es, e'.Dates b) :=
    fun hstored => ⟨hstored.placed, hstored.positive, hstored.below, fun _ => hstored.dated⟩
  rcases h.returned hs.kept hb with hnew | hrow | ⟨hcached, d, hd, hdecode⟩
  · exact hknown (hs.stored_new hm hnew)
  · exact hknown ((hs.rows b hrow).made hm)
  · -- the content may be read otherwise than it was written, but the fields around it are not
    have hkept : Stored (e :: es) e.after.store.nextId d := hd.made hm
    have hhead := Banner.head_of_decode hdecode
    simp only [Banner.head, Prod.mk.injEq] at hhead
    obtain ⟨hid, hfeature, htags, -⟩ := hhead
    rw [hid, hfeature, htags]
    refine ⟨hkept.placed, hkept.positive, hkept.below, fun hp => ?_⟩
    obtain ⟨hcreated, hupdated⟩ := hkept.proper (hp.resolve_left hcached)
    have hsame : b.createdAt = _ :=
      congrArg Banner.createdAt (Banner.eq_of_decode hcreated hupdated hdecode)
    obtain ⟨e', he', hdates⟩ := hkept.dated
    exact ⟨e', he', hdates.of_eq hid hsame⟩

end

lemma eq_of_shutdown {failure : Option StoreError} {time : Timestamp}
    (h : ((), t) ∈ Service.shutdown.outcomes
      (World.answers (Catalog.faltering failure) LocalCache.faltering time) s) : t = s := by
  rw [Service.shutdown, World.mem_outcomes_store] at h
  cases h
  cases failure <;> rfl

lemma sound (h : Journal (World.fresh ttl now) es s) : Sound es s := by
  induction h with
  | nil => exact sound_fresh ttl now
  | @perform es s h failure o time r t hr ih =>
    have hmade : Entry.Made ⟨o, time, r, s, t⟩ :=
      ⟨failure, Service.mem_outcomes_iff_performs.mp hr⟩
    exact Sound.made (e := ⟨o, time, r, s, t⟩) ih hmade
  | shutdown _ failure ht ih =>
    rw [eq_of_shutdown ht]
    exact ih

lemma at_entry (h : Journal (World.fresh ttl now) es s) {e : Entry} (he : e ∈ es) :
    ∃ older, e :: older ⊆ es ∧ Sound older e.before ∧ e.Made := by
  induction h with
  | nil => cases he
  | @perform es s h failure o time r t hr ih =>
    cases he with
    | head =>
      exact ⟨es, List.Subset.refl _, h.sound, failure, Service.mem_outcomes_iff_performs.mp hr⟩
    | tail _ he =>
      obtain ⟨older, hsub, hentry⟩ := ih he
      exact ⟨older, List.subset_cons_of_subset _ hsub, hentry⟩
  | shutdown _ failure ht ih => exact ih he

/-- Whichever calls fail, the catalog is what the successful writes make of an empty one, and a
write that fails changes nothing. -/
theorem accounts_for_catalog (h : Journal (World.fresh ttl now) es s) :
    s.store = es.foldr Entry.effect {} ∧
    (∀ e ∈ es, ∀ b, e.created? = some b → ∃ d, e.operation = .create d ∧
      b = .ofDraft b.id { d with tags := normalTags d.tags } e.time.toMicros e.time.toMicros) ∧
    (created es).Pairwise (fun newer older => older.id < newer.id) ∧
    s.store.nextId = (created es).length + 1 ∧
    (∀ e ∈ es, e.operation.Refused e.result → e.after = e.before) ∧
    (∀ b ∈ s.store.rows, WellPlaced b.feature b.tags ∧ 1 ≤ b.id ∧ b.id < s.store.nextId ∧
      ∃ e ∈ es, e.Dates b) ∧
    (∀ e ∈ es, ∀ b, e.operation.Returns b e.result → WellPlaced b.feature b.tags ∧ 1 ≤ b.id ∧
      b.id < e.after.store.nextId ∧
      ((e.operation.Uncached ∨ ∀ e' ∈ es, e'.time.Proper) → ∃ e' ∈ es, e'.Dates b)) := by
  have hsound := h.sound
  refine ⟨hsound.store, ?_, hsound.counts.descending, hsound.counts.next_eq, ?_, fun b hb => ?_, ?_⟩
  · intro e he b hb
    obtain ⟨older, -, -, failure, hperforms⟩ := h.at_entry he
    exact (hperforms.of_created hb).2.2
  · intro e he hr
    obtain ⟨older, -, -, failure, hperforms⟩ := h.at_entry he
    exact hperforms.eq_of_refused hr
  · have hrow := hsound.rows b hb
    exact ⟨hrow.placed, hrow.positive, hrow.below, hrow.dated⟩
  · intro e he b hb
    obtain ⟨older, hsub, hbefore, hmade⟩ := h.at_entry he
    obtain ⟨hplaced, hpos, hbelow, hdated⟩ := hbefore.returned hmade hb
    refine ⟨hplaced, hpos, hbelow, fun hp => ?_⟩
    obtain ⟨e', he', hdates⟩ := hdated (hp.imp_right fun hp e' he' => hp e' (hsub he'))
    exact ⟨e', hsub he', hdates⟩

theorem accounts_for_catalog_create_update :
    ∃ es s, Journal (World.fresh 10 0) es s ∧ es.length = 2 ∧
      s.store = ⟨[.ofDraft 1 .sample ⟨5, 1000⟩ ⟨5, 1000⟩], 2⟩ ∧
      ∀ b ∈ s.store.rows, WellPlaced b.feature b.tags ∧ ∃ e ∈ es, e.Dates b := by
  let b := Banner.ofDraft 1 .sample ⟨5, 1000⟩ ⟨5, 1000⟩
  have created : Journal (World.fresh 10 0)
      [⟨.create .sample, ⟨5, 1234⟩, .ok b, World.fresh 10 0, _⟩] _ := .perform .nil none
    (Service.mem_outcomes_iff_performs.mpr
      (.create Banner.Draft.check_sample rfl (.inr ⟨.backend "", rfl⟩)))
  have hrefused : ∀ s, Performs (Catalog.faltering (some (.connection ""))) LocalCache.faltering
      ⟨6, 0⟩ s (.update 1 .sample) (.error (.persistence (.connection ""))) s := fun _ =>
    .update Banner.Draft.check_sample
  have refused := created.perform _ (Service.mem_outcomes_iff_performs.mpr (hrefused _))
  obtain ⟨hstore, -, -, -, -, hrows, -⟩ := accounts_for_catalog refused
  exact ⟨_, _, refused, rfl, hstore, fun b hb => ⟨(hrows b hb).1, (hrows b hb).2.2.2⟩⟩

end Journal

end Billboard
