import Billboard.Api.Bodies
import Billboard.Proofs.Banner.RoundTrip
import Billboard.Store.Catalog
import Mathlib.Data.List.Sort

namespace Billboard.Banner

open Json (Exact)
open Text (IntRange)
open Clock (Timestamp)

lemma mem_dropRepeats {tags : List Int} {t : Int} : t ∈ dropRepeats tags ↔ t ∈ tags := by
  fun_induction dropRepeats tags with
  | case1 => rfl
  | case2 a => rfl
  | case3 a rest ih =>
    rw [ih, List.mem_cons, List.mem_cons, List.mem_cons, or_self_left]
  | case4 a b rest hne ih => rw [List.mem_cons, List.mem_cons, ih]

lemma ascending_dropRepeats {tags : List Int} (h : tags.Pairwise (· ≤ ·)) :
    (dropRepeats tags).Pairwise (· < ·) := by
  fun_induction dropRepeats tags with
  | case1 => exact .nil
  | case2 a => exact List.pairwise_singleton _ _
  | case3 a rest ih => exact ih (List.pairwise_cons.mp h).2
  | case4 a b rest hne ih =>
    obtain ⟨ha, hrest⟩ := List.pairwise_cons.mp h
    refine List.pairwise_cons.mpr ⟨fun t ht => ?_, ih hrest⟩
    have hab : a < b := lt_of_le_of_ne (ha b List.mem_cons_self) hne
    rcases List.mem_cons.mp (mem_dropRepeats.mp ht) with rfl | ht
    · exact hab
    · exact hab.trans_le ((List.pairwise_cons.mp hrest).1 t ht)

lemma mem_normalTags {tags : List Int} {t : Int} : t ∈ normalTags tags ↔ t ∈ tags :=
  mem_dropRepeats.trans List.mem_mergeSort

lemma ascending_normalTags (tags : List Int) : (normalTags tags).Pairwise (· < ·) :=
  ascending_dropRepeats (List.pairwise_mergeSort' (· ≤ ·) tags)

structure WellPlaced (feature : Int) (tags : List Int) : Prop where
  feature_nonneg : 0 ≤ feature
  tags_ne_nil : tags ≠ []
  ascending : tags.Pairwise (· < ·)
  tags_nonneg : ∀ t ∈ tags, 0 ≤ t

lemma Draft.check_eq_ok {d e : Draft} (h : d.check = .ok e) :
    e = { d with tags := normalTags d.tags } := by
  unfold check at h
  split_ifs at h
  exact (Except.ok.inj h).symm

lemma Draft.wellPlaced_of_check {d e : Draft} (h : d.check = .ok e) :
    WellPlaced e.feature e.tags := by
  rw [check_eq_ok h]
  unfold check at h
  split_ifs at h with hfeature htags hnegative
  refine ⟨Int.not_lt.mp hfeature, fun hnil => htags ?_, ascending_normalTags _, fun t ht => ?_⟩
  · refine List.eq_nil_iff_forall_not_mem.mpr fun t ht => ?_
    have hmem : t ∈ normalTags d.tags := mem_normalTags.mpr ht
    exact List.eq_nil_iff_forall_not_mem.mp hnil t hmem
  · by_contra hneg
    refine hnegative (List.any_eq_true.mpr ⟨t, mem_normalTags.mp ht, ?_⟩)
    exact decide_eq_true (Int.not_le.mp hneg)

structure Draft.Writable (d : Draft) : Prop where
  feature : IntRange.i32.contains d.feature = true
  tags : ∀ t ∈ d.tags, IntRange.i32.contains t = true
  exact : Exact (.obj d.content)
  depth : Json.depth (.obj d.content) < Json.maxDepth

lemma Draft.Writable.check {d e : Draft} (hd : d.Writable) (h : d.check = .ok e) : e.Writable := by
  rw [check_eq_ok h]
  exact ⟨hd.feature, fun t ht => hd.tags t (mem_normalTags.mp ht), hd.exact, hd.depth⟩

lemma Draft.Writable.ofDraft {d : Draft} (hd : d.Writable) (id : Int) {created updated : Timestamp}
    (hc : created.Proper) (hu : updated.Proper) : (ofDraft id d created updated).Writable :=
  ⟨hd.feature, hd.tags, hd.exact, hd.depth, hc, hu⟩

lemma Writable.revise {b : Banner} (hb : b.Writable) {d : Draft} (hd : d.Writable)
    {updated : Timestamp} (hu : updated.Proper) : (b.revise d updated).Writable :=
  ⟨hd.feature, hd.tags, hd.exact, hd.depth, hb.created, hu⟩

def Draft.sample : Draft := ⟨1, [2], true, []⟩

lemma Draft.check_sample : Draft.sample.check = .ok .sample := by
  simp [check, sample, normalTags, dropRepeats]

lemma Draft.writable_sample : Draft.sample.Writable :=
  have h := storable_sample (show IntRange.i64.contains 1 = true by decide)
  ⟨h.feature, h.tags, h.exact, h.depth⟩

end Billboard.Banner

namespace Billboard.Api.BannerRequest

lemma of_toDraft {r : BannerRequest} {d : Banner.Draft} (h : r.toDraft = .ok d) :
    ∃ feature tags, r.feature = some feature ∧ r.tags = some tags ∧
      Banner.Draft.check ⟨feature, tags, r.active.getD true, r.content.getD []⟩ = .ok d := by
  unfold toDraft at h
  split at h
  · cases h
  · cases h
  · rename_i feature tags hfeature htags
    refine ⟨feature, tags, hfeature, htags, ?_⟩
    cases hcheck : Banner.Draft.check ⟨feature, tags, r.active.getD true, r.content.getD []⟩ with
    | error flaw =>
      rw [hcheck] at h
      cases h
    | ok e =>
      rw [hcheck] at h
      cases h
      rfl

end Billboard.Api.BannerRequest

namespace Billboard.Clock

lemma Timestamp.Proper.toMicros {t : Timestamp} (ht : t.Proper) : t.toMicros.Proper := by
  refine ⟨?_, ht.le_year, ht.year_le⟩
  have hn := ht.nanos
  simp only [Timestamp.toMicros]
  omega

end Billboard.Clock
