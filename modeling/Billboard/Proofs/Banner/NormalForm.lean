import Billboard.Proofs.Banner.Drafts
import Billboard.Service.Banners

/-! The check brings a draft into a normal form, which no read can tell from the draft. -/

namespace Billboard

namespace Banner

variable {tags other : List Int}

lemma normalTags_of_ascending (h : tags.Pairwise (· < ·)) : normalTags tags = tags := by
  apply (ascending_normalTags tags).eq_of_mem_iff h
  exact fun t => mem_normalTags

lemma normalTags_congr (h : ∀ t, t ∈ tags ↔ t ∈ other) : normalTags tags = normalTags other := by
  apply (ascending_normalTags tags).eq_of_mem_iff (ascending_normalTags other)
  intro t
  rw [mem_normalTags, mem_normalTags, h]

namespace Draft

variable {d e : Draft}

structure Sound (d : Draft) : Prop where
  feature_nonneg : 0 ≤ d.feature
  tags_ne_nil : d.tags ≠ []
  tags_nonneg : ∀ t ∈ d.tags, 0 ≤ t

lemma Sound.check (h : d.Sound) : d.check = .ok { d with tags := normalTags d.tags } := by
  have hnegative : ¬ d.tags.any (· < 0) = true := by
    simp only [List.any_eq_true, decide_eq_true_eq, not_exists, not_and]
    exact fun t ht => (h.tags_nonneg t ht).not_gt
  rw [Draft.check, if_neg h.feature_nonneg.not_gt, if_neg h.tags_ne_nil, if_neg hnegative]

lemma sound_of_check (h : d.check = .ok e) : d.Sound := by
  obtain ⟨hfeature, hne, -, htags⟩ := wellPlaced_of_check h
  rw [check_eq_ok h] at hfeature hne htags
  refine ⟨hfeature, ?_, fun t ht => htags t (mem_normalTags.mpr ht)⟩
  intro hnil
  apply hne
  rw [hnil, normalTags_of_ascending .nil]

lemma check_of_sound_ascending (h : d.Sound) (hd : d.tags.Pairwise (· < ·)) :
    d.check = .ok d := by
  rw [h.check, normalTags_of_ascending hd]

lemma check_congr (h : ∀ t, t ∈ other ↔ t ∈ d.tags) : check { d with tags := other } = d.check := by
  have hnil : other = [] ↔ d.tags = [] := by
    simp only [List.eq_nil_iff_forall_not_mem, h]
  have hnegative : other.any (· < 0) = d.tags.any (· < 0) := by
    rw [Bool.eq_iff_iff, List.any_eq_true, List.any_eq_true]
    simp only [h]
  simp only [check, hnil, hnegative, normalTags_congr h]

end Draft

variable {a b : Banner}

lemma serves_congr (hfeature : a.feature = b.feature) (htags : ∀ t, t ∈ a.tags ↔ t ∈ b.tags)
    (f t : Int) : a.serves f t = b.serves f t := by
  rw [Bool.eq_iff_iff]
  simp only [serves, Bool.and_eq_true, List.contains_iff_mem, hfeature, htags]

lemma Filter.admits_congr (hfeature : a.feature = b.feature)
    (htags : ∀ t, t ∈ a.tags ↔ t ∈ b.tags) (hactive : a.active = b.active) (filter : Filter) :
    filter.admits a = filter.admits b := by
  have hcontains : a.tags.contains = b.tags.contains := by
    funext t
    rw [Bool.eq_iff_iff, List.contains_iff_mem, List.contains_iff_mem, htags]
  rw [admits, admits, hfeature, hactive, hcontains]

end Banner

open Banner (Draft)

def Action.storeCalls {σ α : Type} (answer : (q : Effect) → σ → q.Answer × σ) (act : Action α)
    (s : σ) : List StoreCall :=
  (act.asked answer s).filterMap fun
    | .store c => some c
    | _ => none

section

variable {σ : Type} {answer : (q : Effect) → σ → q.Answer × σ} {s : σ} {d e : Draft}

lemma storeCalls_create (h : d.check = .ok e) :
    (Service.create d).storeCalls answer s =
      [.create e (answer .clock s).1.toMicros (answer .clock s).1.toMicros] := by
  rw [Service.create, h]
  dsimp only [Service.now, Action.clock, Action.store, Action.cache, Dialogue.question, bind,
    Dialogue.bind, pure, Action.storeCalls, Dialogue.asked]
  cases (answer (.store (.create e (answer .clock s).1.toMicros (answer .clock s).1.toMicros))
    (answer .clock s).2).1 <;> rfl

lemma storeCalls_update (h : d.check = .ok e) (id : Int) :
    (Service.update id d).storeCalls answer s =
      [.update id e (answer .clock s).1.toMicros] := by
  rw [Service.update, h]
  dsimp only [Service.now, Action.clock, Action.store, Dialogue.question, bind,
    Dialogue.bind, pure, Action.storeCalls, Dialogue.asked]
  cases (answer (.store (.update id e (answer .clock s).1.toMicros)) (answer .clock s).2).1 <;> rfl

end

namespace Banner.Draft

/-- The check hands out the draft with its tags in ascending order, each once. Drafts with the same
tags come out alike, and a second check changes nothing. -/
theorem check_normal_form :
    (∀ d : Draft,
      ((∃ e, d.check = .ok e) ↔ 0 ≤ d.feature ∧ d.tags ≠ [] ∧ ∀ t ∈ d.tags, 0 ≤ t) ∧
      (∀ e, d.check = .ok e →
        (e.tags.Pairwise (· < ·) ∧ (∀ t, t ∈ e.tags ↔ t ∈ d.tags) ∧
          e.feature = d.feature ∧ e.active = d.active ∧ e.content = d.content) ∧
        e.check = .ok e ∧
        ∀ id created updated,
          (∀ f t, (ofDraft id e created updated).serves f t =
            (ofDraft id d created updated).serves f t) ∧
          ∀ filter : Filter, filter.admits (ofDraft id e created updated) =
            filter.admits (ofDraft id d created updated)) ∧
      ∀ tags, (∀ t, t ∈ tags ↔ t ∈ d.tags) → check { d with tags := tags } = d.check) ∧
    ∀ (r : Api.BannerRequest) (d : Draft), r.toDraft = .ok d → d.check = .ok d ∧
      ∀ (σ : Type) (answer : (q : Effect) → σ → q.Answer × σ) (s : σ) (id : Int),
        (Service.create d).storeCalls answer s =
          [.create d (answer .clock s).1.toMicros (answer .clock s).1.toMicros] ∧
        (Service.update id d).storeCalls answer s =
          [.update id d (answer .clock s).1.toMicros] := by
  have again : ∀ {d e : Draft}, d.check = .ok e → e.check = .ok e := by
    intro d e h
    obtain ⟨hfeature, hne, hascending, htags⟩ := wellPlaced_of_check h
    exact check_of_sound_ascending ⟨hfeature, hne, htags⟩ hascending
  refine ⟨fun d => ⟨⟨?_, ?_⟩, fun e h => ?_, fun tags => check_congr⟩, fun r d h => ?_⟩
  · rintro ⟨e, h⟩
    obtain ⟨hfeature, hne, htags⟩ := sound_of_check h
    exact ⟨hfeature, hne, htags⟩
  · rintro ⟨hfeature, hne, htags⟩
    exact ⟨_, Sound.check ⟨hfeature, hne, htags⟩⟩
  · have hmem : ∀ t, t ∈ e.tags ↔ t ∈ d.tags := by
      rw [check_eq_ok h]
      exact fun t => mem_normalTags
    have hrest : e.feature = d.feature ∧ e.active = d.active ∧ e.content = d.content := by
      rw [check_eq_ok h]
      exact ⟨rfl, rfl, rfl⟩
    refine ⟨⟨(wellPlaced_of_check h).ascending, hmem, hrest⟩, again h, fun id created updated => ?_⟩
    exact ⟨serves_congr hrest.1 hmem, Filter.admits_congr hrest.1 hmem hrest.2.1⟩
  · obtain ⟨feature, tags, -, -, he⟩ := Api.BannerRequest.of_toDraft h
    exact ⟨again he, fun σ answer s id =>
      ⟨storeCalls_create (again he), storeCalls_update (again he) id⟩⟩

theorem check_normal_form_repeated :
    let d : Draft := ⟨5, [3, 1, 3, 2], false, []⟩
    let e : Draft := ⟨5, [1, 2, 3], false, []⟩
    let r : Api.BannerRequest := ⟨some 5, some [3, 1, 3, 2], some false, none⟩
    d.check = .ok e ∧ e.check = .ok e ∧ (∀ t, t ∈ [2, 3, 1] ↔ t ∈ d.tags) ∧
    check { d with tags := [2, 3, 1] } = .ok e ∧ r.toDraft = .ok e ∧
    ∀ (σ : Type) (answer : (q : Effect) → σ → q.Answer × σ) (s : σ),
      (Service.update 7 e).storeCalls answer s = [.update 7 e (answer .clock s).1.toMicros] := by
  intro d e r
  have hnormal : normalTags [3, 1, 3, 2] = normalTags [1, 2, 3] := by
    apply normalTags_congr
    intro t
    simp only [List.mem_cons]
    tauto
  have hd : d.check = .ok e := by
    rw [Sound.check ⟨by decide, by decide, by decide⟩, hnormal,
      normalTags_of_ascending (by decide)]
  have hmem : ∀ t, t ∈ [2, 3, 1] ↔ t ∈ d.tags := by
    intro t
    simp only [d, List.mem_cons]
    tauto
  have hr : r.toDraft = .ok e :=
    congrArg (Except.mapError fun flaw => ApiError.ofStore (.ofFlaw flaw)) hd
  obtain ⟨-, hok, hsame⟩ := check_normal_form.1 d
  obtain ⟨-, hagain, -⟩ := hok e hd
  exact ⟨hd, hagain, hmem, (hsame [2, 3, 1] hmem).trans hd, hr,
    fun σ answer s => ((check_normal_form.2 r e hr).2 σ answer s 7).2⟩

end Banner.Draft

end Billboard
