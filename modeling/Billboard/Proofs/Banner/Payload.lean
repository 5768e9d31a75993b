import Billboard.Proofs.Banner.Drafts
import Billboard.Proofs.Cache.Local
import Billboard.Proofs.Json.Accepted

/-! Which banners are read back from their payloads, and why those of clients are among them. -/

namespace Billboard

open Text (IntRange)
open Clock (Timestamp)

namespace Clock.Timestamp

def year (t : Timestamp) : Int := (dateOfDay (t.seconds / 86400)).year

structure Plain (t : Timestamp) : Prop where
  nanos : t.nanos < 1000000000
  year_nonneg : 0 ≤ t.year
  year_le : t.year ≤ 9999

lemma Plain.proper {t : Timestamp} (h : t.Plain) : t.Proper where
  nanos := .inl h.nanos
  le_year := (show -yearLimit - 1 ≤ 0 by decide).trans h.year_nonneg
  year_le := h.year_le.trans (by decide)

end Clock.Timestamp

namespace Banner

structure Formed (b : Banner) : Prop where
  id : IntRange.i64.contains b.id = true
  feature : IntRange.i32.contains b.feature = true
  tags : ∀ t ∈ b.tags, IntRange.i32.contains t = true
  content : Json.Formed (.obj b.content)

lemma depth_ints (is : List Int) : Json.depthItems (is.map .int) = 0 := by
  induction is with
  | nil => rfl
  | cons i is ih =>
    rw [List.map_cons, Json.depthItems, ih]
    rfl

lemma depth_toJson (b : Banner) : b.toJson.depth = (Json.obj b.content).depth + 1 := by
  simp [toJson, fields, Json.depth, Json.depthMembers, Json.int, Timestamp.toJson, depth_ints]

variable {b : Banner}

lemma Formed.storable (h : b.Formed) (hf : Json.FloatFree (.obj b.content))
    (hdepth : b.toJson.depth ≤ Json.maxDepth) (hc : b.createdAt.Plain) (hu : b.updatedAt.Plain) :
    b.Storable where
  id := h.id
  feature := h.feature
  tags := h.tags
  exact := Json.exact_of_floatFree _ h.content hf
  depth := by rwa [depth_toJson] at hdepth
  created := hc.proper
  updated := hu.proper

lemma servable?_of_decode (h : decode? b.encode = some b) (f t : Int) :
    servable? b.encode f t = if b.active = true ∧ b.serves f t = true then some b else none := by
  rw [servable?, h, Option.filter_some]
  simp only [Bool.and_eq_true]

end Banner

namespace Api.BannerRequest

open Json (Bounded Gives)

structure Formed (r : BannerRequest) : Prop where
  feature : ∀ f ∈ r.feature, IntRange.i32.contains f = true
  tags : ∀ tags ∈ r.tags, ∀ t ∈ tags, IntRange.i32.contains t = true
  content : ∀ content ∈ r.content, Bounded 126 (.obj content)

lemma gives_reader : Gives reader Json.maxDepth Formed := by
  apply Json.gives_record
  · exact ⟨nofun, nofun, nofun⟩
  · simp only [slots, List.forall_mem_cons, List.not_mem_nil, IsEmpty.forall_iff, implies_true,
      and_true]
    refine ⟨?_, ?_, ?_, ?_⟩
    · exact (Json.gives_integer _ _ _).nullable _ fun o ho r hr => { hr with feature := ho }
    · exact (Json.gives_integer _ _ _).sequence.nullable _ fun o ho r hr => { hr with tags := ho }
    · exact Gives.nullable (P := fun _ => True) (fun _ _ _ _ _ => trivial) _
        fun o _ r hr => { hr with }
    · exact (Json.gives_object _).nullable _ fun o ho r hr => { hr with content := ho }

lemma Formed.toDraft {r : BannerRequest} (h : r.Formed) {d : Banner.Draft}
    (hd : r.toDraft = .ok d) : IntRange.i32.contains d.feature = true ∧
      (∀ t ∈ d.tags, IntRange.i32.contains t = true) ∧ Bounded 126 (.obj d.content) := by
  have hempty : Bounded 126 (.obj []) := Json.bounded_obj .nil (List.forall_mem_nil _)
  obtain ⟨feature, tags, hfeature, htags, hcheck⟩ := of_toDraft hd
  rw [Banner.Draft.check_eq_ok hcheck]
  refine ⟨h.feature _ hfeature, fun t ht => ?_, ?_⟩
  · exact h.tags _ htags t (Banner.mem_normalTags.mp ht)
  · cases hcontent : r.content with
    | none => exact hempty
    | some content => exact h.content content hcontent

end Api.BannerRequest

namespace Banner

lemma formed_of_bounded {b : Banner} (hfeature : IntRange.i32.contains b.feature = true)
    (htags : ∀ t ∈ b.tags, IntRange.i32.contains t = true)
    (hcontent : Json.Bounded 126 (.obj b.content)) :
    b.toJson.depth ≤ 127 ∧ (IntRange.i64.contains b.id = true → b.Formed) := by
  refine ⟨?_, fun hid => ⟨hid, hfeature, htags, hcontent.formed⟩⟩
  rw [depth_toJson]
  exact Nat.succ_le_succ hcontent.depth

/-- A banner without floating point numbers that is written at most 127 levels deep is what its
bytes hold, and no draft of a client is written deeper than that. -/
theorem payload_holds_banner :
    (∀ b : Banner, b.Formed → Json.FloatFree (.obj b.content) → b.toJson.depth ≤ 127 →
      b.createdAt.Plain → b.updatedAt.Plain → decode? b.encode = some b ∧
        (∀ (c : LocalCache) (now : Nat),
          (c.put b now).kept? b.id = some ⟨b.encode, now, c.ttl⟩) ∧
        ∀ f t, servable? b.encode f t =
          if b.active = true ∧ b.serves f t = true then some b else none) ∧
    ∀ body r d, Json.decodeBytes Api.BannerRequest.reader body = .ok r → r.toDraft = .ok d →
      (∀ id created updated, (ofDraft id d created updated).toJson.depth ≤ 127 ∧
        (IntRange.i64.contains id = true → (ofDraft id d created updated).Formed)) ∧
      ∀ (b : Banner) updated, (b.revise d updated).toJson.depth ≤ 127 ∧
        (IntRange.i64.contains b.id = true → (b.revise d updated).Formed) := by
  constructor
  · intro b hb hf hdepth hc hu
    have hdecode := decode_encode (hb.storable hf hdepth hc hu)
    refine ⟨hdecode, fun c now => ?_, servable?_of_decode hdecode⟩
    rw [LocalCache.kept?_put, if_pos rfl]
  · intro body r d hr hd
    have hread : r.Formed := Api.BannerRequest.gives_reader.decodeBytes hr
    obtain ⟨hfeature, htags, hcontent⟩ := hread.toDraft hd
    exact ⟨fun id created updated => formed_of_bounded hfeature htags hcontent,
      fun b updated => formed_of_bounded hfeature htags hcontent⟩

theorem payload_holds_banner_escaped :
    let b : Banner := ⟨-9223372036854775808, 5, [3, 1], true,
      [("\"\n", .arr [.obj [("\u007f", .int 18446744073709551615)], .int (-9223372036854775808)])],
      ⟨-62167219200, 1⟩, ⟨253402300799, 999999999⟩⟩
    let body :=
      "\x7b\"feature_id\":1,\"tag_ids\":[2,1,2],\"content\":\x7b\"k\":[\x7b\x7d]\x7d\x7d".toUTF8
    decode? b.encode = some b ∧ servable? b.encode 5 1 = some b ∧ servable? b.encode 5 2 = none ∧
    ∃ r d, Json.decodeBytes Api.BannerRequest.reader body = .ok r ∧ r.toDraft = .ok d ∧
      (ofDraft 7 d ⟨0, 0⟩ ⟨0, 0⟩).toJson.depth ≤ 127 := by
  intro b body
  have hformed : b.Formed := by
    refine ⟨by decide, by decide, by decide, ?_⟩
    simp [b, Json.Formed, Json.Throughout, Json.ThroughoutMembers, Json.ThroughoutItems,
      Json.Regular, Json.SortedKeys, Json.int, Json.Number.Exact]
  have hfree : Json.FloatFree (.obj b.content) := by
    simp [b, Json.FloatFree, Json.Throughout, Json.ThroughoutMembers, Json.ThroughoutItems,
      Json.NoFloat, Json.int]
  have hdepth : b.toJson.depth ≤ 127 := by decide
  obtain ⟨hdecode, -, hserved⟩ := payload_holds_banner.1 b hformed hfree hdepth
    ⟨by decide, by decide, by decide⟩ ⟨by decide, by decide, by decide⟩
  have hbody : Json.decodeBytes Api.BannerRequest.reader body =
      .ok ⟨some 1, some [2, 1, 2], none, some [("k", .arr [.obj []])]⟩ := by
    decide +kernel
  refine ⟨hdecode, hserved 5 1, hserved 5 2, _, _, hbody, rfl, ?_⟩
  exact ((payload_holds_banner.2 body _ _ hbody rfl).1 7 _ _).1

end Banner

end Billboard
