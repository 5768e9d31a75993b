import Billboard.Banner.Wire
import Billboard.Proofs.Clock.Timestamp
import Billboard.Proofs.Json.Records

/-! A cached payload holds the banner that it was written from. -/

namespace Billboard.Banner

open Json (Exact Reads WrittenField)
open Text (IntRange)
open Clock (Timestamp)

/-- The banners that are written as they are, whatever their ids. -/
structure Writable (b : Banner) : Prop where
  feature : IntRange.i32.contains b.feature = true
  tags : ∀ t ∈ b.tags, IntRange.i32.contains t = true
  exact : Exact (.obj b.content)
  depth : Json.depth (.obj b.content) < Json.maxDepth
  created : b.createdAt.Proper
  updated : b.updatedAt.Proper

structure Storable (b : Banner) : Prop extends Writable b where
  id : IntRange.i64.contains b.id = true

def sample (id : Int) : Banner := ⟨id, 1, [2], true, [], ⟨0, 0⟩, ⟨0, 0⟩⟩

lemma storable_sample {id : Int} (h : IntRange.i64.contains id = true) :
    (sample id).Storable where
  id := h
  feature := by rfl
  tags := show ∀ t ∈ [2], IntRange.i32.contains t = true by decide
  exact := ⟨by simp [sample, Json.SortedKeys], by simp [sample, Json.ExactMembers]⟩
  depth := by simp [sample, Json.depth, Json.depthMembers, Json.maxDepth]
  created := Timestamp.proper_epoch
  updated := Timestamp.proper_epoch

lemma exact_int {range : IntRange} {i : Int} (h : range.contains i = true)
    (hlo : IntRange.i64.lo ≤ range.lo) (hhi : range.hi ≤ IntRange.i64.hi) :
    Json.Number.Exact (.int i) := by
  simp only [IntRange.contains, Bool.and_eq_true, decide_eq_true_eq] at h
  simp only [IntRange.i64] at hlo hhi
  exact ⟨by omega, by omega⟩

lemma exact_i32 {i : Int} (h : IntRange.i32.contains i = true) : Json.Number.Exact (.int i) :=
  exact_int h (by decide) (by decide)

lemma reader_timestamp {t : Timestamp} (ht : t.Proper) (budget : Json.Budget) (rest : List Char) :
    Timestamp.reader budget (t.toJson.write ++ rest) = .ok (t, rest) := by
  have hs : Json.stringAs "an RFC 3339 formatted date and time string" budget
      (Json.writeString t.text ++ rest) = .ok (t.text, rest) := by
    rw [Json.writeString_cons, Json.stringAs, Json.skipSpace_cons _ (by decide)]
    exact Json.readStringTail_written t.text rest
  have hr : Timestamp.ofText? t.text = some t := by
    rw [Timestamp.ofText?, Timestamp.text, String.toList_ofList]
    exact Timestamp.read_write ht
  simp only [Timestamp.toJson, Json.write, Timestamp.reader, hs, hr]

lemma reads_timestamp (room : Nat) {t : Timestamp} (ht : t.Proper) :
    Reads Timestamp.reader room t.toJson t :=
  fun _ rest _ _ => reader_timestamp ht _ rest

def written (b : Banner) : List (WrittenField Banner) :=
  [⟨.required "banner_id" Json.i64 fun x b => { b with id := x }, .int b.id,
      fun d => { d with id := b.id }⟩,
   ⟨.required "feature_id" Json.i32 fun x b => { b with feature := x }, .int b.feature,
      fun d => { d with feature := b.feature }⟩,
   ⟨.required "tag_ids" (Json.sequence Json.i32) fun x b => { b with tags := x },
      .arr (b.tags.map .int), fun d => { d with tags := b.tags }⟩,
   ⟨.required "is_active" Json.boolean fun x b => { b with active := x }, .bool b.active,
      fun d => { d with active := b.active }⟩,
   ⟨.required "content" Json.object fun x b => { b with content := x }, .obj b.content,
      fun d => { d with content := b.content }⟩,
   ⟨.required "created_at" Timestamp.reader fun x b => { b with createdAt := x },
      b.createdAt.toJson, fun d => { d with createdAt := b.createdAt }⟩,
   ⟨.required "updated_at" Timestamp.reader fun x b => { b with updatedAt := x },
      b.updatedAt.toJson, fun d => { d with updatedAt := b.updatedAt }⟩]

lemma written_fits {b : Banner} (h : b.Storable) : ∀ f ∈ b.written, f.Fits slots 126 := by
  simp only [written, List.forall_mem_cons, List.not_mem_nil, IsEmpty.forall_iff, implies_true,
    and_true]
  refine ⟨(Json.reads_int _ _ h.id (exact_int h.id (by decide) (by decide))).required rfl,
    (Json.reads_int _ _ h.feature (exact_i32 h.feature)).required rfl,
    (Json.reads_sequence _ _ fun t ht =>
      Json.reads_int _ _ (h.tags t ht) (exact_i32 (h.tags t ht))).required rfl,
    (Json.reads_bool _ _).required rfl,
    (Json.reads_object h.exact (Nat.le_of_lt_succ h.depth)).required rfl,
    (reads_timestamp _ h.created).required rfl,
    (reads_timestamp _ h.updated).required rfl⟩

theorem decode_encode {b : Banner} (h : b.Storable) : decode? b.encode = some b := by
  have hnd : (b.written.map (·.slot.name)).Nodup :=
    show ["banner_id", "feature_id", "tag_ids", "is_active", "content", "created_at",
      "updated_at"].Nodup by decide
  have hall : Json.firstMissing slots (b.written.map (·.slot.name)).reverse = none := by rfl
  have hfields : b.fields = b.written.map (·.member) := rfl
  have hread : Json.decodeBytes reader (Json.writeRecord b.fields).toUTF8 =
      .ok (b.written.foldl (fun d f => f.put d) blank) := by
    rw [hfields]
    exact Json.decodeBytes_written blank (List.cons_ne_nil _ _) (written_fits h) hnd hall
  have hb : b.encode = (Json.writeRecord b.fields).toUTF8 := rfl
  rw [decode?, hb, hread]
  rfl

end Billboard.Banner
