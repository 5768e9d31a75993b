import Billboard.Proofs.Banner.RoundTrip
import Billboard.Proofs.Json.Soundness

/-! Whatever a payload decodes to agrees with the written banner in all that stands before the
content. -/

namespace Billboard.Banner

open Text (IntRange)

lemma slot_required {α : Type} {name : String} {read : Json.Reader α} {f : α → Banner → Banner}
    {γ : Type} (view : Banner → γ) (hf : ∀ a d, view (f a d) = view d) :
    ∀ b cs put r, (Json.Slot.required name read f).read b cs = .ok (put, r) →
      ∀ d, view (put d) = view d := by
  intro b cs put r h d
  obtain ⟨a, -, rfl⟩ := Json.required_ok h
  exact hf a d

def head (b : Banner) : Int × Int × List Int × Bool := (b.id, b.feature, b.tags, b.active)

lemma slots_keep_head : ∀ slot ∈ slots,
    slot.name ∉ ["is_active", "tag_ids", "feature_id", "banner_id"] → ∀ b cs put r,
      slot.read b cs = .ok (put, r) → ∀ d : Banner, (put d).head = d.head := by
  intro slot hslot hne
  simp only [slots, List.mem_cons, List.not_mem_nil, or_false] at hslot
  rcases hslot with rfl | rfl | rfl | rfl | rfl | rfl | rfl
  any_goals exact slot_required head fun _ _ => rfl
  all_goals exact (hne (by simp [Json.Slot.required])).elim

lemma written_fitsOnly (b : Banner) : ∀ f ∈ b.written.take 4, f.FitsOnly slots := by
  simp only [written, List.take_succ_cons, List.take_zero, List.forall_mem_cons, List.not_mem_nil,
    IsEmpty.forall_iff, implies_true, and_true]
  exact ⟨(Json.readsOnly_int _ _ _).required rfl, (Json.readsOnly_int _ _ _).required rfl,
    (Json.readsOnly_sequence fun t _ => Json.readsOnly_int _ _ t).required rfl,
    (Json.readsOnly_bool _).required rfl⟩

lemma readsOnly_timestamp {t : Clock.Timestamp} (ht : t.Proper) :
    Json.ReadsOnly Clock.Timestamp.reader t.toJson t :=
  Json.readsOnly_of_ok fun budget rest => reader_timestamp ht budget rest

lemma recordMembers_of_decode {b d : Banner} (h : decode? b.encode = some d) :
    ∃ steps r, Json.recordMembers slots 126 steps [] blank (Json.writeMembers b.fields ++ []) =
      .ok (d, r) := by
  have hd : Json.decodeBytes reader (Json.writeRecord b.fields).toUTF8 = .ok d := by
    unfold decode? at h
    cases hr : Json.decodeBytes reader b.encode with
    | error e => simp [hr, Except.toOption] at h
    | ok d' =>
      obtain rfl : d' = d := by simpa [hr, Except.toOption] using h
      exact hr
  exact Json.recordMembers_of_decode (List.cons_ne_nil _ _) hd

theorem head_of_decode {b d : Banner} (h : decode? b.encode = some d) : d.head = b.head := by
  obtain ⟨steps, r, hm⟩ := recordMembers_of_decode h
  have hsplit : b.fields = (b.written.take 4).map (·.member) ++ (b.written.drop 4).map (·.member) :=
    rfl
  rw [hsplit] at hm
  rw [Json.recordMembers_only head (written_fitsOnly b) slots_keep_head hm]
  rfl

lemma servable?_encode {b : Banner} {f t : Int} (hactive : b.active = true)
    (hserves : b.serves f t = true) (hdecodes : (decode? b.encode).isSome = true) :
    (servable? b.encode f t).isSome = true := by
  obtain ⟨d, hd⟩ := Option.isSome_iff_exists.mp hdecodes
  have hhead := head_of_decode hd
  simp only [head, Prod.mk.injEq] at hhead
  obtain ⟨-, hf, ht, ha⟩ := hhead
  have hfits : (d.active && d.serves f t) = true := by
    rw [ha, serves, hf, ht, hactive]
    exact hserves
  rw [servable?, hd, Option.filter_some, if_pos hfits]
  rfl

lemma slots_named {b : Banner} : ∀ slot ∈ slots, slot.name ∉ (((b.written.drop 5).map
      (·.slot.name)).reverse ++ "content" :: (((b.written.take 4).map (·.slot.name)).reverse ++ [])) →
    ∀ budget cs put r, slot.read budget cs = .ok (put, r) → ∀ d : Banner, put d = d := by
  intro slot hslot hne
  simp only [slots, List.mem_cons, List.not_mem_nil, or_false] at hslot
  rcases hslot with rfl | rfl | rfl | rfl | rfl | rfl | rfl <;>
    exact (hne (by simp [written, Json.Slot.required])).elim

theorem eq_of_decode {b d : Banner} (hcreated : b.createdAt.Proper) (hupdated : b.updatedAt.Proper)
    (h : decode? b.encode = some d) : d = { b with content := d.content } := by
  obtain ⟨steps, r, hm⟩ := recordMembers_of_decode h
  have hsplit : b.fields = (b.written.take 4).map (·.member) ++
      ("content", .obj b.content) :: (b.written.drop 5).map (·.member) := rfl
  rw [hsplit] at hm
  obtain ⟨steps, hm⟩ := Json.recordMembers_past (written_fitsOnly b) hm
  let slot : Json.Slot Banner := .required "content" Json.object fun x b => { b with content := x }
  have hfound : slots.find? (·.name == slot.name) = some slot := rfl
  have hpasses : Json.Passes slot.read (.obj b.content) :=
    (Json.passes_object b.content).required _ _
  obtain ⟨_, put, _, -, hput, hnext⟩ := Json.recordMembers_next hfound hpasses hm
  obtain ⟨content, -, rfl⟩ := Json.required_ok hput
  rcases hnext with ⟨hnil, -⟩ | ⟨steps, hm⟩
  · exact (List.cons_ne_nil _ _ hnil).elim
  · have hfit : ∀ f ∈ b.written.drop 5, f.FitsOnly slots := by
      simp only [written, List.drop_succ_cons, List.drop_zero, List.forall_mem_cons,
        List.not_mem_nil, IsEmpty.forall_iff, implies_true, and_true]
      exact ⟨(readsOnly_timestamp hcreated).required rfl, (readsOnly_timestamp hupdated).required rfl⟩
    rw [← List.append_nil (List.map _ (b.written.drop 5))] at hm
    obtain rfl : d = _ := Json.recordMembers_only (fun d => d) hfit slots_named hm
    rfl

theorem id_of_decode {b d : Banner} (h : decode? b.encode = some d) :
    d.id = b.id ∧ IntRange.i64.contains b.id = true := by
  refine ⟨congrArg Prod.fst (head_of_decode h), ?_⟩
  obtain ⟨steps, r, hm⟩ := recordMembers_of_decode h
  cases steps with
  | zero => cases hm
  | succ steps =>
    let slot : Json.Slot Banner := .required "banner_id" Json.i64 fun x b => { b with id := x }
    have hid : slots.find? (·.name == slot.name) = some slot := rfl
    have hfields : Json.writeMembers b.fields ++ [] = Json.writeString slot.name ++
        ':' :: (Text.intDigits b.id ++ ',' :: Json.writeMembers b.fields.tail) := by
      rw [fields, Json.writeMembers]
      · simp [slot, Json.Slot.required, Json.int, Json.write, Json.Number.write]
      · simp
    rw [hfields] at hm
    obtain ⟨-, put, rest, hread, -⟩ := Json.afterMember_of_recordMembers hid hm
    obtain ⟨i, hi, -⟩ := Json.required_ok hread
    exact (Json.integer_sound (.comma _) hi).2.2

end Billboard.Banner
