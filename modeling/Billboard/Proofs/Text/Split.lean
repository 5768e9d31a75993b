import Billboard.Text.Split
import Mathlib.Tactic.Common

namespace Billboard.Text

variable {α : Type} [DecidableEq α] {mark : α} {l : List α}

lemma splitAt_of_notMem (h : mark ∉ l) : splitAt mark l = [l] := by
  induction l with
  | nil => rfl
  | cons a l ih =>
    rw [List.mem_cons, not_or] at h
    obtain ⟨ha, hl⟩ := h
    rw [splitAt, if_neg (Ne.symm ha), ih hl]

lemma splitAt_append_mark (h : mark ∉ l) (r : List α) :
    splitAt mark (l ++ mark :: r) = l :: splitAt mark r := by
  induction l with
  | nil => rw [List.nil_append, splitAt, if_pos rfl]
  | cons a l ih =>
    rw [List.mem_cons, not_or] at h
    obtain ⟨ha, hl⟩ := h
    rw [List.cons_append, splitAt, if_neg (Ne.symm ha), ih hl]

lemma notMem_of_mem_splitAt {piece : List α} (h : piece ∈ splitAt mark l) : mark ∉ piece := by
  induction l generalizing piece with
  | nil =>
    rw [splitAt, List.mem_singleton] at h
    rw [h]
    exact List.not_mem_nil
  | cons a l ih =>
    rw [splitAt] at h
    split_ifs at h with ha
    · rcases List.mem_cons.mp h with rfl | h
      · exact List.not_mem_nil
      · exact ih h
    · cases hl : splitAt mark l with
      | nil =>
        rw [hl, List.mem_singleton] at h
        rw [h, List.mem_singleton]
        exact Ne.symm ha
      | cons first more =>
        rw [hl] at h ih
        rcases List.mem_cons.mp h with rfl | h
        · rw [List.mem_cons, not_or]
          exact ⟨Ne.symm ha, ih (List.mem_cons_self ..)⟩
        · exact ih (List.mem_cons_of_mem _ h)

omit [DecidableEq α] in
lemma notMem_intercalate {a : α} (ha : a ≠ mark) {pieces : List (List α)}
    (h : ∀ piece ∈ pieces, a ∉ piece) : a ∉ [mark].intercalate pieces := by
  induction pieces with
  | nil => exact List.not_mem_nil
  | cons piece rest ih =>
    obtain ⟨hpiece, hrest⟩ := List.forall_mem_cons.mp h
    cases rest with
    | nil =>
      rw [List.intercalate_singleton]
      exact hpiece
    | cons next rest =>
      rw [List.intercalate_cons_cons, List.mem_append, List.mem_append, List.mem_singleton]
      exact fun hm => hm.elim (fun hm => hm.elim hpiece ha) (ih hrest)

lemma splitAt_intercalate {pieces : List (List α)} (hne : pieces ≠ [])
    (h : ∀ piece ∈ pieces, mark ∉ piece) : splitAt mark ([mark].intercalate pieces) = pieces := by
  induction pieces with
  | nil => exact (hne rfl).elim
  | cons piece rest ih =>
    obtain ⟨hpiece, hrest⟩ := List.forall_mem_cons.mp h
    cases rest with
    | nil =>
      rw [List.intercalate_singleton]
      exact splitAt_of_notMem hpiece
    | cons next rest =>
      rw [List.intercalate_cons_cons, List.append_assoc, List.singleton_append,
        splitAt_append_mark hpiece, ih (List.cons_ne_nil _ _) hrest]

lemma splitAt_ne_nil (mark : α) (l : List α) : splitAt mark l ≠ [] := by
  cases l with
  | nil => exact List.cons_ne_nil _ _
  | cons a l =>
    rw [splitAt]
    split_ifs
    · exact List.cons_ne_nil _ _
    · split <;> exact List.cons_ne_nil _ _

omit [DecidableEq α] in
lemma intercalate_cons (piece : List α) (pieces : List (List α)) :
    [mark].intercalate (piece :: pieces) = piece ++ pieces.flatMap (mark :: ·) := by
  induction pieces generalizing piece with
  | nil => rw [List.intercalate_singleton, List.flatMap_nil, List.append_nil]
  | cons next pieces ih =>
    rw [List.intercalate_cons_cons, ih, List.flatMap_cons, List.append_assoc, List.singleton_append,
      List.cons_append]

lemma intercalate_splitAt (mark : α) (l : List α) : [mark].intercalate (splitAt mark l) = l := by
  induction l with
  | nil => rw [splitAt, List.intercalate_singleton]
  | cons a l ih =>
    obtain ⟨piece, more, hl⟩ := List.exists_cons_of_ne_nil (splitAt_ne_nil mark l)
    rw [hl, intercalate_cons] at ih
    rw [splitAt, hl]
    split_ifs with ha
    · rw [intercalate_cons, List.flatMap_cons, List.nil_append, List.cons_append, ih, ha]
    · rw [intercalate_cons, List.cons_append, ih]

lemma splitAt_eq_iff {pieces : List (List α)} (hne : pieces ≠ []) :
    splitAt mark l = pieces ↔ (∀ piece ∈ pieces, mark ∉ piece) ∧ l = [mark].intercalate pieces := by
  constructor
  · rintro rfl
    exact ⟨fun piece => notMem_of_mem_splitAt, (intercalate_splitAt mark l).symm⟩
  · rintro ⟨hpieces, rfl⟩
    exact splitAt_intercalate hne hpieces

lemma cutAt_of_notMem (h : mark ∉ l) : cutAt mark l = none := by
  induction l with
  | nil => rfl
  | cons a l ih =>
    rw [List.mem_cons, not_or] at h
    obtain ⟨ha, hl⟩ := h
    rw [cutAt, if_neg (Ne.symm ha), ih hl, Option.map_none]

lemma cutAt_append_mark (r : List α) (h : mark ∉ l) : cutAt mark (l ++ mark :: r) = some (l, r) := by
  induction l with
  | nil => simp [cutAt]
  | cons a l ih =>
    have ha : a ≠ mark := fun e => h (e ▸ List.mem_cons_self)
    simp [cutAt, ha, ih fun hm => h (List.mem_cons_of_mem a hm)]

lemma cutAtLast_eq_none : cutAtLast mark l = none ↔ mark ∉ l := by
  induction l with
  | nil => simp [cutAtLast]
  | cons a l ih =>
    rw [List.mem_cons, not_or, ← ih, cutAtLast]
    cases cutAtLast mark l with
    | none => simp [eq_comm]
    | some p => simp

lemma cutAtLast_append (l : List α) {r : List α} (h : mark ∉ r) :
    cutAtLast mark (l ++ mark :: r) = some (l, r) := by
  induction l with
  | nil => simp [cutAtLast, cutAtLast_eq_none.mpr h]
  | cons a l ih => rw [List.cons_append, cutAtLast, ih]

lemma cutAtLast_eq_some {front back : List α} (h : cutAtLast mark l = some (front, back)) :
    l = front ++ mark :: back ∧ mark ∉ back := by
  induction l generalizing front with
  | nil => cases h
  | cons a l ih =>
    rw [cutAtLast] at h
    cases hl : cutAtLast mark l with
    | some p =>
      rw [hl] at h
      cases h
      obtain ⟨hcut, hback⟩ := ih hl
      exact ⟨congrArg (a :: ·) hcut, hback⟩
    | none =>
      simp only [hl] at h
      split_ifs at h with ha
      cases h
      exact ⟨by rw [ha, List.nil_append], cutAtLast_eq_none.mp hl⟩

end Billboard.Text
