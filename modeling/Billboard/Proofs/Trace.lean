import Mathlib.Tactic.Common

/-! What can happen to something that changes step by step. -/

namespace Billboard

structure Passage (σ μ : Type) where
  before : σ
  move : μ
  after : σ

variable {σ μ : Type} {allows : σ → μ → σ → Prop} {s t u : σ}

/-- What can happen from a state on. The latest move comes first. -/
inductive Trace (allows : σ → μ → σ → Prop) (s : σ) : List (Passage σ μ) → σ → Prop
  | nil : Trace allows s [] s
  | cons {history : List (Passage σ μ)} {t : σ} {m : μ} {u : σ} (trace : Trace allows s history t)
      (step : allows t m u) : Trace allows s (⟨t, m, u⟩ :: history) u

namespace Trace

variable {history newer older : List (Passage σ μ)} {e : Passage σ μ}

lemma append (h : Trace allows s older t) (h' : Trace allows t newer u) :
    Trace allows s (newer ++ older) u := by
  induction h' with
  | nil => exact h
  | cons _ step ih => exact ih.cons step

lemma at_passage (h : Trace allows s (newer ++ e :: older) u) :
    Trace allows s older e.before ∧ allows e.before e.move e.after ∧
      Trace allows e.after newer u := by
  induction newer generalizing u with
  | nil =>
    cases h with
    | cons trace step => exact ⟨trace, step, .nil⟩
  | cons _ newer ih =>
    cases h with
    | cons trace step =>
      obtain ⟨hbefore, hstep, hlater⟩ := ih trace
      exact ⟨hbefore, hstep, hlater.cons step⟩

lemma at_mem (h : Trace allows s history u) (he : e ∈ history) :
    ∃ newer older, history = newer ++ e :: older ∧ Trace allows s older e.before ∧
      allows e.before e.move e.after ∧ Trace allows e.after newer u := by
  obtain ⟨newer, older, rfl⟩ := List.append_of_mem he
  exact ⟨newer, older, rfl, h.at_passage⟩

lemma preserves {p : σ → Prop} (h : Trace allows s history t)
    (hstep : ∀ {s m t}, allows s m t → p s → p t) (hs : p s) : p t := by
  induction h with
  | nil => exact hs
  | cons _ step ih => exact hstep step ih

end Trace

end Billboard
