import Billboard.Retry
import Mathlib.Algebra.Group.Nat.Defs
import Mathlib.Order.MinMax
import Mathlib.Tactic.Common

/-! The waits between attempts to connect, and the attempts that keep to them. -/

namespace Billboard

namespace RetryPolicy

variable {p : RetryPolicy} {n : Nat}

lemma saturated_pow (k : Nat) : min (2 ^ min k 64) wordMax = min (2 ^ k) wordMax := by
  rcases Nat.le_total k 64 with hk | hk
  · rw [Nat.min_eq_left hk]
  · have hfull : wordMax ≤ 2 ^ 64 := by decide
    have hpow : 2 ^ 64 ≤ 2 ^ k := Nat.pow_le_pow_right (by decide) hk
    rw [Nat.min_eq_right hk, Nat.min_eq_right hfull, Nat.min_eq_right (hfull.trans hpow)]

lemma capped_mul {cap limit : Nat} (h : cap ≤ limit) (a b : Nat) :
    min (min (a * min b limit) limit) cap = min cap (a * b) := by
  rw [Nat.min_assoc, Nat.min_eq_right h, Nat.min_comm]
  rcases Nat.le_total b limit with hb | hb
  · rw [Nat.min_eq_left hb]
  · rw [Nat.min_eq_right hb]
    rcases Nat.eq_zero_or_pos a with rfl | ha
    · rw [Nat.zero_mul, Nat.zero_mul]
    · have hlimit : cap ≤ a * limit := h.trans (Nat.le_mul_of_pos_left limit ha)
      have hproduct : cap ≤ a * b := hlimit.trans (Nat.mul_le_mul_left a hb)
      rw [Nat.min_eq_left hlimit, Nat.min_eq_left hproduct]

lemma delay_eq (h : p.maxDelay ≤ wordMax) (n : Nat) :
    p.delay n = min p.maxDelay (p.initialDelay * 2 ^ (n - 1)) := by
  rw [← capped_mul h, ← saturated_pow]
  rfl

/-- The waits double from the first one on until they reach the cap, where they stay. -/
theorem delay_exact (h : p.maxDelay ≤ wordMax) :
    (∀ n, p.delay n = min p.maxDelay (p.initialDelay * 2 ^ (max n 1 - 1))) ∧
    (∀ n, p.delay n ≤ p.maxDelay ∧ p.delay n ≤ wordMax) ∧ Monotone p.delay ∧
    ∀ m n, m ≤ n → p.delay m = p.maxDelay → p.delay n = p.maxDelay := by
  have hle : ∀ n, p.delay n ≤ p.maxDelay := by
    intro n
    rw [delay_eq h]
    exact Nat.min_le_left _ _
  have hmono : Monotone p.delay := by
    intro m n hmn
    rw [delay_eq h, delay_eq h]
    apply min_le_min le_rfl
    apply Nat.mul_le_mul_left
    exact Nat.pow_le_pow_right (by decide) (by omega)
  refine ⟨fun n => ?_, fun n => ⟨hle n, (hle n).trans h⟩, hmono, fun m n hmn hm => ?_⟩
  · rw [delay_eq h, show max n 1 - 1 = n - 1 by omega]
  · apply Nat.le_antisymm (hle n)
    rw [← hm]
    exact hmono hmn

theorem delay_exact_word :
    let p : RetryPolicy := ⟨1, wordMax, 0⟩
    p.maxDelay ≤ wordMax ∧ p.delay 64 = 2 ^ 63 ∧ p.delay 65 = wordMax := by
  intro p
  have h : p.maxDelay ≤ wordMax := le_rfl
  obtain ⟨heq, -⟩ := delay_exact h
  refine ⟨h, (heq 64).trans ?_, (heq 65).trans ?_⟩
  · decide
  · decide

end RetryPolicy

variable {ε α : Type}

namespace Connection

structure EndsAt (c : Connection ε α) (i time : Nat) (result : Option (Except ε α)) : Prop where
  length : c.starts.length = i + 1
  elapsed : c.elapsed = time
  result : c.result = result

def after (c : Connection ε α) (start : Nat) : Connection ε α :=
  { c with starts := start :: c.starts }

lemma EndsAt.after {c : Connection ε α} {i time : Nat} {result : Option (Except ε α)}
    (h : c.EndsAt i time result) (start : Nat) : (c.after start).EndsAt (i + 1) time result :=
  ⟨congrArg (· + 1) h.length, h.elapsed, h.result⟩

end Connection

namespace RetryPolicy

variable {p : RetryPolicy} {ticks k t : Nat} {attempts : List (Attempt ε α)} {c : Connection ε α}

structure Proceeds (p : RetryPolicy) (ticks : Nat) (attempts : List (Attempt ε α))
    (c : Connection ε α) (i k start : Nat) (a : Attempt ε α) : Prop where
  succeeds : ∀ v, a.result = .ok v → c.EndsAt i (start + a.duration) (some (.ok v))
  gives_up : ∀ e, a.result = .error e →
    p.maxWait * ticks < start + a.duration + p.delay k * ticks →
      c.EndsAt i (start + a.duration) (some (.error e))
  goes_on : ∀ e, a.result = .error e →
    start + a.duration + p.delay k * ticks ≤ p.maxWait * ticks →
      if i + 1 < attempts.length then
        c.starts[i + 1]? = some (start + a.duration + p.delay k * ticks)
      else c.EndsAt i (start + a.duration + p.delay k * ticks) none

lemma Proceeds.after {i start : Nat} {a : Attempt ε α} (h : p.Proceeds ticks attempts c i k start a)
    (b : Attempt ε α) (t : Nat) :
    p.Proceeds ticks (b :: attempts) (c.after t) (i + 1) k start a where
  succeeds v hv := (h.succeeds v hv).after t
  gives_up e he late := (h.gives_up e he late).after t
  goes_on e he early := by
    have hnext := h.goes_on e he early
    simp only [List.length_cons, Nat.add_lt_add_iff_right]
    split_ifs at hnext ⊢
    · exact hnext
    · exact hnext.after t

/-- What is made of the attempts from the one with number `k` on, which begins at `t`. -/
inductive Makes (p : RetryPolicy) (ticks : Nat) :
    Nat → Nat → List (Attempt ε α) → Connection ε α → Prop
  | still (k t : Nat) : Makes p ticks k t [] ⟨[], t, none⟩
  | success (k t : Nat) (a : Attempt ε α) (rest : List (Attempt ε α)) (v : α)
      (hv : a.result = .ok v) :
      Makes p ticks k t (a :: rest) ⟨[t], t + a.duration, some (.ok v)⟩
  | failure (k t : Nat) (a : Attempt ε α) (rest : List (Attempt ε α)) (e : ε)
      (he : a.result = .error e)
      (late : p.maxWait * ticks < t + a.duration + p.delay k * ticks) :
      Makes p ticks k t (a :: rest) ⟨[t], t + a.duration, some (.error e)⟩
  | again (k t : Nat) (a : Attempt ε α) (rest : List (Attempt ε α)) (e : ε) (c : Connection ε α)
      (he : a.result = .error e)
      (early : t + a.duration + p.delay k * ticks ≤ p.maxWait * ticks)
      (next : Makes p ticks (k + 1) (t + a.duration + p.delay k * ticks) rest c) :
      Makes p ticks k t (a :: rest) (c.after t)

lemma makes_connectFrom (p : RetryPolicy) (ticks k t : Nat) (attempts : List (Attempt ε α)) :
    Makes p ticks k t attempts (p.connectFrom ticks k t attempts) := by
  induction attempts generalizing k t with
  | nil => exact .still k t
  | cons a rest ih =>
    cases hr : a.result with
    | ok v =>
      rw [connectFrom]
      simp only [hr]
      exact .success k t a rest v hr
    | error e =>
      rcases Nat.lt_or_ge (p.maxWait * ticks) (t + a.duration + p.delay k * ticks) with hlt | hge
      · simp only [connectFrom, hr, next?, if_pos hlt]
        exact .failure k t a rest e hr hlt
      · simp only [connectFrom, hr, next?, if_neg (Nat.not_lt.mpr hge)]
        exact .again k t a rest e _ hr hge (ih _ _)

namespace Makes

lemma first (h : Makes p ticks k t attempts c) (hne : attempts ≠ []) : c.starts[0]? = some t := by
  cases h with
  | still => exact (hne rfl).elim
  | success => rfl
  | failure => rfl
  | again => rfl

lemma starts_le (h : Makes p ticks k t attempts c) (ht : t ≤ p.maxWait * ticks) :
    ∀ start ∈ c.starts, start ≤ p.maxWait * ticks := by
  induction h with
  | still k t => nofun
  | success k t a rest v hv => simpa using ht
  | failure k t a rest e he late => simpa using ht
  | again k t a rest e c he early next ih => exact List.forall_mem_cons.mpr ⟨ht, ih early⟩

lemma proceeds (h : Makes p ticks k t attempts c) {i start : Nat} {a : Attempt ε α}
    (ha : attempts[i]? = some a) (hs : c.starts[i]? = some start) :
    p.Proceeds ticks attempts c i (k + i) start a := by
  induction h generalizing i with
  | still k t => cases ha
  | success k t b rest v hv =>
    cases i with
    | succ i => cases hs
    | zero =>
      cases ha
      cases hs
      refine ⟨fun w hw => ?_, fun e he => ?_, fun e he => ?_⟩
      · cases hv.symm.trans hw
        exact ⟨rfl, rfl, rfl⟩
      · cases hv.symm.trans he
      · cases hv.symm.trans he
  | failure k t b rest e he late =>
    cases i with
    | succ i => cases hs
    | zero =>
      cases ha
      cases hs
      refine ⟨fun w hw => ?_, fun e' he' _ => ?_, fun e' he' early => ?_⟩
      · cases he.symm.trans hw
      · cases he.symm.trans he'
        exact ⟨rfl, rfl, rfl⟩
      · exact (Nat.not_lt.mpr early late).elim
  | again k t b rest e c he early next ih =>
    cases i with
    | succ i =>
      have hrest := (ih ha hs).after b t
      rwa [Nat.add_right_comm] at hrest
    | zero =>
      cases ha
      cases hs
      refine ⟨fun w hw => ?_, fun e' he' late => ?_, fun e' he' _ => ?_⟩
      · cases he.symm.trans hw
      · exact (Nat.not_lt.mpr early late).elim
      · cases rest with
        | nil =>
          cases next
          exact ⟨rfl, rfl, rfl⟩
        | cons b' rest => exact next.first (List.cons_ne_nil _ _)

lemma unfinished (h : Makes p ticks k t attempts c) (ht : t ≤ p.maxWait * ticks)
    (hr : c.result = none) :
    c.starts.length = attempts.length ∧ c.elapsed ≤ p.maxWait * ticks := by
  induction h with
  | still k t => exact ⟨rfl, ht⟩
  | success k t a rest v hv => cases hr
  | failure k t a rest e he late => cases hr
  | again k t a rest e c he early next ih =>
    obtain ⟨hlength, helapsed⟩ := ih early hr
    exact ⟨congrArg (· + 1) hlength, helapsed⟩

lemma finished (h : Makes p ticks k t attempts c) {result : Except ε α}
    (hr : c.result = some result) : ∃ i start a, attempts[i]? = some a ∧
      c.starts[i]? = some start ∧ c.EndsAt i (start + a.duration) (some result) ∧
      a.result = result ∧ ∀ j < i, ∃ b e, attempts[j]? = some b ∧ b.result = .error e := by
  induction h with
  | still k t => cases hr
  | success k t a rest v hv =>
    cases hr
    exact ⟨0, t, a, rfl, rfl, ⟨rfl, rfl, rfl⟩, hv, nofun⟩
  | failure k t a rest e he late =>
    cases hr
    exact ⟨0, t, a, rfl, rfl, ⟨rfl, rfl, rfl⟩, he, nofun⟩
  | again k t a rest e c he early next ih =>
    obtain ⟨i, start, b, hb, hs, hends, hresult, hfailed⟩ := ih hr
    refine ⟨i + 1, start, b, hb, hs, hends.after t, hresult, fun j hj => ?_⟩
    cases j with
    | zero => exact ⟨a, e, rfl, he⟩
    | succ j => exact hfailed j (Nat.lt_of_succ_lt_succ hj)

end Makes

lemma length_le_of_spaced {starts : List Nat} {limit : Nat} (hticks : 0 < ticks)
    (hlimit : ∀ start ∈ starts, start ≤ limit * ticks)
    (hspaced : ∀ i s u, starts[i]? = some s → starts[i + 1]? = some u → s + ticks ≤ u) :
    starts.length ≤ limit + 1 := by
  have hfar : ∀ i s, starts[i]? = some s → i * ticks ≤ s := by
    intro i
    induction i with
    | zero => simp
    | succ i ih =>
      intro u hu
      obtain ⟨hlt, -⟩ := List.getElem?_eq_some_iff.mp hu
      have hs := List.getElem?_eq_getElem (Nat.lt_of_succ_lt hlt)
      calc (i + 1) * ticks = i * ticks + ticks := Nat.succ_mul i ticks
        _ ≤ _ := Nat.add_le_add_right (ih _ hs) ticks
        _ ≤ u := hspaced i _ u hs hu
  by_contra hlong
  have hlt : limit + 1 < starts.length := Nat.not_le.mp hlong
  have hlast := hfar (limit + 1) _ (List.getElem?_eq_getElem hlt)
  have hle : (limit + 1) * ticks ≤ limit * ticks := hlast.trans (hlimit _ (List.getElem_mem hlt))
  exact absurd (Nat.le_of_mul_le_mul_right hle hticks) (Nat.not_succ_le_self limit)

/-- Each attempt begins a wait after the one before it has failed, and none begins too late. If the
clock moves by a millisecond from each attempt to the next, they come to an end. -/
theorem connectBy_keeps_schedule (p : RetryPolicy) (ticks : Nat) (hticks : 0 < ticks)
    (attempts : List (Attempt ε α)) :
    let c := p.connectBy ticks attempts
    (attempts ≠ [] → c.starts[0]? = some 0) ∧
    (∀ i a start, attempts[i]? = some a → c.starts[i]? = some start →
      p.Proceeds ticks attempts c i (i + 1) start a) ∧
    (∀ result, c.result = some result → ∃ i start a, attempts[i]? = some a ∧
      c.starts[i]? = some start ∧ c.EndsAt i (start + a.duration) (some result) ∧
      a.result = result ∧ (∀ j < i, ∃ b e, attempts[j]? = some b ∧ b.result = .error e) ∧
      c.elapsed ≤ p.maxWait * ticks + a.duration) ∧
    (∀ start ∈ c.starts, start ≤ p.maxWait * ticks) ∧
    (c.result = none → c.starts.length = attempts.length ∧ c.elapsed ≤ p.maxWait * ticks) ∧
    ((∀ i s u, c.starts[i]? = some s → c.starts[i + 1]? = some u → s + ticks ≤ u) →
      c.starts.length ≤ p.maxWait + 1 ∧
      (p.maxWait + 1 < attempts.length → c.result.isSome = true)) := by
  intro c
  have h : Makes p ticks 1 0 attempts c := makes_connectFrom p ticks 1 0 attempts
  have hstarts := h.starts_le (Nat.zero_le _)
  refine ⟨h.first, fun i a start ha hs => ?_, fun result hr => ?_, hstarts,
    h.unfinished (Nat.zero_le _), fun hspaced => ?_⟩
  · have hnext := h.proceeds ha hs
    rwa [Nat.add_comm] at hnext
  · obtain ⟨i, start, a, ha, hs, hends, hresult, hfailed⟩ := h.finished hr
    refine ⟨i, start, a, ha, hs, hends, hresult, hfailed, ?_⟩
    rw [hends.elapsed]
    exact Nat.add_le_add_right (hstarts start (List.mem_of_getElem? hs)) _
  · have hmade := length_le_of_spaced hticks hstarts hspaced
    refine ⟨hmade, fun hmany => ?_⟩
    by_contra hnone
    rw [Bool.not_eq_true, Option.isSome_eq_false_iff, Option.isNone_iff_eq_none] at hnone
    have hall := (h.unfinished (Nat.zero_le _) hnone).1
    omega

theorem connectBy_keeps_schedule_refused :
    let p : RetryPolicy := ⟨1, 2, 5⟩
    let attempts : List (Attempt String Unit) := List.replicate 7 ⟨0, .error "refused"⟩
    let c := p.connectBy 1000000 attempts
    c.starts = [0, 1000000, 3000000, 5000000] ∧ c.result = some (.error "refused") ∧
    c.starts.length ≤ 6 := by
  intro p attempts c
  have hstarts : c.starts = [0, 1000000, 3000000, 5000000] := by decide +kernel
  obtain ⟨-, hproceeds, -, -, -, hends⟩ := connectBy_keeps_schedule p 1000000 (by decide) attempts
  have hlast := (hproceeds 3 _ 5000000 rfl (by rw [hstarts]; rfl)).gives_up "refused" rfl (by decide)
  refine ⟨hstarts, hlast.result, (hends fun i s u hs hu => ?_).1⟩
  change c.starts[i]? = some s at hs
  change c.starts[i + 1]? = some u at hu
  rw [hstarts] at hs hu
  match i with
  | 0 | 1 | 2 => cases hs; cases hu; decide
  | i + 3 => cases hu

end RetryPolicy

end Billboard
