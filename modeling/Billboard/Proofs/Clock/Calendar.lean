import Billboard.Clock.Calendar
import Mathlib.Tactic.Common
import Mathlib.Tactic.IntervalCases

/-! The date of a day has the number of that day. An era is 400 years of 146097 days; its years
begin in March. -/

namespace Billboard.Clock

def yearStart (y : Nat) : Nat := 365 * y + y / 4 - y / 100 + y / 400

lemma yearStart_succ_le (y : Nat) : yearStart (y + 1) ≤ yearStart y + 366 := by
  unfold yearStart
  omega

def commonDays (d : Nat) : Nat := d - d / 1460 + d / 36524 - d / 146096

lemma commonDays_mono {a b : Nat} (h : a ≤ b) : commonDays a ≤ commonDays b := by
  unfold commonDays
  omega

lemma commonDays_bounds : ∀ y < 400, 365 * y ≤ commonDays (yearStart y) ∧
    commonDays (yearStart (y + 1) - 1) < 365 * (y + 1) := by
  decide +kernel

lemma exists_year (n d : Nat) (h : d < yearStart n) :
    ∃ y < n, yearStart y ≤ d ∧ d < yearStart (y + 1) := by
  induction n with
  | zero => simp [yearStart] at h
  | succ n ih =>
    by_cases hd : d < yearStart n
    · obtain ⟨y, hy, hs⟩ := ih hd
      exact ⟨y, by omega, hs⟩
    · exact ⟨n, by omega, by omega, h⟩

lemma year_of_day {d : Nat} (h : d < 146097) : commonDays d / 365 < 400 ∧
    yearStart (commonDays d / 365) ≤ d ∧ d < yearStart (commonDays d / 365 + 1) := by
  obtain ⟨y, hy, hlo, hhi⟩ := exists_year 400 d h
  obtain ⟨hs, he⟩ := commonDays_bounds y hy
  have h1 := commonDays_mono hlo
  have h2 := commonDays_mono (show d ≤ yearStart (y + 1) - 1 by omega)
  have hq : commonDays d / 365 = y := by omega
  rw [hq]
  exact ⟨hy, hlo, hhi⟩

lemma month_of_day : ∀ r : Fin 366, let m := (5 * r.val + 2) / 153
    m < 12 ∧ (153 * m + 2) / 5 ≤ r.val ∧ r.val - (153 * m + 2) / 5 < 31 ∧
      (m ∈ [1, 3, 6, 8] → r.val - (153 * m + 2) / 5 < 30) ∧
      (m = 11 → r.val - (153 * m + 2) / 5 < 29) ∧
      (m = 11 → r.val < 365 → r.val - (153 * m + 2) / 5 < 28) := by
  decide +kernel

def dateOfParts (era : Int) (y r : Nat) : Date :=
  let m := (5 * r + 2) / 153
  let day := r - (153 * m + 2) / 5 + 1
  if m < 10 then ⟨era * 400 + y, m + 3, day⟩ else ⟨era * 400 + y + 1, m - 9, day⟩

lemma dateOfDay_parts (n : Int) : ∃ (era : Int) (y r : Nat), y < 400 ∧
    yearStart y + r < yearStart (y + 1) ∧ n + 719468 = era * 146097 + (yearStart y + r : Nat) ∧
      dateOfDay n = dateOfParts era y r := by
  obtain ⟨d, hd⟩ : ∃ d : Nat, (n + 719468) % 146097 = d :=
    ⟨_, (Int.toNat_of_nonneg (Int.emod_nonneg _ (by decide))).symm⟩
  have hlt : d < 146097 := by omega
  obtain ⟨hy, hlo, hhi⟩ := year_of_day hlt
  have hyear : ((d : Int) - d / 1460 + d / 36524 - d / 146096) / 365
      = (commonDays d / 365 : Nat) := by
    unfold commonDays
    omega
  generalize commonDays d / 365 = y at *
  obtain ⟨r, hr⟩ : ∃ r, d = yearStart y + r := ⟨d - yearStart y, by omega⟩
  refine ⟨(n + 719468) / 146097, y, r, hy, by omega, by omega, ?_⟩
  have hday : (d : Int) - (365 * (y : Int) + (y : Int) / 4 - (y : Int) / 100) = r := by
    unfold yearStart at hr
    omega
  have hrl : r < 366 := by
    have := yearStart_succ_le y
    omega
  obtain ⟨hm, hs, -⟩ := month_of_day ⟨r, hrl⟩
  simp only at hm hs
  simp only [dateOfDay, dateOfParts, hd, hyear, hday]
  have hmonth : (5 * (r : Int) + 2) / 153 = ((5 * r + 2) / 153 : Nat) := by omega
  simp only [hmonth]
  generalize (5 * r + 2) / 153 = m at *
  by_cases hm10 : m < 10
  · have h1 : (m : Int) < 10 := by omega
    have h2 : ¬ ((m : Int) + 3 ≤ 2) := by omega
    simp only [h1, hm10, if_true, h2, if_false, Date.mk.injEq]
    omega
  · have h1 : ¬ (m : Int) < 10 := by omega
    have h2 : (m : Int) - 9 ≤ 2 := by omega
    simp only [h1, hm10, if_true, h2, if_false, Date.mk.injEq]
    omega

lemma dayNumber_parts (era : Int) {y r : Nat} (hy : y < 400) (hr : r < 366) :
    (dateOfParts era y r).dayNumber = era * 146097 + (yearStart y + r : Nat) - 719468 := by
  obtain ⟨hm, hs, -⟩ := month_of_day ⟨r, hr⟩
  simp only at hm hs
  unfold dateOfParts
  simp only
  generalize (5 * r + 2) / 153 = m at *
  by_cases hm10 : m < 10
  · have h1 : ¬ m + 3 ≤ 2 := by omega
    simp only [hm10, if_true, Date.dayNumber, h1, if_false, yearStart]
    omega
  · have h1 : m - 9 ≤ 2 := by omega
    simp only [hm10, if_false, Date.dayNumber, h1, if_true, yearStart]
    omega

theorem dayNumber_dateOfDay (n : Int) : (dateOfDay n).dayNumber = n := by
  obtain ⟨era, y, r, hy, hr, hn, hd⟩ := dateOfDay_parts n
  have hrl : r < 366 := by
    have := yearStart_succ_le y
    omega
  rw [hd, dayNumber_parts era hy hrl]
  omega

lemma isLeapYear_of_long {y : Nat} (era : Int) (h : yearStart y + 365 < yearStart (y + 1))
    (hy : y < 400) : isLeapYear (era * 400 + y + 1) = true := by
  have h4 : (y + 1) % 4 = 0 := by
    unfold yearStart at h
    omega
  have h100 : (y + 1) % 100 ≠ 0 ∨ y + 1 = 400 := by
    unfold yearStart at h
    omega
  simp only [isLeapYear, Bool.and_eq_true, Bool.or_eq_true, beq_iff_eq, bne_iff_ne]
  omega

lemma valid_parts (era : Int) {y r : Nat} (hy : y < 400)
    (hr : yearStart y + r < yearStart (y + 1)) : (dateOfParts era y r).valid = true := by
  have hrl : r < 366 := by
    have := yearStart_succ_le y
    omega
  obtain ⟨hm, hs, hd, hd30, hd29, hd28⟩ := month_of_day ⟨r, hrl⟩
  simp only at hm hs hd hd30 hd29 hd28
  unfold dateOfParts
  simp only
  generalize (5 * r + 2) / 153 = m at *
  simp only [Date.valid, Bool.and_eq_true, decide_eq_true_eq]
  rcases Nat.lt_or_ge m 10 with hm10 | hm10
  · simp only [hm10, if_true]
    refine ⟨⟨⟨by omega, by omega⟩, by omega⟩, ?_⟩
    interval_cases m <;> simp only [daysInMonth] <;> simp at hd30 <;> omega
  · simp only [Nat.not_lt.mpr hm10, if_false]
    refine ⟨⟨⟨by omega, by omega⟩, by omega⟩, ?_⟩
    rcases Nat.lt_or_ge m 11 with hm11 | hm11
    · obtain rfl : m = 10 := by omega
      simp only [daysInMonth]
      omega
    · obtain rfl : m = 11 := by omega
      simp only [daysInMonth]
      by_cases hl : r = 365
      · subst hl
        rw [isLeapYear_of_long era hr hy, if_pos rfl]
      · have := hd28 rfl (by omega)
        split <;> omega

lemma daysInMonth_le (year : Int) (month : Nat) : daysInMonth year month ≤ 31 := by
  unfold daysInMonth
  split <;> first | omega | (split <;> omega)

theorem valid_dateOfDay (n : Int) : (dateOfDay n).valid = true := by
  obtain ⟨era, y, r, hy, hr, -, hd⟩ := dateOfDay_parts n
  rw [hd]
  exact valid_parts era hy hr

end Billboard.Clock
