import Billboard.Text.Numeral
import Mathlib.Algebra.Group.Nat.Defs
import Mathlib.Tactic.Common

namespace Billboard.Text

lemma digitValue_digit : ∀ d < 10, digitValue? (digit d) = some d := by decide

lemma isDigit_digit {d : Nat} (hd : d < 10) : isDigit (digit d) = true := by
  simp [isDigit, digitValue_digit d hd]

lemma digit_ne_zero : ∀ d < 10, d ≠ 0 → digit d ≠ '0' := by decide

lemma isDigit_iff {c : Char} : isDigit c = true ↔ '0' ≤ c ∧ c ≤ '9' := by
  unfold isDigit digitValue?
  split_ifs with h <;> simp [h]

lemma toLower_of_isUpper_eq_false {c : Char} (h : c.isUpper = false) : c.toLower = c := by
  unfold Char.toLower
  split
  · rename_i hupper
    exact (of_decide_eq_false h hupper).elim
  · rfl

lemma toLower_of_isDigit {c : Char} (h : isDigit c = true) : c.toLower = c := by
  obtain ⟨-, hhi⟩ := isDigit_iff.mp h
  rw [Char.le_def, UInt32.le_iff_toNat_le] at hhi
  refine toLower_of_isUpper_eq_false (decide_eq_false fun hupper => ?_)
  have hlo := hupper.1
  rw [ge_iff_le, UInt32.le_iff_toNat_le] at hlo
  have hA : ('A'.val).toNat = 65 := rfl
  have h9 : ('9'.val).toNat = 57 := rfl
  omega

lemma natDigits_small {n : Nat} (h : n < 10) : natDigits n = [digit n] := by
  rw [natDigits, if_pos h]

lemma natDigits_large {n : Nat} (h : 10 ≤ n) :
    natDigits n = natDigits (n / 10) ++ [digit (n % 10)] := by
  rw [natDigits, if_neg (by omega)]

lemma natDigits_ne_nil (n : Nat) : natDigits n ≠ [] := by
  rw [natDigits]
  split <;> simp

lemma isDigit_of_mem_natDigits (n : Nat) : ∀ c ∈ natDigits n, isDigit c = true := by
  fun_induction natDigits n with
  | case1 n h =>
    intro c hc
    rw [List.mem_singleton.mp hc]
    exact isDigit_digit h
  | case2 n h ih =>
    intro c hc
    rcases List.mem_append.mp hc with hc | hc
    · exact ih c hc
    · rw [List.mem_singleton.mp hc]
      exact isDigit_digit (Nat.mod_lt n (by omega))

lemma valueOfDigits_append (acc : Nat) (cs ds : List Char) :
    valueOfDigits acc (cs ++ ds) = valueOfDigits (valueOfDigits acc cs) ds := by
  simp [valueOfDigits]

lemma le_valueOfDigits (acc : Nat) (cs : List Char) : acc ≤ valueOfDigits acc cs := by
  induction cs generalizing acc with
  | nil => exact Nat.le_refl acc
  | cons c cs ih =>
    have h := ih (acc * 10 + (digitValue? c).getD 0)
    change acc ≤ valueOfDigits (acc * 10 + (digitValue? c).getD 0) cs
    omega

@[simp] lemma valueOfDigits_natDigits (n : Nat) : valueOfDigits 0 (natDigits n) = n := by
  fun_induction natDigits n with
  | case1 n h => simp [valueOfDigits, digitValue_digit n h]
  | case2 n h ih =>
    rw [valueOfDigits_append, ih]
    simp only [valueOfDigits, List.foldl_cons, List.foldl_nil,
      digitValue_digit _ (Nat.mod_lt n (by omega)), Option.getD_some]
    omega

lemma natDigits_injective : Function.Injective natDigits :=
  Function.LeftInverse.injective valueOfDigits_natDigits

lemma natDigits_head_ne_zero (n : Nat) (h : n ≠ 0) : (natDigits n).head? ≠ some '0' := by
  fun_induction natDigits n with
  | case1 n hn => simpa using digit_ne_zero n hn h
  | case2 n hn ih =>
    rw [List.head?_append, Option.or_of_isSome (by simp [natDigits_ne_nil])]
    exact ih (by omega)

lemma natDigits_no_leading_zero (n : Nat) :
    ¬ ((natDigits n).head? = some '0' ∧ 1 < (natDigits n).length) := by
  rintro ⟨hz, hl⟩
  by_cases h : n = 0
  · rw [h, natDigits_small (by omega)] at hl
    simp at hl
  · exact natDigits_head_ne_zero n h hz

lemma digit_of_digitValue? {c : Char} {d : Nat} (h : digitValue? c = some d) :
    d < 10 ∧ digit d = c := by
  unfold digitValue? at h
  split_ifs at h with hc
  have hlo : 48 ≤ c.toNat := hc.1
  have hhi : c.toNat ≤ 57 := hc.2
  obtain rfl := Option.some.inj h
  refine ⟨by omega, ?_⟩
  rw [digit, Nat.add_sub_cancel' hlo, Char.ofNat_toNat]

lemma natDigits_valueOfDigits {acc : Nat} (hacc : acc ≠ 0) {cs : List Char}
    (hcs : ∀ c ∈ cs, isDigit c = true) : natDigits (valueOfDigits acc cs) = natDigits acc ++ cs := by
  induction cs generalizing acc with
  | nil => exact (List.append_nil _).symm
  | cons c cs ih =>
    obtain ⟨hc, hrest⟩ := List.forall_mem_cons.mp hcs
    obtain ⟨d, hd⟩ := Option.isSome_iff_exists.mp hc
    obtain ⟨hlt, rfl⟩ := digit_of_digitValue? hd
    have hnext : natDigits (acc * 10 + d) = natDigits acc ++ [digit d] := by
      have hdiv : (acc * 10 + d) / 10 = acc := by omega
      have hmod : (acc * 10 + d) % 10 = d := by omega
      rw [natDigits_large (by omega), hdiv, hmod]
    have hvalue : valueOfDigits acc (digit d :: cs) = valueOfDigits (acc * 10 + d) cs := by
      simp only [valueOfDigits, List.foldl_cons, hd, Option.getD_some]
    rw [hvalue, ih (by omega) hrest, hnext, List.append_assoc, List.singleton_append]

lemma natDigits_of_no_leading_zero {cs : List Char} (hne : cs ≠ [])
    (hcs : ∀ c ∈ cs, isDigit c = true) (hzero : ¬ (cs.head? = some '0' ∧ 1 < cs.length)) :
    natDigits (valueOfDigits 0 cs) = cs := by
  obtain ⟨c, rest, rfl⟩ := List.exists_cons_of_ne_nil hne
  obtain ⟨hc, hrest⟩ := List.forall_mem_cons.mp hcs
  obtain ⟨d, hd⟩ := Option.isSome_iff_exists.mp hc
  obtain ⟨hlt, rfl⟩ := digit_of_digitValue? hd
  have hvalue : valueOfDigits 0 (digit d :: rest) = valueOfDigits d rest := by
    simp only [valueOfDigits, List.foldl_cons, hd, Option.getD_some, Nat.zero_mul, Nat.zero_add]
  rw [hvalue]
  by_cases hd0 : d = 0
  · subst hd0
    have hnil : rest = [] := by
      by_contra hne
      exact hzero ⟨rfl, Nat.succ_lt_succ (List.length_pos_iff.mpr hne)⟩
    rw [hnil]
    exact natDigits_small (by decide)
  · rw [natDigits_valueOfDigits hd0 hrest, natDigits_small hlt, List.singleton_append]

lemma natDigits_length_le (n k : Nat) (hk : 0 < k) (h : n < 10 ^ k) :
    (natDigits n).length ≤ k := by
  induction k generalizing n with
  | zero => omega
  | succ k ih =>
    by_cases hn : n < 10
    · simp [natDigits_small hn]
    · have hk' : 0 < k := by
        rcases Nat.eq_zero_or_pos k with rfl | hk'
        · simp at h; omega
        · exact hk'
      have hq := ih (n / 10) hk' (by rw [Nat.pow_succ] at h; omega)
      rw [natDigits_large (by omega)]
      simp only [List.length_append, List.length_singleton]
      omega

lemma minus_not_digit : isDigit '-' = false := by decide

lemma natDigits_ne_minus (n : Nat) (ds : List Char) : natDigits n ≠ '-' :: ds := by
  intro h
  have hd := isDigit_of_mem_natDigits n '-' (by rw [h]; exact List.mem_cons_self)
  rw [minus_not_digit] at hd
  exact Bool.false_ne_true hd

lemma intDigits_injective : Function.Injective intDigits := by
  intro i j h
  match i, j with
  | .ofNat m, .ofNat n => exact congrArg _ (natDigits_injective h)
  | .ofNat m, .negSucc n => exact (natDigits_ne_minus m _ h).elim
  | .negSucc m, .ofNat n => exact (natDigits_ne_minus n _ h.symm).elim
  | .negSucc m, .negSucc n =>
    have hs := natDigits_injective (List.cons.inj h).2
    exact congrArg _ (Nat.succ.inj hs)

lemma intText_injective : Function.Injective intText :=
  fun _ _ h => intDigits_injective (String.ofList_injective h)

lemma mem_intDigits {i : Int} {c : Char} (h : c ∈ intDigits i) : c = '-' ∨ isDigit c = true := by
  match i, h with
  | .ofNat n, h => exact .inr (isDigit_of_mem_natDigits n c h)
  | .negSucc n, h =>
    rcases List.mem_cons.mp h with h | h
    · exact .inl h
    · exact .inr (isDigit_of_mem_natDigits _ c h)

lemma length_padded {width n : Nat} (hw : 0 < width) (h : n < 10 ^ width) :
    (padded width n).length = width := by
  have hl := natDigits_length_le n width hw h
  simp only [padded, List.length_append, List.length_replicate]
  omega

lemma isDigit_of_mem_padded (width n : Nat) : ∀ c ∈ padded width n, isDigit c = true := by
  intro c hc
  rcases List.mem_append.mp hc with hc | hc
  · rw [List.eq_of_mem_replicate hc]
    decide
  · exact isDigit_of_mem_natDigits n c hc

lemma valueOfDigits_zeros (k : Nat) : valueOfDigits 0 (List.replicate k '0') = 0 := by
  induction k with
  | zero => rfl
  | succ k ih =>
    rw [List.replicate_succ', valueOfDigits_append, ih]
    rfl

@[simp] lemma valueOfDigits_padded (width n : Nat) : valueOfDigits 0 (padded width n) = n := by
  simp only [padded, valueOfDigits_append, valueOfDigits_zeros, valueOfDigits_natDigits]

lemma padded_ne_nil (width n : Nat) : padded width n ≠ [] := by
  simp [padded, natDigits_ne_nil]

lemma length_padded_le {width k n : Nat} (hw : width ≤ k) (hk : 0 < k) (h : n < 10 ^ k) :
    (padded width n).length ≤ k := by
  have hl := natDigits_length_le n k hk h
  simp only [padded, List.length_append, List.length_replicate]
  omega

lemma padded_head_digit (width n : Nat) (rest : List Char) {c : Char} {cs : List Char}
    (h : padded width n ++ rest = c :: cs) (hc : isDigit c = false) : False := by
  have hd := isDigit_of_mem_padded width n
  cases hp : padded width n with
  | nil => exact padded_ne_nil width n hp
  | cons d ds =>
    rw [hp, List.cons_append] at h
    rw [← (List.cons.inj h).1, hd d (by simp [hp])] at hc
    exact Bool.noConfusion hc

section

variable {ds rest : List Char} (hd : ∀ c ∈ ds, isDigit c = true)
  (hr : rest.head?.any isDigit = false)

include hd hr

lemma takeWhile_digits : (ds ++ rest).takeWhile isDigit = ds := by
  rw [List.takeWhile_append_of_pos hd]
  cases rest with
  | nil => simp
  | cons c rest =>
    have hc : isDigit c = false := by simpa using hr
    simp [hc]

lemma dropWhile_digits : (ds ++ rest).dropWhile isDigit = rest := by
  rw [List.dropWhile_append_of_pos hd]
  cases rest with
  | nil => rfl
  | cons c rest =>
    have hc : isDigit c = false := by simpa using hr
    simp [hc]

end

end Billboard.Text
