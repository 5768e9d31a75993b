import Billboard.Json.Shape
import Billboard.Proofs.Json.NumberText

namespace Billboard.Json

open Text

lemma skipSpace_cons {c : Char} (r : List Char) (h : isSpace c = false) :
    skipSpace (c :: r) = c :: r := by
  simp [skipSpace, h]

lemma not_space_of_digit {c : Char} (h : isDigit c = true) : isSpace c = false := by
  by_contra hs
  simp only [isSpace, Bool.not_eq_false, Bool.or_eq_true, beq_iff_eq] at hs
  rcases hs with ((rfl | rfl) | rfl) | rfl <;> revert h <;> decide

lemma gather_all (acc : Nat) (cs : List Char) (h : valueOfDigits acc cs < 0x10000000000000000) :
    gather acc cs = (valueOfDigits acc cs, []) := by
  induction cs generalizing acc with
  | nil => rfl
  | cons c cs ih =>
    have hn := le_valueOfDigits (acc * 10 + (digitValue? c).getD 0) cs
    change valueOfDigits (acc * 10 + (digitValue? c).getD 0) cs < _ at h
    rw [gather, if_pos (by omega), ih _ h]
    rfl

lemma value_of_gather (acc : Nat) (cs : List Char) (h : (gather acc cs).2 = []) :
    (gather acc cs).1 = valueOfDigits acc cs := by
  induction cs generalizing acc with
  | nil => rfl
  | cons c cs ih =>
    by_cases hs : acc * 10 + (digitValue? c).getD 0 < 0x10000000000000000
    · rw [gather, if_pos hs] at h ⊢
      exact ih _ h
    · rw [gather, if_neg hs] at h
      exact (List.cons_ne_nil _ _ h).elim

def Number.Exact : Number → Prop
  | .int i => -0x8000000000000000 ≤ i ∧ i < 0x10000000000000000
  | .float _ => False

lemma value_nat {n : Nat} (h : n < 0x10000000000000000) :
    NumberText.value ⟨false, natDigits n, none, none⟩ = some (.int n) := by
  simp [NumberText.value, gather_all 0 (natDigits n) (by simpa using h)]

lemma value_neg {n : Nat} (hpos : 0 < n) (h : n ≤ 0x8000000000000000) :
    NumberText.value ⟨true, natDigits n, none, none⟩ = some (.int (-n)) := by
  have hz : ¬ (n = 0 ∨ 0x8000000000000000 < n) := by omega
  simp [NumberText.value, gather_all 0 (natDigits n) (by simp; omega), hz]

lemma int_of_value {negative : Bool} {n : Nat} {j : Int}
    (h : NumberText.value ⟨negative, natDigits n, none, none⟩ = some (.int j)) :
    j = if negative then -(n : Int) else n := by
  have hv := value_of_gather 0 (natDigits n)
  rcases hg : gather 0 (natDigits n) with ⟨digits, excess⟩
  rw [hg, valueOfDigits_natDigits] at hv
  simp only [NumberText.value, hg] at h
  by_cases hx : excess = []
  · obtain rfl : digits = n := hv hx
    cases negative with
    | false => simpa [hx, eq_comm] using h
    | true =>
      simp only [hx, Bool.not_true, Bool.false_eq_true, and_self, if_true, if_false] at h
      split_ifs at h
      · simp at h
      · simpa [eq_comm] using h
  · simp [hx] at h

lemma readNumberTail_natDigits (negative : Bool) (n : Nat) {rest : List Char}
    (hr : Delimited rest) : readNumberTail negative (natDigits n ++ rest) =
      match NumberText.value ⟨negative, natDigits n, none, none⟩ with
      | none => .error .malformed
      | some v => .ok (v, rest) := by
  cases hv : NumberText.value ⟨negative, natDigits n, none, none⟩ <;>
    simp only [readNumberTail, readNumberText_natDigits negative n hr, hv]

lemma readNumberTail_nat {n : Nat} (hn : n < 0x10000000000000000) {rest : List Char}
    (hr : Delimited rest) :
    readNumberTail false (natDigits n ++ rest) = .ok (.int n, rest) := by
  rw [readNumberTail_natDigits false n hr, value_nat hn]

lemma readNumberTail_neg {n : Nat} (hpos : 0 < n) (hn : n ≤ 0x8000000000000000)
    {rest : List Char} (hr : Delimited rest) :
    readNumberTail true (natDigits n ++ rest) = .ok (.int (-n), rest) := by
  rw [readNumberTail_natDigits true n hr, value_neg hpos hn]

lemma natDigits_eq_cons (n : Nat) : ∃ c ds, natDigits n = c :: ds ∧ isDigit c = true := by
  cases h : natDigits n with
  | nil => exact (natDigits_ne_nil n h).elim
  | cons c ds => exact ⟨c, ds, rfl, isDigit_of_mem_natDigits n c (by simp [h])⟩

lemma integer_natDigits (range : IntRange) (label : String) (b : Budget) (n : Nat)
    (rest : List Char) : integer range label b (natDigits n ++ rest) =
      (readNumberTail false (natDigits n ++ rest)).bind fun p =>
        (takeInt range label p.1).map (·, p.2) := by
  obtain ⟨c, ds, hds, hc⟩ := natDigits_eq_cons n
  have hm : c ≠ '-' := by
    rintro rfl
    exact Bool.false_ne_true hc
  rw [hds, List.cons_append, integer, skipSpace_cons _ (not_space_of_digit hc)]
  split
  · rename_i h
    exact (hm (List.cons.inj h).1).elim
  · rename_i h
    obtain ⟨rfl, rfl⟩ := List.cons.inj h
    rw [if_pos hc]
    cases readNumberTail false (c :: (ds ++ rest)) <;> rfl
  · rename_i h
    exact (List.cons_ne_nil _ _ h).elim

lemma integer_minus (range : IntRange) (label : String) (b : Budget) (cs : List Char) :
    integer range label b ('-' :: cs) =
      (readNumberTail true cs).bind fun p => (takeInt range label p.1).map (·, p.2) := by
  rw [integer, skipSpace_cons _ (by decide)]
  cases h : readNumberTail true cs <;> simp only [h] <;> rfl

lemma integer_intDigits {range : IntRange} {i : Int} (label : String) (b : Budget)
    (hi : range.contains i = true) (hx : Number.Exact (.int i)) {rest : List Char}
    (hr : Delimited rest) : integer range label b (intDigits i ++ rest) = .ok (i, rest) := by
  cases i with
  | ofNat n =>
    have hhi : (n : Int) < 0x10000000000000000 := hx.2
    rw [intDigits, integer_natDigits, readNumberTail_nat (by omega) hr]
    simp only [Except.bind, takeInt]
    rw [if_pos (show range.contains (n : Int) = true from hi)]
    rfl
  | negSucc n =>
    have hlo := hx.1
    rw [intDigits, List.cons_append, integer_minus, readNumberTail_neg (by omega) (by omega) hr]
    simp only [Except.bind, takeInt]
    rw [show (-((n + 1 : Nat) : Int)) = Int.negSucc n from rfl, if_pos hi]
    rfl

lemma takeInt_ok {range : IntRange} {label : String} {v : Number} {j : Int}
    (h : takeInt range label v = .ok j) : v = .int j ∧ range.contains j = true := by
  cases v with
  | int i =>
    simp only [takeInt] at h
    split_ifs at h with hc
    cases h
    exact ⟨rfl, hc⟩
  | float x => cases h

lemma integer_of_numeral {range : IntRange} {label : String} {negative : Bool} {n : Nat} {j : Int}
    {rest r : List Char} (hr : Delimited rest)
    (h : ((readNumberTail negative (natDigits n ++ rest)).bind fun p =>
      (takeInt range label p.1).map (·, p.2)) = .ok (j, r)) :
    j = (if negative then -(n : Int) else n) ∧ r = rest ∧ range.contains j = true := by
  rw [readNumberTail_natDigits negative n hr] at h
  cases hv : NumberText.value ⟨negative, natDigits n, none, none⟩ with
  | none => simp [hv, Except.bind] at h
  | some v =>
    cases ht : takeInt range label v with
    | error e => simp [hv, ht, Except.bind, Except.map] at h
    | ok k =>
      obtain ⟨rfl, hk⟩ := takeInt_ok ht
      simp only [hv, ht, Except.bind, Except.map, Except.ok.injEq, Prod.mk.injEq] at h
      obtain ⟨rfl, rfl⟩ := h
      exact ⟨int_of_value hv, rfl, hk⟩

lemma integer_sound {range : IntRange} {label : String} {b : Budget} {i j : Int}
    {rest r : List Char} (hr : Delimited rest)
    (h : integer range label b (intDigits i ++ rest) = .ok (j, r)) :
    j = i ∧ r = rest ∧ range.contains i = true := by
  cases i with
  | ofNat n =>
    rw [intDigits, integer_natDigits] at h
    obtain ⟨rfl, rfl, hc⟩ := integer_of_numeral hr h
    exact ⟨rfl, rfl, hc⟩
  | negSucc n =>
    rw [intDigits, List.cons_append, integer_minus] at h
    obtain ⟨rfl, rfl, hc⟩ := integer_of_numeral hr h
    exact ⟨rfl, rfl, hc⟩

end Billboard.Json
