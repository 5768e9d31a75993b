import Billboard.Proofs.Text.Digits

namespace Billboard.Text

def signed (negative : Bool) (n : Nat) : Int := if negative then -n else n

variable {r : IntRange} {negative : Bool}

lemma IntRange.contains_iff {i : Int} : r.contains i = true ↔ r.lo ≤ i ∧ i ≤ r.hi := by
  rw [IntRange.contains, Bool.and_eq_true, decide_eq_true_eq, decide_eq_true_eq]

lemma signed_contains_of_le {m n : Nat} (hmn : m ≤ n) (hzero : r.lo ≤ 0 ∧ 0 ≤ r.hi)
    (h : r.contains (signed negative n) = true) : r.contains (signed negative m) = true := by
  rw [IntRange.contains_iff] at h ⊢
  cases negative with
  | false =>
    change r.lo ≤ (n : Int) ∧ (n : Int) ≤ r.hi at h
    change r.lo ≤ (m : Int) ∧ (m : Int) ≤ r.hi
    omega
  | true =>
    change r.lo ≤ -(n : Int) ∧ -(n : Int) ≤ r.hi at h
    change r.lo ≤ -(m : Int) ∧ -(m : Int) ≤ r.hi
    omega

lemma signed_next (negative : Bool) (acc d : Nat) :
    (if negative then signed negative acc * 10 - d else signed negative acc * 10 + d) =
      signed negative (acc * 10 + d) := by
  cases negative <;> simp only [signed, Bool.false_eq_true, if_true, if_false] <;> omega

lemma readDigits_eq_ok (negative : Bool) (acc : Nat) {cs : List Char}
    (hcs : ∀ c ∈ cs, isDigit c = true) (hzero : r.lo ≤ 0 ∧ 0 ≤ r.hi)
    (h : r.contains (signed negative (valueOfDigits acc cs)) = true) :
    readDigits r negative (signed negative acc) cs =
      .ok (signed negative (valueOfDigits acc cs)) := by
  induction cs generalizing acc with
  | nil => rfl
  | cons c cs ih =>
    obtain ⟨hc, hcs⟩ := List.forall_mem_cons.mp hcs
    obtain ⟨d, hd⟩ := Option.isSome_iff_exists.mp hc
    have hvalue : valueOfDigits acc (c :: cs) = valueOfDigits (acc * 10 + d) cs := by
      simp only [valueOfDigits, List.foldl_cons, hd, Option.getD_some]
    rw [hvalue] at h ⊢
    obtain ⟨hlo, hhi⟩ :=
      IntRange.contains_iff.mp (signed_contains_of_le (le_valueOfDigits (acc * 10 + d) cs) hzero h)
    simp only [readDigits, hd, signed_next]
    rw [if_neg (Int.not_lt.mpr hhi), if_neg (Int.not_lt.mpr hlo)]
    exact ih _ hcs h

lemma of_readDigits (acc : Nat) {cs : List Char} {n : Int}
    (hacc : r.contains (signed negative acc) = true)
    (h : readDigits r negative (signed negative acc) cs = .ok n) :
    (∀ c ∈ cs, isDigit c = true) ∧ n = signed negative (valueOfDigits acc cs) ∧
      r.contains n = true := by
  induction cs generalizing acc with
  | nil =>
    cases h
    exact ⟨List.forall_mem_nil _, rfl, hacc⟩
  | cons c cs ih =>
    rw [readDigits] at h
    cases hd : digitValue? c with
    | none => simp [hd] at h
    | some d =>
      simp only [hd, signed_next] at h
      split_ifs at h with hhi hlo
      obtain ⟨hcs, hn, hr⟩ := ih (acc * 10 + d)
        (IntRange.contains_iff.mpr ⟨Int.not_lt.mp hlo, Int.not_lt.mp hhi⟩) h
      refine ⟨List.forall_mem_cons.mpr ⟨by simp [isDigit, hd], hcs⟩, ?_, hr⟩
      rw [hn]
      simp only [valueOfDigits, List.foldl_cons, hd, Option.getD_some]

lemma readInt_of_digit {c : Char} {cs : List Char} (hc : isDigit c = true) :
    readInt r (c :: cs) = readDigits r false 0 (c :: cs) := by
  have hplus : c ≠ '+' := fun h => by
    rw [h] at hc
    revert hc
    decide
  have hminus : c ≠ '-' := fun h => by
    rw [h, minus_not_digit] at hc
    exact Bool.false_ne_true hc
  unfold readInt
  split <;> simp_all

lemma readInt_minus {cs : List Char} (hcs : cs ≠ []) (hlo : r.lo < 0) :
    readInt r ('-' :: cs) = readDigits r true 0 cs := by
  cases cs with
  | nil => exact (hcs rfl).elim
  | cons c cs => simp only [readInt, hlo, if_true]

def numeral (negative plus : Bool) (ds : List Char) : List Char :=
  if negative then '-' :: ds else if plus then '+' :: ds else ds

lemma of_readInt {cs : List Char} {n : Int} (hzero : r.contains 0 = true)
    (h : readInt r cs = .ok n) : ∃ negative plus ds, cs = numeral negative plus ds ∧ ds ≠ [] ∧
      (∀ c ∈ ds, isDigit c = true) ∧ n = signed negative (valueOfDigits 0 ds) ∧
      r.contains n = true := by
  have hread : ∀ (negative plus : Bool) (ds : List Char), ds ≠ [] →
      readDigits r negative 0 ds = .ok n → ∃ negative' plus' ds', numeral negative plus ds =
        numeral negative' plus' ds' ∧ ds' ≠ [] ∧ (∀ c ∈ ds', isDigit c = true) ∧
        n = signed negative' (valueOfDigits 0 ds') ∧ r.contains n = true := by
    intro negative plus ds hne hds
    have hstart : signed negative 0 = 0 := by cases negative <;> rfl
    rw [← hstart] at hds hzero
    exact ⟨negative, plus, ds, rfl, hne, of_readDigits 0 hzero hds⟩
  unfold readInt at h
  split at h
  · cases h
  · cases h
  · cases h
  · rename_i ds hne
    exact hread false true ds (by rintro rfl; exact hne rfl) h
  · rename_i ds hne
    split_ifs at h
    exact hread true false ds (by rintro rfl; exact hne rfl) h
  · rename_i hne _ _ _ _
    exact hread false false _ (by rintro rfl; exact hne rfl) h

lemma readInt_numeral {plus : Bool} {ds : List Char} (hne : ds ≠ [])
    (hds : ∀ c ∈ ds, isDigit c = true) (hlo : r.lo < 0) (hhi : 0 ≤ r.hi)
    (h : r.contains (signed negative (valueOfDigits 0 ds)) = true) :
    readInt r (numeral negative plus ds) = .ok (signed negative (valueOfDigits 0 ds)) := by
  have hread := readDigits_eq_ok negative 0 hds ⟨Int.le_of_lt hlo, hhi⟩ h
  have hstart : signed negative 0 = 0 := by cases negative <;> rfl
  rw [hstart] at hread
  obtain ⟨c, cs, rfl⟩ := List.exists_cons_of_ne_nil hne
  cases negative with
  | true => rw [numeral, if_pos rfl, readInt_minus hne hlo, hread]
  | false =>
    cases plus with
    | true => exact hread
    | false =>
      rw [numeral, if_neg Bool.false_ne_true, if_neg Bool.false_ne_true,
        readInt_of_digit (hds c List.mem_cons_self), hread]

lemma readInt_widen {r' : IntRange} {cs : List Char} {n : Int} (hzero : r.contains 0 = true)
    (h : readInt r cs = .ok n) (hlo : r'.lo < 0) (hhi : 0 ≤ r'.hi) (hn : r'.contains n = true) :
    readInt r' cs = .ok n := by
  obtain ⟨negative, plus, ds, rfl, hne, hds, rfl, -⟩ := of_readInt hzero h
  exact readInt_numeral hne hds hlo hhi hn

theorem readInt_intDigits {i : Int} (h : r.contains i = true) (hzero : r.lo ≤ 0 ∧ 0 ≤ r.hi) :
    readInt r (intDigits i) = .ok i := by
  match i with
  | .ofNat n =>
    have hread := readDigits_eq_ok false 0 (isDigit_of_mem_natDigits n) hzero
      (by rwa [valueOfDigits_natDigits])
    rw [valueOfDigits_natDigits] at hread
    obtain ⟨c, cs, hcs⟩ := List.exists_cons_of_ne_nil (natDigits_ne_nil n)
    have hc : isDigit c = true :=
      isDigit_of_mem_natDigits n c (by rw [hcs]; exact List.mem_cons_self)
    rw [intDigits, hcs, readInt_of_digit hc, ← hcs]
    exact hread
  | .negSucc n =>
    have hread := readDigits_eq_ok true 0 (isDigit_of_mem_natDigits (n + 1)) hzero
      (by rwa [valueOfDigits_natDigits])
    rw [valueOfDigits_natDigits] at hread
    have hlo : r.lo < 0 := Int.lt_of_le_of_lt (IntRange.contains_iff.mp h).1 (Int.negSucc_lt_zero n)
    rw [intDigits, readInt_minus (natDigits_ne_nil _) hlo]
    exact hread

end Billboard.Text
