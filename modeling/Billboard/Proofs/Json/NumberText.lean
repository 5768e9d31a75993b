import Billboard.Json.Reader
import Billboard.Json.Writer
import Billboard.Proofs.Text.Digits
import Mathlib.Tactic.Common

/-! A written number is split off as it stands, whatever number it is then read as. -/

namespace Billboard

open Text

namespace Json.NumberText

def text (t : NumberText) : List Char :=
  t.whole ++ ((match t.decimals with
    | none => []
    | some ds => '.' :: ds) ++ (match t.exponent with
    | none => []
    | some (minus, ds) => 'e' :: (if minus then '-' else '+') :: ds))

def signed (t : NumberText) : List Char := if t.negative then '-' :: t.text else t.text

structure WellFormed (t : NumberText) : Prop where
  whole_ne_nil : t.whole ≠ []
  whole_digits : ∀ c ∈ t.whole, isDigit c = true
  no_leading_zero : ¬ (t.whole.head? = some '0' ∧ 1 < t.whole.length)
  decimals : ∀ ds, t.decimals = some ds → ds ≠ [] ∧ ∀ c ∈ ds, isDigit c = true
  exponent : ∀ minus ds, t.exponent = some (minus, ds) → ds ≠ [] ∧ ∀ c ∈ ds, isDigit c = true

end Json.NumberText

namespace Json

inductive Delimited : List Char → Prop
  | nil : Delimited []
  | comma (r : List Char) : Delimited (',' :: r)
  | square (r : List Char) : Delimited (']' :: r)
  | curly (r : List Char) : Delimited ('}' :: r)

lemma Delimited.not_digit {rest : List Char} (hr : Delimited rest) :
    rest.head?.any isDigit = false := by
  cases hr <;> rfl

lemma readNumberText_text {t : NumberText} (h : t.WellFormed) {rest : List Char}
    (hr : Delimited rest) : readNumberText t.negative (t.text ++ rest) = .ok (t, rest) := by
  obtain ⟨negative, whole, decimals, exponent⟩ := t
  obtain ⟨hne, hwhole, hzero, hdecimals, hexponent⟩ := h
  simp only at hne hwhole hzero hdecimals hexponent
  have hsplit : ∀ cs : List Char, cs.head?.any isDigit = false →
      (whole ++ cs).takeWhile isDigit = whole ∧ (whole ++ cs).dropWhile isDigit = cs :=
    fun _ hcs => ⟨takeWhile_digits hwhole hcs, dropWhile_digits hwhole hcs⟩
  unfold readNumberText
  cases decimals with
  | none =>
    cases exponent with
    | none =>
      obtain ⟨htake, hdrop⟩ := hsplit _ hr.not_digit
      simp only [NumberText.text, List.append_nil, htake, hdrop, hne, hzero, or_self, if_false]
      cases hr <;> rfl
    | some e =>
      obtain ⟨minus, es⟩ := e
      obtain ⟨hes, hdigits⟩ := hexponent minus es rfl
      obtain ⟨htake, hdrop⟩ := hsplit ('e' :: (if minus then '-' else '+') :: (es ++ rest)) rfl
      simp only [NumberText.text, List.nil_append, List.append_assoc, List.cons_append, htake,
        hdrop, hne, hzero, or_self, if_false]
      cases minus <;> simp [takeWhile_digits hdigits hr.not_digit,
        dropWhile_digits hdigits hr.not_digit, hes]
  | some ds =>
    obtain ⟨hds, hdecimal⟩ := hdecimals ds rfl
    cases exponent with
    | none =>
      obtain ⟨htake, hdrop⟩ := hsplit ('.' :: (ds ++ rest)) rfl
      simp only [NumberText.text, List.append_nil, List.append_assoc, List.cons_append, htake,
        hdrop, hne, hzero, or_self, if_false, takeWhile_digits hdecimal hr.not_digit,
        dropWhile_digits hdecimal hr.not_digit, Option.some.injEq, hds]
      cases hr <;> rfl
    | some e =>
      obtain ⟨minus, es⟩ := e
      obtain ⟨hes, hdigits⟩ := hexponent minus es rfl
      obtain ⟨htake, hdrop⟩ :=
        hsplit ('.' :: (ds ++ 'e' :: (if minus then '-' else '+') :: (es ++ rest))) rfl
      have hend : ('e' :: (if minus then '-' else '+') :: (es ++ rest)).head?.any isDigit = false :=
        rfl
      simp only [NumberText.text, List.append_assoc, List.cons_append, htake, hdrop, hne, hzero,
        or_self, if_false, takeWhile_digits hdecimal hend, dropWhile_digits hdecimal hend,
        Option.some.injEq, hds]
      cases minus <;> simp [takeWhile_digits hdigits hr.not_digit,
        dropWhile_digits hdigits hr.not_digit, hes]

end Json

namespace Decimal.Binary64

open Json (NumberText)

lemma numerator_pos {x : Binary64} (h : x.isZero = false) : 0 < x.numerator := by
  have hsignificand : 0 < x.significand := by
    rw [isZero, Bool.and_eq_false_iff, beq_eq_false_iff_ne, beq_eq_false_iff_ne] at h
    rw [significand, exponentPlace]
    split_ifs <;> omega
  exact Nat.mul_pos hsignificand (Nat.pow_pos (by decide))

lemma onGrid_pos {x : Binary64} {k : Int} {c : Nat} (h : x.onGrid k = some c) : 0 < c := by
  unfold onGrid at h
  simp only at h
  split_ifs at h <;> cases h <;> omega

lemma shortestFrom_pos {x : Binary64} (h : x.isZero = false) (steps : Nat) (k : Int) :
    0 < (x.shortestFrom steps k).digits := by
  induction steps generalizing k with
  | zero => exact numerator_pos h
  | succ steps ih =>
    rw [shortestFrom]
    split
    · exact onGrid_pos ‹_›
    · exact ih _

lemma shortest_exp_of_zero {x : Binary64} (h : x.shortest.digits = 0) : x.shortest.exp = 0 := by
  cases hz : x.isZero with
  | true => rw [shortest, if_pos hz]
  | false =>
    rw [shortest, hz, if_neg Bool.false_ne_true] at h
    exact (Nat.ne_of_gt (shortestFrom_pos hz _ _) h).elim

lemma isDigit_of_mem_zeros {n : Nat} : ∀ c ∈ List.replicate n '0', isDigit c = true := by
  intro c hc
  rw [List.eq_of_mem_replicate hc]
  rfl

lemma head?_natDigits_append {n : Nat} (hn : n ≠ 0) (cs : List Char) :
    (natDigits n ++ cs).head? ≠ some '0' := by
  obtain ⟨c, ds, hds⟩ := List.exists_cons_of_ne_nil (natDigits_ne_nil n)
  have hhead := natDigits_head_ne_zero n hn
  rw [hds] at hhead ⊢
  exact hhead

lemma take_natDigits_head {n k : Nat} (hn : n ≠ 0) (hk : 0 < k) :
    (natDigits n).take k ≠ [] ∧ ((natDigits n).take k).head? ≠ some '0' := by
  obtain ⟨c, ds, hds⟩ := List.exists_cons_of_ne_nil (natDigits_ne_nil n)
  have hhead := natDigits_head_ne_zero n hn
  obtain ⟨k, rfl⟩ := Nat.exists_eq_succ_of_ne_zero (Nat.ne_of_gt hk)
  rw [hds] at hhead ⊢
  exact ⟨List.cons_ne_nil _ _, hhead⟩

lemma positional_text (negative : Bool) {n : Nat} {exp : Int} (h : n = 0 → exp = 0) :
    ∃ t : NumberText, t.WellFormed ∧ t.negative = negative ∧
      positional jsonLayout (natDigits n) exp = t.text := by
  have hdigits := isDigit_of_mem_natDigits n
  unfold positional
  by_cases hexp : 0 ≤ exp
  · rw [if_pos hexp]
    refine ⟨⟨negative, natDigits n ++ List.replicate exp.toNat '0', some ['0'], none⟩,
      ⟨?_, ?_, ?_, ?_, nofun⟩, rfl, ?_⟩
    · exact List.append_ne_nil_of_left_ne_nil (natDigits_ne_nil n) _
    · exact List.forall_mem_append.mpr ⟨hdigits, isDigit_of_mem_zeros⟩
    · by_cases hn : n = 0
      · rw [hn, h hn, Int.toNat_zero, List.replicate_zero, List.append_nil]
        exact natDigits_no_leading_zero 0
      · exact fun hzero => head?_natDigits_append hn _ hzero.1
    · rintro ds hds
      cases hds
      exact ⟨List.cons_ne_nil _ _, List.forall_mem_singleton.mpr rfl⟩
    · simp only [NumberText.text, List.append_nil]
      rfl
  · have hn : n ≠ 0 := fun hn => hexp (Int.le_of_eq (h hn).symm)
    rw [if_neg hexp]
    simp only
    obtain ⟨places, hp⟩ : ∃ places, (-exp).toNat = places := ⟨_, rfl⟩
    have hpos : 0 < places := by omega
    rw [hp]
    by_cases hplaces : places < (natDigits n).length
    · obtain ⟨hne, hhead⟩ := take_natDigits_head hn (Nat.sub_pos_of_lt hplaces)
      rw [if_pos hplaces]
      refine ⟨⟨negative, (natDigits n).take ((natDigits n).length - places),
        some ((natDigits n).drop ((natDigits n).length - places)), none⟩,
        ⟨hne, fun c hc => hdigits c (List.mem_of_mem_take hc), fun hzero => hhead hzero.1, ?_,
          nofun⟩, rfl, ?_⟩
      · rintro ds hds
        cases hds
        have hlt : (natDigits n).length - places < (natDigits n).length := by omega
        exact ⟨fun hnil => Nat.not_le.mpr hlt (List.drop_eq_nil_iff.mp hnil), fun c hc => hdigits c (List.mem_of_mem_drop hc)⟩
      · simp only [NumberText.text, List.append_nil]
    · rw [if_neg hplaces]
      refine ⟨⟨negative, ['0'], some (List.replicate (places - (natDigits n).length) '0' ++
        natDigits n), none⟩, ⟨List.cons_ne_nil _ _, ?_, ?_, ?_, nofun⟩, rfl, ?_⟩
      · exact List.forall_mem_singleton.mpr rfl
      · exact fun hzero => Nat.lt_irrefl 1 hzero.2
      · rintro ds hds
        cases hds
        exact ⟨List.append_ne_nil_of_right_ne_nil _ (natDigits_ne_nil n),
          List.forall_mem_append.mpr ⟨isDigit_of_mem_zeros, hdigits⟩⟩
      · simp only [NumberText.text, List.append_nil, List.cons_append, List.nil_append]

lemma scientific_text (negative : Bool) (n : Nat) (lead : Int) :
    ∃ t : NumberText, t.WellFormed ∧ t.negative = negative ∧
      scientific jsonLayout (natDigits n) lead = t.text := by
  obtain ⟨d, ds, hds⟩ := List.exists_cons_of_ne_nil (natDigits_ne_nil n)
  have hdigits := isDigit_of_mem_natDigits n
  rw [hds] at hdigits ⊢
  obtain ⟨hd, hrest⟩ := List.forall_mem_cons.mp hdigits
  obtain ⟨minus, k, he⟩ : ∃ (minus : Bool) (k : Nat), (if 0 ≤ lead then (if jsonLayout.plus then '+' :: intDigits lead
      else intDigits lead) else intDigits lead) =
        (if minus then '-' else '+') :: natDigits k := by
    cases lead with
    | ofNat k => exact ⟨false, k, rfl⟩
    | negSucc k => exact ⟨true, k + 1, rfl⟩
  refine ⟨⟨negative, [d], if ds = [] then none else some ds, some (minus, natDigits k)⟩,
    ⟨List.cons_ne_nil _ _, ?_, ?_, ?_, ?_⟩, rfl, ?_⟩
  · exact List.forall_mem_singleton.mpr hd
  · exact fun hzero => Nat.lt_irrefl 1 hzero.2
  · intro es hes
    split_ifs at hes with hnil
    cases hes
    exact ⟨hnil, hrest⟩
  · rintro minus' es hes
    cases hes
    exact ⟨natDigits_ne_nil k, isDigit_of_mem_natDigits k⟩
  · unfold scientific
    rw [he]
    cases ds with
    | nil => rfl
    | cons c cs => rfl

lemma render_jsonLayout (x : Binary64) :
    ∃ t : NumberText, t.WellFormed ∧ x.render jsonLayout = t.signed := by
  have hbody : ∃ t : NumberText, t.WellFormed ∧ t.negative = x.negative ∧
      (if jsonLayout.least ≤ x.shortest.exp + (natDigits x.shortest.digits).length - 1 ∧
          x.shortest.exp + (natDigits x.shortest.digits).length - 1 < jsonLayout.most
        then positional jsonLayout (natDigits x.shortest.digits) x.shortest.exp
        else scientific jsonLayout (natDigits x.shortest.digits)
          (x.shortest.exp + (natDigits x.shortest.digits).length - 1)) = t.text := by
    split_ifs
    · exact positional_text _ shortest_exp_of_zero
    · exact scientific_text _ _ _
  obtain ⟨t, ht, hnegative, htext⟩ := hbody
  refine ⟨t, ht, ?_⟩
  rw [NumberText.signed, hnegative, ← htext]
  rfl

end Decimal.Binary64

namespace Json

lemma wellFormed_natDigits (negative : Bool) (n : Nat) :
    NumberText.WellFormed ⟨negative, natDigits n, none, none⟩ where
  whole_ne_nil := natDigits_ne_nil n
  whole_digits := isDigit_of_mem_natDigits n
  no_leading_zero := natDigits_no_leading_zero n
  decimals := nofun
  exponent := nofun

lemma text_natDigits (negative : Bool) (n : Nat) :
    NumberText.text ⟨negative, natDigits n, none, none⟩ = natDigits n := by
  simp only [NumberText.text, List.append_nil]

lemma readNumberText_natDigits (negative : Bool) (n : Nat) {rest : List Char}
    (hr : Delimited rest) : readNumberText negative (natDigits n ++ rest) =
      .ok (⟨negative, natDigits n, none, none⟩, rest) := by
  have h := readNumberText_text (wellFormed_natDigits negative n) hr
  rwa [text_natDigits] at h

lemma Number.write_eq_signed (n : Number) :
    ∃ t : NumberText, t.WellFormed ∧ n.write = t.signed := by
  match n with
  | .int (.ofNat n) =>
    exact ⟨_, wellFormed_natDigits false n, (text_natDigits false n).symm⟩
  | .int (.negSucc n) =>
    exact ⟨_, wellFormed_natDigits true (n + 1),
      congrArg (List.cons '-') (text_natDigits true (n + 1)).symm⟩
  | .float x => exact x.render_jsonLayout

lemma NumberText.WellFormed.text_eq_cons {t : NumberText} (h : t.WellFormed) :
    ∃ c cs, t.text = c :: cs ∧ isDigit c = true := by
  obtain ⟨c, cs, hc⟩ := List.exists_cons_of_ne_nil h.whole_ne_nil
  exact ⟨c, _, by rw [text, hc, List.cons_append], h.whole_digits c (hc ▸ List.mem_cons_self)⟩

lemma readNumberTail_text {t : NumberText} (h : t.WellFormed) {rest r : List Char} {n : Number}
    (hr : Delimited rest) (hread : readNumberTail t.negative (t.text ++ rest) = .ok (n, r)) :
    r = rest := by
  rw [readNumberTail, readNumberText_text h hr] at hread
  simp only at hread
  split at hread
  · cases hread
  · cases hread
    rfl

end Json

end Billboard
