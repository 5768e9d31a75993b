import Billboard.Clock.Timestamp
import Billboard.Proofs.Clock.Calendar
import Billboard.Proofs.Text.Digits

namespace Billboard.Clock.Timestamp

open Text

/-- A point in time that exists: a leap second is the last of its minute, and the year is one that a
date can have. -/
structure Proper (t : Timestamp) : Prop where
  nanos : t.nanos < 1000000000 ∨ (t.nanos < 2000000000 ∧ t.seconds % 60 = 59)
  le_year : -yearLimit - 1 ≤ (dateOfDay (t.seconds / 86400)).year
  year_le : (dateOfDay (t.seconds / 86400)).year ≤ yearLimit

lemma not_blank_of_digit {c : Char} (h : isDigit c = true) : isBlank c = false := by
  simp only [isDigit, digitValue?, Option.isSome_ite] at h
  have hlo : 48 ≤ c.toNat := h.1
  have hhi : c.toNat ≤ 57 := h.2
  simp only [isBlank, Bool.or_eq_false_iff, Bool.and_eq_false_iff, decide_eq_false_iff_not,
    beq_eq_false_iff_ne]
  omega

lemma dropBlank_digits {ds : List Char} (rest : List Char) (hne : ds ≠ [])
    (hd : ∀ c ∈ ds, isDigit c = true) : dropBlank (ds ++ rest) = ds ++ rest := by
  cases ds with
  | nil => exact (hne rfl).elim
  | cons c ds => simp [dropBlank, not_blank_of_digit (hd c List.mem_cons_self)]

lemma readDigits_append {width : Nat} {ds rest : List Char} (hne : ds ≠ [])
    (hd : ∀ c ∈ ds, isDigit c = true) (hw : ds.length ≤ width)
    (hr : rest.head?.any isDigit = false) :
    Timestamp.readDigits width (ds ++ rest) = some (valueOfDigits 0 ds, rest) := by
  simp [Timestamp.readDigits, takeWhile_digits hd hr, List.take_of_length_le hw, hne]

lemma readField_padded {n : Nat} (hn : n < 100) {rest : List Char}
    (hr : rest.head?.any isDigit = false) :
    readField 2 (padded 2 n ++ rest) = some (n, rest) := by
  have hd := isDigit_of_mem_padded 2 n
  have hne := padded_ne_nil 2 n
  rw [readField, dropBlank_digits rest hne hd,
    readDigits_append hne hd (length_padded (by decide) hn).le hr, valueOfDigits_padded]

lemma readMark_cons {c : Char} (rest : List Char) (hb : isBlank c = false) :
    readMark c (c :: rest) = some rest := by
  simp [readMark, dropBlank, hb]

lemma readYear_write {y : Int} (hlo : -yearLimit - 1 ≤ y) (hhi : y ≤ yearLimit) {rest : List Char}
    (hr : rest.head?.any isDigit = false) : readYear (writeYear y ++ rest) = some (y, rest) := by
  have hd := isDigit_of_mem_padded 4
  have hne := padded_ne_nil 4
  unfold yearLimit at hlo hhi
  have signed : y.natAbs < 10 ^ 19 → Timestamp.readDigits 19 (padded 4 y.natAbs ++ rest)
      = some (y.natAbs, rest) := fun hy => by
    rw [readDigits_append (hne _) (hd _) (length_padded_le (by decide) (by decide) hy) hr,
      valueOfDigits_padded]
  unfold writeYear
  split_ifs with h4 hneg
  · have hw : y.toNat < 10 ^ 4 := by omega
    have hu := readDigits_append (hne y.toNat) (hd _) (length_padded (by decide) hw).le hr
    rw [readYear, dropBlank_digits rest (hne _) (hd _)]
    split
    · rename_i h
      exact (padded_head_digit 4 y.toNat rest h (by decide)).elim
    · rename_i h
      exact (padded_head_digit 4 y.toNat rest h (by decide)).elim
    · rw [hu, valueOfDigits_padded]
      simp only [Option.map_some, Option.some.injEq, Prod.mk.injEq, and_true]
      omega
  · have hm : dropBlank ('-' :: (padded 4 y.natAbs ++ rest)) =
        '-' :: (padded 4 y.natAbs ++ rest) := by
      simp [dropBlank, show isBlank '-' = false by decide]
    rw [List.cons_append, readYear, hm]
    simp only [signed (by omega), Option.map_some, Option.some.injEq, Prod.mk.injEq, and_true]
    omega
  · have hm : dropBlank ('+' :: (padded 4 y.natAbs ++ rest)) =
        '+' :: (padded 4 y.natAbs ++ rest) := by
      simp [dropBlank, show isBlank '+' = false by decide]
    rw [List.cons_append, readYear, hm]
    simp only [signed (by omega), Option.map_some, Option.some.injEq, Prod.mk.injEq, and_true]
    omega

lemma readFraction_padded {width n : Nat} (hw : width ≤ 9) (h0 : 0 < width) (hn : n < 10 ^ width) :
    readFraction ('.' :: padded width n ++ ['Z']) = some (n * 10 ^ (9 - width), ['Z']) := by
  have hd := isDigit_of_mem_padded width n
  have hl := length_padded h0 hn
  have ht : (padded width n ++ ['Z']).takeWhile isDigit = padded width n :=
    takeWhile_digits hd (by decide)
  have hr : (padded width n ++ ['Z']).dropWhile isDigit = ['Z'] :=
    dropWhile_digits hd (by decide)
  rw [List.cons_append, readFraction]
  simp only [ht, hr, List.take_of_length_le (hl.trans_le hw), padded_ne_nil, if_false,
    valueOfDigits_padded, hl]
  rfl

lemma readFraction_write {nanos : Nat} (h : nanos < 1000000000) :
    readFraction (writeFraction nanos ++ ['Z']) = some (nanos, ['Z']) := by
  unfold writeFraction
  split_ifs with h0 h6 h3
  · subst h0
    rfl
  · rw [readFraction_padded (by decide) (by decide) (by omega)]
    simp only [Option.some.injEq, Prod.mk.injEq, and_true]
    omega
  · rw [readFraction_padded (by decide) (by decide) (by omega)]
    simp only [Option.some.injEq, Prod.mk.injEq, and_true]
    omega
  · rw [readFraction_padded (by decide) (by decide) (by omega)]
    simp

lemma writeFraction_head (nanos : Nat) :
    (writeFraction nanos ++ ['Z']).head?.any isDigit = false := by
  unfold writeFraction
  split_ifs <;> rfl

def writtenSecond (t : Timestamp) : Nat × Nat :=
  let second := (t.seconds % 86400).toNat % 60
  if 1000000000 ≤ t.nanos then (second + 1, t.nanos - 1000000000) else (second, t.nanos)

lemma writtenSecond_bounds {t : Timestamp} (ht : t.Proper) :
    t.writtenSecond.1 ≤ 60 ∧ t.writtenSecond.2 < 1000000000 := by
  have hn := ht.nanos
  unfold writtenSecond
  simp only
  split_ifs <;> simp only <;> omega

lemma ofFields_parts {t : Timestamp} (ht : t.Proper) {time : Nat}
    (htime : (t.seconds % 86400).toNat = time) :
    ofFields (dateOfDay (t.seconds / 86400)) (time / 3600) (time / 60 % 60) t.writtenSecond.1
      t.writtenSecond.2 0 = some t := by
  have hlt : time < 86400 := by omega
  have hn := ht.nanos
  unfold ofFields
  rw [if_pos ⟨ht.le_year, ht.year_le, valid_dateOfDay _, by omega, by omega,
    (writtenSecond_bounds ht).1, by decide, by decide⟩]
  by_cases hleap : 1000000000 ≤ t.nanos
  · have hw : t.writtenSecond = (time % 60 + 1, t.nanos - 1000000000) := by
      rw [writtenSecond, if_pos hleap, htime]
    have h60 : time % 60 + 1 = 60 := by omega
    have hback : t.nanos - 1000000000 + 1000000000 = t.nanos := Nat.sub_add_cancel hleap
    rw [hw, dayNumber_dateOfDay]
    simp only [h60, if_true, hback, Option.some.injEq]
    refine congrArg (Timestamp.mk · t.nanos) ?_
    omega
  · have hw : t.writtenSecond = (time % 60, t.nanos) := by
      rw [writtenSecond, if_neg hleap, htime]
    have h60 : time % 60 ≠ 60 := by omega
    rw [hw, dayNumber_dateOfDay]
    simp only [h60, if_false, Option.some.injEq]
    refine congrArg (Timestamp.mk · t.nanos) ?_
    omega

lemma bind_of_eq_some {α β : Type} {x : Option α} {a : α} (h : x = some a) {f : α → Option β} :
    (x >>= f) = f a := by
  rw [h]
  rfl

lemma read_of_parts {year : Int} {month day hour minute second nanos : Nat}
    {cs r₁ r₂ r₃ r₄ r₅ r₆ : List Char} (h₁ : readYear cs = some (year, '-' :: r₁))
    (h₂ : readField 2 r₁ = some (month, '-' :: r₂)) (h₃ : readField 2 r₂ = some (day, 'T' :: r₃))
    (h₄ : readField 2 r₃ = some (hour, ':' :: r₄)) (h₅ : readField 2 r₄ = some (minute, ':' :: r₅))
    (h₆ : readField 2 r₅ = some (second, r₆)) (h₇ : readFraction r₆ = some (nanos, ['Z'])) :
    read? cs = ofFields ⟨year, month, day⟩ hour minute second nanos 0 := by
  have hm := fun r => readMark_cons r (show isBlank '-' = false by decide)
  have hc := fun r => readMark_cons r (show isBlank ':' = false by decide)
  have hz : readZone (dropBlank ['Z']) = some (0, []) := rfl
  refine (bind_of_eq_some h₁).trans ((bind_of_eq_some (hm r₁)).trans ?_)
  refine (bind_of_eq_some h₂).trans ((bind_of_eq_some (hm r₂)).trans ?_)
  refine (bind_of_eq_some h₃).trans ?_
  refine (bind_of_eq_some h₄).trans ((bind_of_eq_some (hc r₄)).trans ?_)
  refine (bind_of_eq_some h₅).trans ((bind_of_eq_some (hc r₅)).trans ?_)
  exact (bind_of_eq_some h₆).trans ((bind_of_eq_some h₇).trans (bind_of_eq_some hz))

lemma proper_epoch : (⟨0, 0⟩ : Timestamp).Proper := ⟨by decide, by decide, by decide⟩

theorem read_write {t : Timestamp} (ht : t.Proper) : read? t.write = some t := by
  have hv := valid_dateOfDay (t.seconds / 86400)
  simp only [Date.valid, Bool.and_eq_true, decide_eq_true_eq] at hv
  have hday := daysInMonth_le (dateOfDay (t.seconds / 86400)).year
    (dateOfDay (t.seconds / 86400)).month
  obtain ⟨hsec, hfrac⟩ := writtenSecond_bounds ht
  obtain ⟨time, htime⟩ : ∃ time, (t.seconds % 86400).toNat = time := ⟨_, rfl⟩
  have hlt : time < 86400 := by omega
  have hw : t.write = writeYear (dateOfDay (t.seconds / 86400)).year
      ++ '-' :: padded 2 (dateOfDay (t.seconds / 86400)).month
      ++ '-' :: padded 2 (dateOfDay (t.seconds / 86400)).day
      ++ 'T' :: padded 2 (time / 3600) ++ ':' :: padded 2 (time / 60 % 60)
      ++ ':' :: padded 2 t.writtenSecond.1 ++ writeFraction t.writtenSecond.2 ++ ['Z'] := by
    simp only [write, writtenSecond, htime]
    split_ifs <;> rfl
  rw [← ofFields_parts ht htime, hw]
  simp only [List.append_assoc, List.cons_append]
  exact read_of_parts (readYear_write ht.le_year ht.year_le (by rfl))
    (readField_padded (by omega) (by rfl)) (readField_padded (by omega) (by rfl))
    (readField_padded (by omega) (by rfl)) (readField_padded (by omega) (by rfl))
    (readField_padded (by omega) (writeFraction_head _)) (readFraction_write hfrac)

end Billboard.Clock.Timestamp
