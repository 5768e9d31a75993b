import Billboard.Proofs.Json.Records

/-! Members that a record does not know are passed over. -/

namespace Billboard.Json

open Text

variable {σ : Type}

lemma skipString_plain (rest : List Char) {c : Char} (hq : c ≠ '"') (hb : c ≠ '\\')
    (hc : 32 ≤ c.toNat) : skipString (c :: rest) = skipString rest := by
  rw [skipString.eq_def]
  split <;> rename_i h
  · cases h
  · exact (hq (List.cons.inj h).1).elim
  · exact (hb (List.cons.inj h).1).elim
  · exact (hb (List.cons.inj h).1).elim
  · obtain ⟨rfl, rfl⟩ := List.cons.inj h
    rw [if_neg (by omega)]

lemma skipString_control (rest : List Char) {c : Char} (hc : c.toNat < 32) :
    skipString ('\\' :: 'u' :: '0' :: '0' :: hexDigit (c.toNat / 16)
      :: hexDigit (c.toNat % 16) :: rest) = skipString rest := by
  rw [skipString, hexUnit_control _ hc]
  rfl

lemma skipString_escape (rest : List Char) (c : Char) :
    skipString (escape c ++ rest) = skipString rest := by
  unfold escape
  split_ifs with hq hb hp hn ht hr h8 h12
  · rfl
  · rfl
  · exact skipString_plain rest hq hb hp
  · rfl
  · rfl
  · rfl
  · rfl
  · rfl
  · exact skipString_control rest (by omega)

lemma skipString_written (cs rest : List Char) :
    skipString (cs.flatMap escape ++ '"' :: rest) = .ok rest := by
  induction cs with
  | nil => rfl
  | cons c cs ih => rw [List.flatMap_cons, List.append_assoc, skipString_escape, ih]

def Skips (v : Json) : Prop :=
  ∀ steps rest, (write v).length ≤ steps → Delimited rest →
    skipValue steps (write v ++ rest) = .ok rest

lemma skips_string (s : String) : Skips (.str s) := by
  intro steps rest hl _
  obtain ⟨steps, rfl⟩ : ∃ n, steps = n + 1 :=
    ⟨steps - 1, by have := write_length_pos (.str s); omega⟩
  rw [write, writeString_cons, skipValue, skipLoop, skipStep, skipSpace_cons _ (by decide)]
  simp only [skipFromValue, skipString_written]
  rfl

lemma skipNumber_natDigits (opened : List Bracket) (n : Nat) {rest : List Char}
    (hr : Delimited rest) : skipNumber opened (natDigits n ++ rest) = afterValue opened rest := by
  rw [skipNumber, readNumberText_natDigits false n hr]

lemma skipFromValue_natDigits (opened : List Bracket) (n : Nat) {rest : List Char}
    (hr : Delimited rest) :
    skipFromValue opened (natDigits n ++ rest) = afterValue opened rest := by
  have hskip := skipNumber_natDigits opened n hr
  obtain ⟨c, ds, hds, hc⟩ := natDigits_eq_cons n
  rw [hds, List.cons_append] at hskip ⊢
  rw [← hskip, skipFromValue.eq_def]
  split <;> rename_i h <;> first
    | (obtain ⟨rfl, -⟩ := List.cons.inj h; exact (Bool.false_ne_true hc).elim)
    | rfl

lemma skips_int (i : Int) : Skips (.int i) := by
  intro steps rest hl hr
  obtain ⟨steps, rfl⟩ : ∃ n, steps = n + 1 :=
    ⟨steps - 1, by have := write_length_pos (.int i); omega⟩
  have hw : write (.int i) = intDigits i := rfl
  rw [hw, skipValue, skipLoop, skipStep]
  cases i with
  | ofNat n =>
    obtain ⟨c, ds, hds, hc⟩ := natDigits_eq_cons n
    have hspace : skipSpace (natDigits n ++ rest) = natDigits n ++ rest := by
      rw [hds, List.cons_append, skipSpace_cons _ (not_space_of_digit hc)]
    simp only [intDigits, hspace, skipFromValue_natDigits [] n hr, afterValue]
  | negSucc n =>
    simp only [intDigits, List.cons_append, skipSpace_cons _ (show isSpace '-' = false by decide),
      skipFromValue, skipNumber_natDigits [] (n + 1) hr, afterValue]

lemma recordMembers_skip (room steps : Nat) (seen : List String) (draft : σ)
    {slots : List (Slot σ)} {k : String} {v : Json} (hk : slots.find? (·.name == k) = none)
    (hv : Skips v) {rest : List Char} (hl : (write v).length ≤ steps) (hr : Delimited rest) :
    recordMembers slots room (steps + 1) seen draft
        (writeString k ++ ':' :: (write v ++ rest)) =
      afterMember slots room steps seen draft rest := by
  rw [writeString_cons, recordMembers]
  simp only [readStringTail_written, hk, skipSpace_cons _ (show isSpace ':' = false by decide),
    hv steps rest hl hr]
  rfl

lemma recordMembers_other (room steps : Nat) (seen : List String) (draft : σ)
    {slots : List (Slot σ)} {k : String} {v : Json} (hk : slots.find? (·.name == k) = none)
    (hv : Skips v) (hl : (write v).length ≤ steps) (m : String × Json)
    (more : List (String × Json)) (rest : List Char) :
    recordMembers slots room (steps + 1) seen draft (writeMembers ((k, v) :: m :: more) ++ rest) =
      recordMembers slots room steps seen draft (writeMembers (m :: more) ++ rest) := by
  have h := recordMembers_skip room steps seen draft hk hv hl
    (.comma (writeMembers (m :: more) ++ rest))
  rw [afterMember_comma] at h
  rw [← h]
  simp only [writeMembers, List.append_assoc, List.cons_append]

lemma recordMembers_last_other (room steps : Nat) (seen : List String) (draft : σ)
    {slots : List (Slot σ)} {k : String} {v : Json} (hk : slots.find? (·.name == k) = none)
    (hv : Skips v) (hl : (write v).length ≤ steps) (hall : firstMissing slots seen = none)
    (rest : List Char) :
    recordMembers slots room (steps + 1) seen draft (writeMembers [(k, v)] ++ rest) =
      .ok (draft, rest) := by
  have h := recordMembers_skip room steps seen draft hk hv hl (.curly rest)
  rw [afterMember, skipSpace_cons _ (by decide)] at h
  simp only [hall] at h
  rw [← h]
  simp only [writeMembers, List.append_assoc, List.cons_append, List.nil_append]

end Billboard.Json
