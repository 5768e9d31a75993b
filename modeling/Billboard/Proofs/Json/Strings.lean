import Billboard.Json.Reader
import Billboard.Json.Writer
import Mathlib.Tactic.Common

namespace Billboard.Json

open Text

lemma hexUnit_control :
    ∀ n < 32, hexUnit '0' '0' (hexDigit (n / 16)) (hexDigit (n % 16)) = some n := by
  decide

lemma stringTail_plain (acc rest : List Char) {c : Char} (hq : c ≠ '"') (hb : c ≠ '\\')
    (hc : 32 ≤ c.toNat) : stringTail acc (c :: rest) = stringTail (c :: acc) rest := by
  rw [stringTail.eq_def]
  split <;> rename_i h
  · cases h
  · exact (hq (List.cons.inj h).1).elim
  · exact (hb (List.cons.inj h).1).elim
  · exact (hb (List.cons.inj h).1).elim
  · obtain ⟨rfl, rfl⟩ := List.cons.inj h
    rw [if_neg (by omega)]

lemma stringTail_control (acc rest : List Char) {c : Char} (hc : c.toNat < 32) :
    stringTail acc ('\\' :: 'u' :: '0' :: '0' :: hexDigit (c.toNat / 16)
      :: hexDigit (c.toNat % 16) :: rest) = stringTail (c :: acc) rest := by
  rw [stringTail, hexUnit_control _ hc]
  have hlo : ¬ (0xDC00 ≤ c.toNat ∧ c.toNat ≤ 0xDFFF) := by omega
  have hhi : ¬ (0xD800 ≤ c.toNat ∧ c.toNat ≤ 0xDBFF) := by omega
  simp only [hlo, hhi, if_false, Char.ofNat_toNat]

lemma stringTail_escape (acc rest : List Char) (c : Char) :
    stringTail acc (escape c ++ rest) = stringTail (c :: acc) rest := by
  have named : ∀ {n : Nat} {d : Char}, c.toNat = n → Char.ofNat n = d → c = d := by
    rintro n d rfl h
    rw [← h, Char.ofNat_toNat]
  unfold escape
  split_ifs with hq hb hp hn ht hr h8 h12
  · subst hq; rfl
  · subst hb; rfl
  · exact stringTail_plain acc rest hq hb hp
  · subst hn; rfl
  · subst ht; rfl
  · subst hr; rfl
  · rw [named h8 rfl]; rfl
  · rw [named h12 rfl]; rfl
  · exact stringTail_control acc rest (by omega)

lemma stringTail_written (acc cs rest : List Char) :
    stringTail acc (cs.flatMap escape ++ '"' :: rest) = .ok (acc.reverse ++ cs, rest) := by
  induction cs generalizing acc with
  | nil => simp [stringTail]
  | cons c cs ih =>
    rw [List.flatMap_cons, List.append_assoc, stringTail_escape, ih]
    simp

lemma writeString_cons (s : String) (rest : List Char) :
    writeString s ++ rest = '"' :: (s.toList.flatMap escape ++ '"' :: rest) := by
  simp [writeString]

lemma readStringTail_written (s : String) (rest : List Char) :
    readStringTail (s.toList.flatMap escape ++ '"' :: rest) = .ok (s, rest) := by
  simp [readStringTail, stringTail_written]

end Billboard.Json
