import Billboard.Password
import Billboard.Proofs.Password.HashString

namespace Billboard

namespace Digest

lemma length_littleEndian (n x : Nat) : (littleEndian n x).length = n := by
  induction n generalizing x with
  | zero => rfl
  | succ n ih => rw [littleEndian, List.length_cons, ih]

lemma Blake2b.length_bytes (h : Blake2b) : h.bytes.length = 64 := by
  simp only [bytes, wordBytes, List.flatMap_cons, List.flatMap_nil, List.length_append,
    length_littleEndian, List.length_nil]

lemma length_blake2b {size : Nat} (h : size ≤ 64) (message : List UInt8) :
    (blake2b size message).length = size := by
  rw [blake2b, List.length_take, Blake2b.length_bytes]
  exact Nat.min_eq_left h

end Digest

namespace Password

open Text

lemma Argon2.length_hash {p : Argon2.Params} (h : p.size ≤ 64) (password salt : List UInt8) :
    (Argon2.hash p password salt).length = p.size := by
  rw [Argon2.hash, Argon2.longDigest, if_pos h]
  exact Digest.length_blake2b h _

def standardParams : List (List Char × List Char) :=
  [(['m'], natDigits standard.memory), (['t'], natDigits standard.passes),
    (['p'], natDigits standard.lanes)]

lemma standardParams_eq : standardParams =
    [(['m'], ['1', '9', '4', '5', '6']), (['t'], ['2']), (['p'], ['1'])] := by
  have hmemory : natDigits standard.memory = ['1', '9', '4', '5', '6'] := by
    simp [standard, natDigits_large, natDigits_small, digit]
  rw [standardParams, hmemory, natDigits_small (by decide), natDigits_small (by decide)]
  rfl

lemma paramsOf?_standard (salt : Option (List Char)) (hash : Option (List UInt8)) :
    paramsOf? ⟨variantName standard.variant, some standard.version.number, standardParams, salt,
      hash⟩ standard.size = some standard := by
  rw [standardParams_eq]
  rfl

lemma wellFormed_hashString {salt : List UInt8} (hmin : 3 ≤ salt.length) (hmax : salt.length ≤ 48)
    (password : String) : (hashString password salt).WellFormed where
  algorithm := rfl
  version v hv := by
    cases hv
    decide
  params := by
    change HashString.Writable standardParams
    rw [standardParams_eq]
    unfold HashString.Writable
    decide
  params_short := by
    change HashString.Short standardParams
    rw [standardParams_eq, HashString.Short]
    decide
  params_alone hnone := by cases hnone
  salt s hs := by
    cases hs
    rw [HashString.isValue, Bool.and_eq_true, decide_eq_true_eq, Base64.length_encode]
    exact ⟨by omega, by omega,
      List.all_eq_true.mpr (HashString.isValueChar_of_mem_encode salt)⟩
  hash bytes hb := by
    cases hb
    rw [Argon2.length_hash (by decide)]
    exact ⟨Option.some_ne_none _, by decide⟩

lemma verify_hash {salt : List UInt8} (hmin : 8 ≤ salt.length) (hmax : salt.length ≤ 48)
    (password given : String) : verify given (hash password salt) =
      some (Argon2.output? standard (bytesOf given) salt ==
        some (Argon2.hash standard (bytesOf password) salt)) := by
  have hread : HashString.read? (hashString password salt).write =
      some (hashString password salt) :=
    HashString.read?_eq_some_iff.mpr ⟨wellFormed_hashString (by omega) hmax password, rfl⟩
  have hlength : (Argon2.hash standard (bytesOf password) salt).length = standard.size :=
    Argon2.length_hash (by decide) _ _
  have hmatches : matches? (hashString password salt) given =
      (Argon2.output? standard (bytesOf given) salt ==
        some (Argon2.hash standard (bytesOf password) salt)) := by
    have hparams : paramsOf? (hashString password salt) standard.size = some standard :=
      paramsOf?_standard _ _
    have hsalt : (hashString password salt).salt = some (Base64.standard.encode salt) := rfl
    have hhash : (hashString password salt).hash =
      some (Argon2.hash standard (bytesOf password) salt) := rfl
    rw [matches?]
    simp only [hsalt, hhash, hlength, hparams, Base64.decode?_encode Base64.faithful_standard]
  rw [verify, hash, String.toList_ofList, hread, Option.map_some, hmatches]

lemma output?_eq_some {p : Argon2.Params} {password salt : List UInt8}
    (hpassword : password.length ≤ 0xFFFFFFFF) (hsalt : 8 ≤ salt.length) :
    Argon2.output? p password salt = some (Argon2.hash p password salt) :=
  if_pos ⟨hpassword, hsalt⟩

lemma verify_hash_self {salt : List UInt8} (hmin : 8 ≤ salt.length) (hmax : salt.length ≤ 48)
    {password : String} (hpassword : (bytesOf password).length ≤ 0xFFFFFFFF) :
    verify password (hash password salt) = some true := by
  rw [verify_hash hmin hmax, output?_eq_some hpassword hmin, beq_self_eq_true]

lemma verify_eq_none_iff {stored : String} (given : String) : verify given stored = none ↔
    ¬ ∃ h : HashString, h.WellFormed ∧ stored.toList = h.write := by
  rw [verify, Option.map_eq_none_iff, Option.eq_none_iff_forall_ne_some, not_exists]
  exact forall_congr' fun h => not_congr HashString.read?_eq_some_iff

end Password

end Billboard
