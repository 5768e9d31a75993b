namespace Billboard

abbrev Table (κ ν : Type) := List (κ × ν)

namespace Table

variable {κ ν : Type} [DecidableEq κ]

def get? : Table κ ν → κ → Option ν
  | [], _ => none
  | (j, v) :: rest, k => if j = k then some v else get? rest k

def insert : Table κ ν → κ → ν → Table κ ν
  | [], k, v => [(k, v)]
  | (j, w) :: rest, k, v => if j = k then (k, v) :: rest else (j, w) :: insert rest k v

def erase : Table κ ν → κ → Table κ ν
  | [], _ => []
  | (j, w) :: rest, k => if j = k then erase rest k else (j, w) :: erase rest k

theorem get?_insert (t : Table κ ν) (k j : κ) (v : ν) :
    (t.insert k v).get? j = if k = j then some v else t.get? j := by
  induction t with
  | nil => simp [insert, get?]
  | cons p rest ih =>
    obtain ⟨i, w⟩ := p
    by_cases hik : i = k
    · subst hik; by_cases hij : i = j <;> simp [insert, get?, hij]
    · by_cases hij : i = j
      · subst hij; simp [insert, get?, hik, Ne.symm hik]
      · simp [insert, get?, hik, hij, ih]

theorem get?_erase (t : Table κ ν) (k j : κ) :
    (t.erase k).get? j = if k = j then none else t.get? j := by
  induction t with
  | nil => simp [erase, get?]
  | cons p rest ih =>
    obtain ⟨i, w⟩ := p
    by_cases hik : i = k
    · subst hik; by_cases hij : i = j <;> simp_all [erase, get?]
    · by_cases hij : i = j
      · subst hij; simp [erase, get?, hik, Ne.symm hik]
      · simp [erase, get?, hik, hij, ih]

end Table

end Billboard
