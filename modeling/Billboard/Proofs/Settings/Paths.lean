import Billboard.Settings.Merge
import Mathlib.Data.List.Nodup

namespace Billboard.Settings

namespace Members

lemma get?_cons (j k : String) (u : Tree) (ms : Members) :
    get? ((j, u) :: ms) k = if j = k then some u else get? ms k := by
  by_cases h : j = k <;> simp [get?, h]

lemma get?_set (ms : Members) (k j : String) (t : Tree) :
    (ms.set k t).get? j = if k = j then some t else ms.get? j := by
  induction ms with
  | nil => rw [set, get?_cons]
  | cons m ms ih =>
    obtain ⟨i, u⟩ := m
    rw [set]
    by_cases hi : i = k
    · rw [if_pos hi, get?_cons, get?_cons, hi]
      split_ifs <;> rfl
    · rw [if_neg hi, get?_cons, get?_cons, ih]
      by_cases hj : i = j
      · rw [if_pos hj, if_pos hj, if_neg (fun hk => hi (hj.trans hk.symm))]
      · rw [if_neg hj, if_neg hj]

lemma mem_of_get? {ms : Members} {k : String} {t : Tree} (h : ms.get? k = some t) :
    (k, t) ∈ ms := by
  induction ms with
  | nil => cases h
  | cons m ms ih =>
    obtain ⟨j, u⟩ := m
    rw [get?_cons] at h
    split_ifs at h with hj
    · cases h
      rw [hj]
      exact List.mem_cons_self
    · exact List.mem_cons_of_mem _ (ih h)

lemma mem_set {ms : Members} {k : String} {t : Tree} {m : String × Tree} (h : m ∈ ms.set k t) :
    m = (k, t) ∨ m ∈ ms := by
  induction ms with
  | nil => exact .inl (List.mem_singleton.mp h)
  | cons i ms ih =>
    obtain ⟨j, u⟩ := i
    rw [set] at h
    split_ifs at h with hj
    · exact (List.mem_cons.mp h).imp_right (List.mem_cons_of_mem _)
    · rcases List.mem_cons.mp h with rfl | h
      · exact .inr List.mem_cons_self
      · exact (ih h).imp_right (List.mem_cons_of_mem _)

lemma mem_keys_set {ms : Members} {k j : String} {t : Tree} :
    j ∈ (ms.set k t).map (·.1) ↔ j = k ∨ j ∈ ms.map (·.1) := by
  induction ms with
  | nil => simp [set]
  | cons m ms ih =>
    obtain ⟨i, u⟩ := m
    rw [set]
    split_ifs with hi
    · simp [hi]
    · rw [List.map_cons, List.mem_cons, ih, List.map_cons, List.mem_cons]
      tauto

lemma nodup_set {ms : Members} (h : (ms.map (·.1)).Nodup) (k : String) (t : Tree) :
    ((ms.set k t).map (·.1)).Nodup := by
  induction ms with
  | nil => exact List.nodup_singleton k
  | cons m ms ih =>
    obtain ⟨i, u⟩ := m
    rw [List.map_cons, List.nodup_cons] at h
    rw [set]
    split_ifs with hi
    · rw [List.map_cons, List.nodup_cons, ← hi]
      exact h
    · rw [List.map_cons, List.nodup_cons, mem_keys_set, not_or]
      exact ⟨⟨hi, h.1⟩, ih h.2⟩

end Members

namespace Tree

def at? : Tree → List String → Option Tree
  | t, [] => some t
  | t, k :: path => (t.members.get? k).bind (·.at? path)

/-- Whether two paths part before either of them ends, at two keys of a table. -/
def apart : List PathStep → List PathStep → Bool
  | .key j :: p, .key k :: q => j != k || apart p q
  | _, _ => false

lemma at?_put {v : Tree} (hv : ∀ ms, v ≠ .table ms) (path : List String) (t : Tree) :
    (put v (path.map .key) t).at? path = some v := by
  induction path generalizing t with
  | nil =>
    rw [List.map_nil, put, at?]
    cases v with
    | table ms => exact (hv ms rfl).elim
    | _ => rfl
  | cons k path ih =>
    rw [List.map_cons, put, at?, members, Members.get?_set, if_pos rfl, Option.bind_some]
    exact ih _

lemma at?_put_apart (v : Tree) {path : List String} {steps : List PathStep} (t : Tree)
    (h : apart (path.map .key) steps = true) : (put v steps t).at? path = t.at? path := by
  induction path generalizing steps t with
  | nil => cases h
  | cons j path ih =>
    cases steps with
    | nil => cases h
    | cons step steps =>
      cases step with
      | position i => cases h
      | key k =>
        rw [put, at?, at?, members, Members.get?_set]
        by_cases hk : k = j
        · have hrest : apart (path.map .key) steps = true := by
            rw [List.map_cons, apart, hk] at h
            simpa using h
          rw [if_pos hk, Option.bind_some, ih _ hrest, hk]
          cases hget : t.members.get? j with
          | some u => rfl
          | none =>
            -- the path was not there, and is not found in what was put in its way
            cases path with
            | nil => cases hrest
            | cons i path => rfl
        · rw [if_neg hk]

lemma putAll_append (named later : List (String × Tree)) (t : Tree) :
    putAll (named ++ later) t = putAll later (putAll named t) := List.foldl_append

lemma at?_putAll_apart {path : List String} {named : List (String × Tree)} (t : Tree)
    (h : ∀ m ∈ named, apart (path.map .key) (pathOf m.1) = true) :
    (putAll named t).at? path = t.at? path := by
  induction named generalizing t with
  | nil => rfl
  | cons m named ih =>
    obtain ⟨hm, hnamed⟩ := List.forall_mem_cons.mp h
    rw [putAll, List.foldl_cons]
    exact (ih _ hnamed).trans (at?_put_apart _ _ hm)

lemma at?_putAll {path : List String} {named later : List (String × Tree)} {name : String}
    {v : Tree} (t : Tree) (hv : ∀ ms, v ≠ .table ms) (hpath : pathOf name = path.map .key)
    (h : ∀ m ∈ later, apart (path.map .key) (pathOf m.1) = true) :
    (putAll (named ++ (name, v) :: later) t).at? path = some v := by
  rw [putAll_append, putAll, List.foldl_cons]
  refine (at?_putAll_apart _ h).trans ?_
  show (put v (pathOf name) (putAll named t)).at? path = some v
  rw [hpath, at?_put hv]

inductive Neat : Tree → Prop
  | table {ms : Members} (hkeys : (ms.map (·.1)).Nodup) (h : ∀ m ∈ ms, Neat m.2) : Neat (.table ms)
  | other {t : Tree} (h : ∀ ms, t ≠ .table ms) : Neat t

lemma neat_nil : Neat .nil := .other nofun

lemma Neat.keys {t : Tree} (h : Neat t) : (t.members.map (·.1)).Nodup := by
  cases h with
  | table hkeys _ => exact hkeys
  | other h =>
    cases t with
    | table ms => exact (h ms rfl).elim
    | _ => exact List.nodup_nil

lemma Neat.member {t : Tree} (h : Neat t) : ∀ m ∈ t.members, Neat m.2 := by
  cases h with
  | table _ h => exact h
  | other h =>
    cases t with
    | table ms => exact (h ms rfl).elim
    | _ => exact List.forall_mem_nil _

lemma Neat.get? {t : Tree} (h : Neat t) (k : String) : Neat ((t.members.get? k).getD .nil) := by
  cases hk : t.members.get? k with
  | none => exact neat_nil
  | some u => exact h.member _ (Members.mem_of_get? hk)

lemma Neat.set {ms : Members} (h : Neat (.table ms)) (k : String) {t : Tree} (ht : Neat t) :
    Neat (.table (ms.set k t)) :=
  .table (Members.nodup_set h.keys k t) fun m hm => by
    rcases Members.mem_set hm with rfl | hm
    · exact ht
    · exact h.member m hm

lemma Neat.members {t : Tree} (h : Neat t) : Neat (.table t.members) := .table h.keys h.member

mutual

lemma Neat.merge {old : Tree} (h : Neat old) : (t : Tree) → Neat (merge old t)
  | .table ms => by
    rw [Tree.merge]
    exact h.members.mergeMembers ms
  | .nil => .other nofun
  | .bool _ => .other nofun
  | .int _ => .other nofun
  | .float _ => .other nofun
  | .text _ => .other nofun
  | .list _ => .other nofun

lemma Neat.mergeMembers {old : Members} (h : Neat (.table old)) :
    (ms : Members) → Neat (.table (mergeMembers old ms))
  | [] => by
    rw [Tree.mergeMembers]
    exact h
  | (k, t) :: rest => by
    rw [Tree.mergeMembers]
    exact (h.set k ((h.get? k).merge t)).mergeMembers rest

end

lemma Neat.put {t : Tree} (h : Neat t) (v : Tree) (steps : List PathStep) :
    Neat (put v steps t) := by
  induction steps generalizing t with
  | nil =>
    rw [Tree.put]
    exact h.merge v
  | cons step steps ih =>
    cases step with
    | key k =>
      rw [Tree.put]
      exact h.members.set k (ih (h.get? k))
    | position i => exact .other nofun

lemma Neat.putAll {t : Tree} (h : Neat t) (named : List (String × Tree)) :
    Neat (putAll named t) := by
  induction named generalizing t with
  | nil => exact h
  | cons m named ih => exact ih (h.put m.2 (pathOf m.1))

end Tree

end Billboard.Settings
