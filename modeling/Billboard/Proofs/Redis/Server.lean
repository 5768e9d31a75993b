import Billboard.Redis.Server
import Mathlib.Tactic.Common

namespace Billboard.Redis.Server

structure Healthy (s : Server) : Prop where
  broken : s.broken = []
  expiring : s.expiring = true

structure Same (s t : Server) : Prop where
  strings : t.strings = s.strings
  sets : t.sets = s.sets
  expiring : t.expiring = s.expiring
  broken : t.broken = s.broken

variable {s t u : Server}

lemma Same.refl (s : Server) : Same s s := ⟨rfl, rfl, rfl, rfl⟩

lemma Same.trans (h : Same s t) (h' : Same t u) : Same s u :=
  ⟨h'.strings.trans h.strings, h'.sets.trans h.sets, h'.expiring.trans h.expiring,
    h'.broken.trans h.broken⟩

lemma same_note (s : Server) (words : List String) : Same s (s.note words) := ⟨rfl, rfl, rfl, rfl⟩

lemma Healthy.same (hs : s.Healthy) (h : Same s t) : t.Healthy :=
  ⟨h.broken.trans hs.broken, h.expiring.trans hs.expiring⟩

lemma Same.string? (h : Same s t) (key : String) (now : Nat) :
    t.string? key now = s.string? key now := by
  rw [Server.string?, Server.string?, h.strings]

lemma Same.members (h : Same s t) (key : String) : t.members key = s.members key := by
  rw [Server.members, Server.members, h.sets]

lemma string?_setString (s : Server) (key : String) (e : Entry) (k : String) (now : Nat) :
    (s.setString key e).string? k now =
      if key = k then (if e.live now then some e.payload else none) else s.string? k now := by
  simp only [string?, setString, Table.get?_insert]
  by_cases hk : key = k <;> simp only [hk, if_true, if_false]

lemma string?_remove (s : Server) (key k : String) (now : Nat) :
    (s.remove key).string? k now = if key = k then none else s.string? k now := by
  simp only [string?, remove, Table.get?_erase]
  by_cases hk : key = k <;> simp only [hk, if_true, if_false]

lemma members_remove (s : Server) (key k : String) :
    (s.remove key).members k = if key = k then [] else s.members k := by
  simp only [members, remove, Table.get?_erase]
  by_cases hk : key = k <;> simp only [hk, if_true, if_false, Option.getD_none]

lemma mem_insertSorted {x y : String} {l : List String} :
    y ∈ insertSorted x l ↔ y = x ∨ y ∈ l := by
  induction l with
  | nil => simp [insertSorted]
  | cons z l ih =>
    rw [insertSorted]
    split_ifs with hlt heq
    · simp
    · simp [heq]
    · rw [List.mem_cons, ih, List.mem_cons]
      tauto

lemma mem_members_addMember {key member k m : String} :
    m ∈ (s.addMember key member).members k ↔ m ∈ s.members k ∨ (k = key ∧ m = member) := by
  simp only [members, addMember, Table.get?_insert]
  by_cases hk : key = k
  · subst hk
    simp only [if_true, Option.getD_some, mem_insertSorted, true_and]
    exact or_comm
  · simp only [hk, if_false, Ne.symm hk, false_and, or_false]

namespace Healthy

lemma execute (h : s.Healthy) (now : Nat) (c : Command) :
    s.execute now c = (s.note c.words).apply now c := by
  have hin : c.name ∉ (s.note c.words).broken := by
    change c.name ∉ s.broken
    rw [h.broken]
    exact List.not_mem_nil
  rw [Server.execute, if_neg hin]

lemma answer_atomic (h : s.Healthy) (now : Nat) (cs : List Command) :
    s.answer now (.atomic cs) =
      (((executeAll now cs (s.note ["MULTI"])).1).getD (.status "OK"),
        ((executeAll now cs (s.note ["MULTI"])).2).note ["EXEC"]) := by
  have hin : ∀ word, word ∉ (s.note ["MULTI"]).broken := fun word => by
    change word ∉ s.broken
    rw [h.broken]
    exact List.not_mem_nil
  simp only [Server.answer, hin, if_false]

lemma executeAll_sadd (h : s.Healthy) (now : Nat) (keys : List String) (member : String) :
    let p := executeAll now (keys.map fun key => .sadd key member) s
    p.1 = none ∧ p.2.Healthy ∧ p.2.strings = s.strings ∧
      (∀ k m, m ∈ p.2.members k ↔ m ∈ s.members k ∨ (k ∈ keys ∧ m = member)) ∧
      ∀ k, p.2.sets.get? k ≠ none → s.sets.get? k ≠ none ∨ k ∈ keys := by
  induction keys generalizing s with
  | nil =>
    exact ⟨rfl, h, rfl, fun k m => ⟨.inl, fun hm => hm.resolve_right fun ⟨hk, _⟩ =>
      List.not_mem_nil hk⟩, fun k hk => .inl hk⟩
  | cons key keys ih =>
    have hnote := same_note s (Command.sadd key member).words
    let t := (s.note (Command.sadd key member).words).addMember key member
    have ht : t.Healthy := ⟨h.broken, h.expiring⟩
    obtain ⟨hnone, hhealthy, hstrings, hmembers, hsets⟩ := ih ht
    have hexecute : s.execute now (.sadd key member) = (_, t) := h.execute now _
    simp only [List.map_cons, executeAll, hexecute]
    refine ⟨?_, hhealthy, hstrings, fun k m => ?_, fun k hk => ?_⟩
    · rw [hnone]
      rfl
    · rw [hmembers, mem_members_addMember, hnote.members, List.mem_cons]
      tauto
    · rcases hsets k hk with ht | hk
      · by_cases hkey : key = k
        · exact .inr (hkey ▸ List.mem_cons_self)
        · simp only [t, addMember, Table.get?_insert, hkey, if_false] at ht
          exact .inl ht
      · exact .inr (List.mem_cons_of_mem _ hk)

end Healthy

end Billboard.Redis.Server
