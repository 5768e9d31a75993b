import Billboard.Proofs.Redis.Server

/-! A command changes what stands under the key that it names and under no other. -/

namespace Billboard.Redis

def Command.Changes (key : String) : Command → Prop
  | .setex k _ _ => k = key
  | .del k => k = key
  | .sadd k _ => k = key
  | .ping => False
  | .get _ => False
  | .smembers _ => False

def Request.commands : Request → List Command
  | .one c => [c]
  | .atomic cs => cs

namespace Server

/-- Both servers have the same under the key, and they refuse and expire alike. -/
structure AgreeAt (key : String) (s t : Server) : Prop where
  string : t.strings.get? key = s.strings.get? key
  set : t.sets.get? key = s.sets.get? key
  expiring : t.expiring = s.expiring
  broken : t.broken = s.broken

variable {key : String} {s t u : Server} {c : Command} {cs : List Command}

lemma AgreeAt.symm (h : AgreeAt key s t) : AgreeAt key t s :=
  ⟨h.string.symm, h.set.symm, h.expiring.symm, h.broken.symm⟩

lemma AgreeAt.trans (h : AgreeAt key s t) (h' : AgreeAt key t u) : AgreeAt key s u :=
  ⟨h'.string.trans h.string, h'.set.trans h.set, h'.expiring.trans h.expiring,
    h'.broken.trans h.broken⟩

lemma Same.agreeAt (h : Same s t) (key : String) : AgreeAt key s t :=
  ⟨congrArg (Table.get? · key) h.strings, congrArg (Table.get? · key) h.sets, h.expiring, h.broken⟩

lemma AgreeAt.note (h : AgreeAt key s t) (words : List String) :
    AgreeAt key (s.note words) (t.note words) :=
  ⟨h.string, h.set, h.expiring, h.broken⟩

lemma agreeAt_apply (h : ¬ c.Changes key) (now : Nat) (s : Server) :
    AgreeAt key s (s.apply now c).2 := by
  cases c with
  | ping => exact (Same.refl s).agreeAt key
  | setex k seconds payload =>
    exact ⟨(Table.get?_insert ..).trans (if_neg h), rfl, rfl, rfl⟩
  | get k => exact (Same.refl s).agreeAt key
  | del k =>
    exact ⟨(Table.get?_erase ..).trans (if_neg h), (Table.get?_erase ..).trans (if_neg h), rfl, rfl⟩
  | sadd k member => exact ⟨rfl, (Table.get?_insert ..).trans (if_neg h), rfl, rfl⟩
  | smembers k => exact (Same.refl s).agreeAt key

lemma agreeAt_execute (h : ¬ c.Changes key) (now : Nat) (s : Server) :
    AgreeAt key s (s.execute now c).2 := by
  have hnote := (same_note s c.words).agreeAt key
  rw [execute]
  split_ifs
  · exact hnote
  · exact hnote.trans (agreeAt_apply h now _)

lemma agreeAt_executeAll (h : ∀ c ∈ cs, ¬ c.Changes key) (now : Nat) (s : Server) :
    AgreeAt key s (executeAll now cs s).2 := by
  induction cs generalizing s with
  | nil => exact (Same.refl s).agreeAt key
  | cons c cs ih =>
    obtain ⟨hc, hcs⟩ := List.forall_mem_cons.mp h
    exact (agreeAt_execute hc now s).trans (ih hcs _)

lemma agreeAt_answer {r : Request} (h : ∀ c ∈ r.commands, ¬ c.Changes key) (now : Nat)
    (s : Server) : AgreeAt key s (s.answer now r).2 := by
  cases r with
  | one c => exact agreeAt_execute (h c (List.mem_singleton_self c)) now s
  | atomic cs =>
    have hmulti := (same_note s ["MULTI"]).agreeAt key
    have hexec : ∀ t : Server, AgreeAt key t (t.note ["EXEC"]) :=
      fun t => (same_note t ["EXEC"]).agreeAt key
    have hall := hmulti.trans (agreeAt_executeAll h now (s.note ["MULTI"]))
    simp only [answer]
    split_ifs
    · exact hall.trans (hexec _)
    · exact hmulti.trans (hexec _)
    · exact hall.trans (hexec _)

namespace AgreeAt

lemma apply (h : AgreeAt key s t) (now : Nat) (c : Command) :
    AgreeAt key (s.apply now c).2 (t.apply now c).2 := by
  by_cases hc : c.Changes key
  · -- the command names the key, and what it leaves there is made of what was there
    cases c with
    | ping => exact hc.elim
    | setex k seconds payload =>
      refine ⟨?_, h.set, h.expiring, h.broken⟩
      simp only [Server.apply, setString, Table.get?_insert, h.string, h.expiring]
    | get k => exact hc.elim
    | del k =>
      refine ⟨?_, ?_, h.expiring, h.broken⟩
      · simp only [Server.apply, remove, Table.get?_erase, h.string]
      · simp only [Server.apply, remove, Table.get?_erase, h.set]
    | sadd k member =>
      cases hc
      refine ⟨h.string, ?_, h.expiring, h.broken⟩
      simp only [Server.apply, addMember, Table.get?_insert, if_true, Server.members, h.set]
    | smembers k => exact hc.elim
  · exact (agreeAt_apply hc now s).symm.trans (h.trans (agreeAt_apply hc now t))

lemma execute (h : AgreeAt key s t) (now : Nat) (c : Command) :
    AgreeAt key (s.execute now c).2 (t.execute now c).2 := by
  have hnote := h.note c.words
  simp only [Server.execute, hnote.broken]
  split_ifs
  · exact hnote
  · exact hnote.apply now c

lemma executeAll (h : AgreeAt key s t) (now : Nat) (cs : List Command) :
    AgreeAt key (Server.executeAll now cs s).2 (Server.executeAll now cs t).2 := by
  induction cs generalizing s t with
  | nil => exact h
  | cons c cs ih => exact ih (h.execute now c)

lemma answer (h : AgreeAt key s t) (now : Nat) (r : Request) :
    AgreeAt key (s.answer now r).2 (t.answer now r).2 := by
  cases r with
  | one c => exact h.execute now c
  | atomic cs =>
    have hmulti := h.note ["MULTI"]
    have hall := hmulti.executeAll now cs
    simp only [Server.answer, hmulti.broken]
    split_ifs
    · exact hall.note ["EXEC"]
    · exact hmulti.note ["EXEC"]
    · exact hall.note ["EXEC"]

end AgreeAt

end Server

end Billboard.Redis
