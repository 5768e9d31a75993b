import Billboard.Proofs.Accounts.Interleaving
import Mathlib.Data.List.Nodup

namespace Billboard

namespace Accounts

variable {s : Accounts} {d : Account.Draft} {a : Account} {username : String}

structure Numbered (s : Accounts) : Prop where
  ids : s.rows.map (·.id) = (List.range s.rows.length).map fun n : Nat => (n : Int) + 1
  nextId : s.nextId = s.rows.length + 1
  names : (s.rows.map (·.username)).Nodup

def Taken (s : Accounts) (username : String) : Prop := ∃ a ∈ s.rows, a.username = username

lemma find?_eq_none : s.find? username = none ↔ ¬ s.Taken username := by
  simp only [find?, List.find?_eq_none, beq_iff_eq, Taken, not_exists, not_and]

lemma username_of_find? (h : s.find? username = some a) : a.username = username := by
  rw [find?] at h
  have hname := List.find?_some h
  exact eq_of_beq hname

lemma create_of_taken (h : s.Taken d.username) :
    s.create d = (.error (.userExists d.username), s) := by
  rw [create]
  split
  · rfl
  · exact (find?_eq_none.mp ‹_› h).elim

lemma create_of_not_taken (h : ¬ s.Taken d.username) : s.create d =
    (.ok s.nextId, ⟨s.rows ++ [.ofDraft s.nextId d], s.nextId + 1⟩) := by
  rw [create, find?_eq_none.mpr h]

lemma taken_answer {c : AccountCall} : (s.answer c).2.Taken username ↔
    s.Taken username ∨ ∃ d, c = .create d ∧ d.username = username := by
  cases c with
  | find name => exact ⟨.inl, fun h => h.elim id nofun⟩
  | create d =>
    by_cases h : s.Taken d.username
    · rw [answer, create_of_taken h]
      refine ⟨.inl, fun hor => hor.elim id ?_⟩
      rintro ⟨d', he, rfl⟩
      cases he
      exact h
    · rw [answer, create_of_not_taken h]
      have hname : (Account.ofDraft s.nextId d).username = d.username := rfl
      simp only [Taken, List.mem_append, List.mem_singleton, or_and_right, exists_or,
        exists_eq_left, hname, AccountCall.create.injEq, exists_eq_left']

namespace Numbered

lemma empty : Numbered {} := ⟨rfl, rfl, List.nodup_nil⟩

lemma answer (h : s.Numbered) (c : AccountCall) : (s.answer c).2.Numbered := by
  cases c with
  | find name => exact h
  | create d =>
    by_cases ht : s.Taken d.username
    · rw [Accounts.answer, create_of_taken ht]
      exact h
    · rw [Accounts.answer, create_of_not_taken ht]
      refine ⟨?_, ?_, ?_⟩
      · simp only [List.map_append, List.map_singleton, List.length_append, List.length_singleton,
          List.range_succ, h.ids, Account.ofDraft, h.nextId]
      · simp only [List.length_append, List.length_singleton, h.nextId, Int.natCast_add,
          Int.natCast_one]
      · rw [List.map_append, List.map_singleton, List.nodup_append]
        refine ⟨h.names, List.nodup_singleton _, fun name hn other ho he => ht ?_⟩
        rw [List.mem_singleton] at ho
        obtain ⟨a, ha, hname⟩ := List.mem_map.mp hn
        exact ⟨a, ha, hname.trans (he.trans ho)⟩

lemma eq_of_username (h : s.Numbered) {b : Account} (ha : a ∈ s.rows) (hb : b ∈ s.rows)
    (he : a.username = b.username) : a = b :=
  List.inj_on_of_nodup_map h.names ha hb he

end Numbered

/-- A token for the account of that name if the password verifies against its hash, and else that
the credentials are invalid. -/
def LogsIn (s : Accounts) (signer : Signer) (username password : String)
    (result : Except AuthError String) : Prop :=
  (∃ a ∈ s.rows, a.username = username ∧ Password.verify password a.passwordHash = some true ∧
    ∃ t : Clock.Timestamp, result = .ok (signer.issue t.seconds username a.role)) ∨
  ((¬ ∃ a ∈ s.rows, a.username = username ∧ Password.verify password a.passwordHash = some true) ∧
    result = .error .invalidCredentials)

variable {signer : Signer} {password : String}

lemma logsIn_none {result : Except AuthError String} (h : s.find? username = none) :
    s.LogsIn signer username password result ↔ result = .error .invalidCredentials := by
  have hnone : ∀ a ∈ s.rows, a.username ≠ username := fun a ha hname =>
    find?_eq_none.mp h ⟨a, ha, hname⟩
  constructor
  · rintro (⟨a, ha, hname, -⟩ | ⟨-, rfl⟩)
    · exact (hnone a ha hname).elim
    · rfl
  · rintro rfl
    exact .inr ⟨fun ⟨a, ha, hname, _⟩ => hnone a ha hname, rfl⟩

lemma Numbered.logsIn_some {result : Except AuthError String} (hs : s.Numbered) {a : Account}
    (h : s.find? username = some a) :
    s.LogsIn signer username password result ↔
      if Password.verify password a.passwordHash = some true then
        ∃ t : Clock.Timestamp, result = .ok (signer.issue t.seconds username a.role)
      else result = .error .invalidCredentials := by
  have ha := mem_rows_of_find? h
  have hname := username_of_find? h
  have honly : ∀ b ∈ s.rows, b.username = username → b = a := fun b hb he =>
    hs.eq_of_username hb ha (he.trans hname.symm)
  split_ifs with hverify
  · constructor
    · rintro (⟨b, hb, he, -, t, rfl⟩ | ⟨hnone, -⟩)
      · rw [honly b hb he]
        exact ⟨t, rfl⟩
      · exact (hnone ⟨a, ha, hname, hverify⟩).elim
    · rintro ⟨t, rfl⟩
      exact .inl ⟨a, ha, hname, hverify, t, rfl⟩
  · constructor
    · rintro (⟨b, hb, he, hpass, -⟩ | ⟨-, rfl⟩)
      · exact (hverify (honly b hb he ▸ hpass)).elim
      · rfl
    · rintro rfl
      refine .inr ⟨?_, rfl⟩
      rintro ⟨b, hb, he, hpass⟩
      exact hverify (honly b hb he ▸ hpass)

end Accounts

end Billboard
