import Billboard.Proofs.Accounts.Creation

/-! Passwords are checked against the hashes that are stored when accounts are created. -/

namespace Billboard

open Password

lemma Service.login_of_verify (signer : Signer) (username : String) {given : String} {a : Account}
    (h : verify given a.passwordHash = some true) :
    ∃ next, login signer username given = .ask (.account (.find username)) next ∧
      next (.ok (some a)) =
        .ask .clock fun t => .done (.ok (signer.issue t.seconds a.username a.role)) := by
  refine ⟨_, login_eq signer username given, ?_⟩
  simp only [h]

namespace AccountSystem

variable {signer : Signer} {accounts : Accounts} {s : AccountSystem} {history : List AccountEvent}
  {i : Nat} {username given : String}

lemma Run.found_drafted {a : Account} (h : (start accounts).Run signer history s)
    (ha : ⟨.account (.find username), .ok (some a)⟩ ∈ transcript history i) :
    a ∈ accounts.rows ∨ Drafted history a := by
  obtain ⟨e, he, o, hm⟩ := mem_transcript.mp ha
  -- at the moment of the answer the account was among the rows
  obtain ⟨newer, older, rfl, hrun, step, -⟩ := h.at_mem he
  rw [hm] at step
  obtain ⟨next, after, -, ⟨hfound, -⟩, -⟩ := step
  have hrow : a ∈ e.before.accounts.rows :=
    Accounts.mem_rows_of_find? (Except.ok.inj hfound).symm
  refine (Run.drafted hrun hrow).imp_right (.mono fun e' he' => ?_)
  exact List.mem_append_right _ (List.mem_cons_of_mem _ he')

lemma Run.login_by_hash {a : Account} {result : Except AuthError String}
    (h : (start accounts).Run signer history s)
    (hi : s.tasks i = some ⟨.login username given, .done result⟩)
    (ha : ⟨.account (.find username), .ok (some a)⟩ ∈ transcript history i) :
    (verify given a.passwordHash = none ∧
      result = .error (.internal "stored hash is invalid")) ∨
    (verify given a.passwordHash = some false ∧ result = .error .invalidCredentials) ∨
    (verify given a.passwordHash = some true ∧
      ∃ t : Clock.Timestamp, result = .ok (signer.issue t.seconds a.username a.role)) := by
  obtain ⟨found, hfound, hresult⟩ := Service.login_returns (h.leads i _ hi)
  rcases hresult _ ((hfound _).mp ha).symm with ⟨hnone, -⟩ | ⟨b, hb, hverify⟩
  · cases hnone
  · cases hb
    exact hverify

/-- A stored hash lets just those passwords pass that hash to the same output under its salt, and no
login finds the hash of an account that was created invalid. -/
theorem stored_hashes_verify :
    (∀ (password : String) (salt : Vector UInt8 16), (bytesOf password).length ≤ 2 ^ 32 - 1 →
      verify password (hash password salt.toList) = some true ∧
      ∀ given, verify given (hash password salt.toList) =
        some (decide (Argon2.output? standard (bytesOf given) salt.toList =
          Argon2.output? standard (bytesOf password) salt.toList))) ∧
    (∀ stored given, verify given stored = none ↔
      ¬ ∃ h : HashString, h.WellFormed ∧ stored.toList = h.write) ∧
    ∀ signer accounts history s, (start accounts).Run signer history s →
      ∀ i username given result a, s.tasks i = some ⟨.login username given, .done result⟩ →
        ⟨.account (.find username), .ok (some a)⟩ ∈ transcript history i →
          (a ∈ accounts.rows ∨ (Drafted history a ∧ a.Hashed)) ∧
          (a.Hashed → result ≠ .error (.internal "stored hash is invalid") ∧
            ((verify given a.passwordHash = some false ∧ result = .error .invalidCredentials) ∨
              (verify given a.passwordHash = some true ∧
                ∃ t : Clock.Timestamp, result = .ok (signer.issue t.seconds a.username a.role)))) := by
  refine ⟨fun password salt hlength => ?_, fun stored given => verify_eq_none_iff given,
    fun signer accounts history s h i username given result a hi ha => ⟨?_, fun hhashed => ?_⟩⟩
  · have hsalt : salt.toList.length = 16 := salt.length_toList
    refine ⟨verify_hash_self (by omega) (by omega) hlength, fun given => ?_⟩
    rw [verify_hash (by omega) (by omega), output?_eq_some hlength (by omega), beq_eq_decide]
  · exact (h.found_drafted ha).imp_right fun hdrafted => ⟨hdrafted, hdrafted.hashed⟩
  · rcases h.login_by_hash hi ha with ⟨hnone, -⟩ | ⟨hfalse, rfl⟩ | ⟨htrue, t, rfl⟩
    · exact (hhashed.verify_ne_none given hnone).elim
    · exact ⟨nofun, .inl ⟨hfalse, rfl⟩⟩
    · exact ⟨nofun, .inr ⟨htrue, t, rfl⟩⟩

theorem stored_hashes_verify_admin :
    let signer : Signer := ⟨[], 60⟩
    let salt : Vector UInt8 16 := Vector.replicate 16 0
    let token := signer.issue 0 "root" .admin
    (bytesOf "first").length ≤ 2 ^ 32 - 1 ∧
    verify "first" (hash "first" salt.toList) = some true ∧ verify "first" "first" = none ∧
    ∃ history s a, (start {}).Run signer history s ∧ Drafted history a ∧
      s.tasks 1 = some ⟨.login "root" "first", .done (.ok token)⟩ ∧
      verify "first" a.passwordHash = some true := by
  intro signer salt token
  obtain ⟨hpasses, hunread, hlogin⟩ := stored_hashes_verify
  have hlength : (bytesOf "first").length ≤ 2 ^ 32 - 1 := by decide +kernel
  have hself : verify "first" (hash "first" salt.toList) = some true :=
    (hpasses "first" salt hlength).1
  have hnone : verify "first" "first" = none := by
    rw [hunread]
    rintro ⟨h, -, heq⟩
    rw [HashString.write_eq, Text.intercalate_cons, List.flatMap_cons] at heq
    cases heq
  let admin : AccountOperation := .ensureAdmin "root" "first"
  let login : AccountOperation := .login "root" "first"
  let a : Account := .ofDraft 1
    { username := "root", passwordHash := hash "first" salt.toList, role := .admin }
  obtain ⟨next, hnext, hrest⟩ :=
    Service.login_of_verify signer "root" (a := a) hself
  have begin : (start {}).Step signer (.launch admin) _ := rfl
  have run := Trace.nil.cons begin
  have run := run.cons (m := AccountMove.launch login) rfl
  have run := run.cons (m := AccountMove.answer 0 admin (.account (.find "root")) (.ok none))
    ⟨_, _, rfl, ⟨rfl, rfl⟩, rfl⟩
  have run := run.cons (m := AccountMove.answer 0 admin .salt salt) ⟨_, _, rfl, rfl, rfl⟩
  have run := run.cons (m := AccountMove.answer 0 admin (.account (.create _)) (.ok 1))
    ⟨_, _, rfl, ⟨rfl, rfl⟩, rfl⟩
  have run := run.cons (m := AccountMove.answer 1 login (.account (.find "root")) (.ok (some a)))
    ⟨next, _, congrArg (fun rest => some (AccountTask.mk login rest)) hnext, ⟨rfl, rfl⟩, rfl⟩
  have run := run.cons (m := AccountMove.answer 1 login .clock ⟨0, 0⟩)
    ⟨_, _, congrArg (fun rest => some (AccountTask.mk login rest)) hrest, rfl, rfl⟩
  have hfound := hlogin signer {} _ _ run 1 "root" "first" (.ok token) a rfl
    (mem_transcript.mpr ⟨_, .tail _ (.head _), login, rfl⟩)
  obtain ⟨hdrafted, hhashed⟩ := hfound.1.resolve_left List.not_mem_nil
  obtain ⟨-, ⟨-, hrefused⟩ | ⟨hverify, -⟩⟩ := hfound.2 hhashed
  · cases hrefused
  · exact ⟨hlength, hself, hnone, _, _, a, run, hdrafted, rfl, hverify⟩

end AccountSystem

end Billboard
