import Billboard.Proofs.Accounts.Interleaving

/-! What each operation has been answered, and what it returns after its answers. -/

namespace Billboard

abbrev Transcript : Type := List ((q : Effect) × q.Answer)

def Transcript.created (said : Transcript) : List (Account.Draft × Except AuthError Int) :=
  said.filterMap fun
    | ⟨.account (.create d), a⟩ => some (d, a)
    | _ => none

lemma Transcript.mem_created {said : Transcript} {d : Account.Draft} {a : Except AuthError Int} :
    (d, a) ∈ said.created ↔ ⟨.account (.create d), a⟩ ∈ said := by
  rw [created, List.mem_filterMap]
  constructor
  · rintro ⟨⟨q, b⟩, hm, h⟩
    cases q with
    | account c =>
      cases c with
      | create d' =>
        cases h
        exact hm
      | find username => cases h
    | _ => cases h
  · exact fun h => ⟨_, h, rfl⟩

lemma Transcript.mem_cons_iff {q : Effect} {a : q.Answer} {later : Transcript}
    (h : ∀ x, ⟨q, x⟩ ∉ later) (x : q.Answer) : ⟨q, x⟩ ∈ (⟨q, a⟩ :: later : Transcript) ↔ x = a := by
  rw [List.mem_cons, or_iff_left (h x)]
  constructor
  · intro heq
    exact eq_of_heq (Sigma.mk.inj heq).2
  · rintro rfl
    rfl

def AccountMove.said (i : Nat) : AccountMove → Transcript
  | .answer j _ q a => if j = i then [⟨q, a⟩] else []
  | .launch _ => []
  | .abandon _ => []

def transcript (history : List AccountEvent) (i : Nat) : Transcript :=
  history.reverse.flatMap fun e => e.move.said i

variable {history : List AccountEvent} {e : AccountEvent} {i : Nat}

lemma transcript_cons (e : AccountEvent) (history : List AccountEvent) (i : Nat) :
    transcript (e :: history) i = transcript history i ++ e.move.said i := by
  rw [transcript, List.reverse_cons, List.flatMap_append, List.flatMap_singleton]
  rfl

lemma mem_said {m : AccountMove} {q : Effect} {a : q.Answer} :
    ⟨q, a⟩ ∈ m.said i ↔ ∃ o, m = .answer i o q a := by
  cases m with
  | launch o => exact ⟨fun h => (List.not_mem_nil h).elim, nofun⟩
  | abandon j => exact ⟨fun h => (List.not_mem_nil h).elim, nofun⟩
  | answer j o p b =>
    rw [AccountMove.said]
    split_ifs with hj
    · subst hj
      rw [List.mem_singleton]
      constructor
      · intro h
        cases h
        exact ⟨o, rfl⟩
      · rintro ⟨o, h⟩
        cases h
        rfl
    · refine ⟨fun h => (List.not_mem_nil h).elim, ?_⟩
      rintro ⟨o, h⟩
      cases h
      exact (hj rfl).elim

lemma mem_transcript {q : Effect} {a : q.Answer} :
    ⟨q, a⟩ ∈ transcript history i ↔ ∃ e ∈ history, ∃ o, e.move = .answer i o q a := by
  simp only [transcript, List.mem_flatMap, List.mem_reverse, mem_said]

namespace AccountSystem

variable {signer : Signer} {accounts : Accounts} {s t : AccountSystem} {τ : AccountTask}

lemma Run.unbegun (h : (start accounts).Run signer history s) :
    ∀ i, s.begun ≤ i → s.tasks i = none ∧ transcript history i = [] := by
  induction h with
  | nil => exact fun _ _ => ⟨rfl, rfl⟩
  | @cons history s m t _ step ih =>
    intro i hi
    rw [transcript_cons]
    cases m with
    | launch o =>
      rw [step] at hi ⊢
      have hlt : s.begun < i := hi
      obtain ⟨hnone, hnil⟩ := ih i hlt.le
      exact ⟨(Function.update_of_ne hlt.ne' _ _).trans hnone, congrArg (· ++ []) hnil⟩
    | abandon j =>
      rw [step] at hi ⊢
      obtain ⟨hnone, hnil⟩ := ih i hi
      refine ⟨?_, congrArg (· ++ []) hnil⟩
      simp only [Function.update_apply, hnone, ite_self]
    | answer j o q a =>
      obtain ⟨next, after, hj, -, rfl⟩ := step
      obtain ⟨hnone, hnil⟩ := ih i hi
      have hij : i ≠ j := fun he => by
        rw [he, hj] at hnone
        cases hnone
      refine ⟨(Function.update_of_ne hij _ _).trans hnone, ?_⟩
      rw [hnil, AccountMove.said, if_neg hij.symm, List.append_nil]

lemma Run.leads (h : (start accounts).Run signer history s) :
    ∀ i τ, s.tasks i = some τ →
      (τ.operation.action signer).Leads (transcript history i) τ.rest := by
  induction h with
  | nil => nofun
  | @cons history s m t run step ih =>
    intro i τ hτ
    rw [transcript_cons]
    cases m with
    | launch o =>
      rw [step] at hτ
      rw [AccountMove.said, List.append_nil]
      simp only [Function.update_apply] at hτ
      split_ifs at hτ with hi
      · cases hτ
        rw [(Run.unbegun run i hi.ge).2]
        exact .nil _
      · exact ih i τ hτ
    | abandon j =>
      rw [step] at hτ
      rw [AccountMove.said, List.append_nil]
      simp only [Function.update_apply] at hτ
      split_ifs at hτ
      exact ih i τ hτ
    | answer j o q a =>
      obtain ⟨next, after, hj, -, rfl⟩ := step
      rw [AccountMove.said]
      simp only [Function.update_apply] at hτ
      split_ifs at hτ with hi
      · subst hi
        cases hτ
        rw [if_pos rfl]
        exact (ih i _ hj).snoc a
      · rw [if_neg (Ne.symm hi), List.append_nil]
        exact ih i τ hτ

end AccountSystem

namespace Service

open Dialogue (leads_ask leads_done)

variable {signer : Signer} {said : Transcript}

lemma enroll_returns {r : AccountRequest} {result : Except AuthError String}
    (h : (enroll signer r).Leads said (.done result)) :
    (∃ d e, said.created = [(d, .error e)] ∧ d.username = r.username ∧ result = .error e) ∨
    ∃ d id t, said.created = [(d, .ok id)] ∧ d.username = r.username ∧
      result = .ok (signer.issue (t : Clock.Timestamp).seconds r.username r.role) := by
  obtain ⟨salt, later, rfl, hcreate⟩ := leads_ask.mp h
  obtain ⟨a, later, rfl, hanswer⟩ := leads_ask.mp hcreate
  cases a with
  | error e =>
    obtain ⟨rfl, rfl⟩ := leads_done.mp hanswer
    exact .inl ⟨_, e, rfl, rfl, rfl⟩
  | ok id =>
    obtain ⟨t, later, rfl, hend⟩ := leads_ask.mp hanswer
    obtain ⟨rfl, rfl⟩ := leads_done.mp hend
    exact .inr ⟨_, id, t, rfl, rfl, rfl⟩

lemma register_returns {r : AccountRequest} {result : Except AuthError String}
    (h : (register signer r).Leads said (.done result)) :
    (∃ e, said.created = [] ∧ result = .error e) ∨
    (∃ d e, said.created = [(d, .error e)] ∧ d.username = r.username ∧ result = .error e) ∨
    ∃ d id t, said.created = [(d, .ok id)] ∧ d.username = r.username ∧
      result = .ok (signer.issue (t : Clock.Timestamp).seconds r.username r.role) := by
  rcases register_cases signer r with ⟨e, he⟩ | ⟨-, he⟩ | ⟨token, -, he⟩ <;> rw [he] at h
  · obtain ⟨rfl, rfl⟩ := leads_done.mp h
    exact .inl ⟨e, rfl, rfl⟩
  · exact .inr (enroll_returns h)
  · obtain ⟨t, later, rfl, htime⟩ := leads_ask.mp h
    unfold enrollBy at htime
    split at htime
    · obtain ⟨rfl, rfl⟩ := leads_done.mp htime
      exact .inl ⟨_, rfl, rfl⟩
    · split_ifs at htime
      · have hreturns := enroll_returns htime
        exact .inr hreturns
      · obtain ⟨rfl, rfl⟩ := leads_done.mp htime
        exact .inl ⟨_, rfl, rfl⟩

lemma ensureAdmin_returns {username password : String} {result : Except AuthError Bool}
    (h : (ensureAdmin username password).Leads said (.done result)) :
    (∃ e, ⟨.account (.find username), .error e⟩ ∈ said) ∨
    (said.created = [] ∧ result = .ok false) ∨
    (∃ d id, said.created = [(d, .ok id)] ∧ d.username = username ∧ result = .ok true) ∨
    ∃ d e, said.created = [(d, .error e)] ∧
      ∀ name, e = .userExists name → result = .ok false := by
  rw [ensureAdmin_eq] at h
  obtain ⟨found, later, rfl, hfound⟩ := leads_ask.mp h
  match found with
  | .error e => exact .inl ⟨e, List.mem_cons_self⟩
  | .ok (some a) =>
    obtain ⟨rfl, rfl⟩ := leads_done.mp hfound
    exact .inr (.inl ⟨rfl, rfl⟩)
  | .ok none =>
    obtain ⟨salt, later, rfl, hcreate⟩ := leads_ask.mp hfound
    obtain ⟨a, later, rfl, hanswer⟩ := leads_ask.mp hcreate
    match a with
    | .ok id =>
      obtain ⟨rfl, rfl⟩ := leads_done.mp hanswer
      exact .inr (.inr (.inl ⟨_, id, rfl, rfl, rfl⟩))
    | .error e =>
      have hlater : later = [] := by
        cases e <;> exact (leads_done.mp hanswer).1
      subst hlater
      refine .inr (.inr (.inr ⟨_, e, rfl, ?_⟩))
      rintro name rfl
      exact (leads_done.mp hanswer).2

lemma login_returns {username password : String} {result : Except AuthError String}
    (h : (login signer username password).Leads said (.done result)) :
    ∃ found, (∀ x, ⟨.account (.find username), x⟩ ∈ said ↔ x = found) ∧
      ∀ account?, found = .ok account? →
        (account? = none ∧ result = .error .invalidCredentials) ∨
        ∃ a, account? = some a ∧ ((Password.verify password a.passwordHash = none ∧
            result = .error (.internal "stored hash is invalid")) ∨
          (Password.verify password a.passwordHash = some false ∧
            result = .error .invalidCredentials) ∨
          (Password.verify password a.passwordHash = some true ∧
            ∃ t : Clock.Timestamp, result = .ok (signer.issue t.seconds a.username a.role))) := by
  rw [login_eq] at h
  obtain ⟨found, later, rfl, hfound⟩ := leads_ask.mp h
  match found with
  | .error e =>
    obtain ⟨rfl, -⟩ := leads_done.mp hfound
    exact ⟨_, Transcript.mem_cons_iff fun _ => List.not_mem_nil, nofun⟩
  | .ok none =>
    obtain ⟨rfl, rfl⟩ := leads_done.mp hfound
    refine ⟨_, Transcript.mem_cons_iff fun _ => List.not_mem_nil, ?_⟩
    rintro account? heq
    cases heq
    exact .inl ⟨rfl, rfl⟩
  | .ok (some a) =>
    dsimp only at hfound
    split at hfound
    · obtain ⟨rfl, rfl⟩ := leads_done.mp hfound
      refine ⟨_, Transcript.mem_cons_iff fun _ => List.not_mem_nil, ?_⟩
      rintro account? heq
      cases heq
      exact .inr ⟨a, rfl, .inl ⟨‹_›, rfl⟩⟩
    · obtain ⟨rfl, rfl⟩ := leads_done.mp hfound
      refine ⟨_, Transcript.mem_cons_iff fun _ => List.not_mem_nil, ?_⟩
      rintro account? heq
      cases heq
      exact .inr ⟨a, rfl, .inr (.inl ⟨‹_›, rfl⟩)⟩
    · obtain ⟨t, later, rfl, hend⟩ := leads_ask.mp hfound
      obtain ⟨rfl, rfl⟩ := leads_done.mp hend
      refine ⟨_, Transcript.mem_cons_iff (by simp), ?_⟩
      rintro account? heq
      cases heq
      exact .inr ⟨a, rfl, .inr (.inr ⟨‹_›, t, rfl⟩)⟩

end Service

end Billboard
