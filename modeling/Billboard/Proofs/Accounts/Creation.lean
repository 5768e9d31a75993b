import Billboard.Proofs.Accounts.Directory
import Billboard.Proofs.Accounts.Transcript
import Billboard.Proofs.Password.Stored

/-! Accounts are created once and never change, whichever operation comes first. -/

namespace Billboard

def Account.Hashed (a : Account) : Prop :=
  ∃ (password : String) (salt : Vector UInt8 16), a.passwordHash = Password.hash password salt.toList

lemma Account.Hashed.verify_ne_none {a : Account} (h : a.Hashed) (given : String) :
    Password.verify given a.passwordHash ≠ none := by
  obtain ⟨password, salt, hhash⟩ := h
  have hlength : salt.toList.length = 16 := salt.length_toList
  rw [hhash, Password.verify_hash (by omega) (by omega)]
  exact Option.some_ne_none _

namespace AccountOperation

open AccountSystem (Learns)

variable {signer : Signer}

def draft? : AccountOperation → Vector UInt8 16 → Option Account.Draft
  | .register r, salt =>
    some ⟨r.username, Password.hash r.password salt.toList, r.role, r.feature, r.tags⟩
  | .ensureAdmin username password, salt =>
    some { username, passwordHash := Password.hash password salt.toList, role := .admin }
  | .login .., _ => none
  | .isAdmin _, _ => none

lemma hashed_of_draft? {o : AccountOperation} {salt : Vector UInt8 16} {d : Account.Draft}
    (h : o.draft? salt = some d) (id : Int) : (Account.ofDraft id d).Hashed := by
  cases o with
  | register r =>
    cases h
    exact ⟨r.password, salt, rfl⟩
  | ensureAdmin username password =>
    cases h
    exact ⟨password, salt, rfl⟩
  | login username password => cases h
  | isAdmin token => cases h

def AsksFor (o : AccountOperation) (q : Effect) (_ : Set Clock.Timestamp) : Prop :=
  ∀ d, q = .account (.create d) → ∃ salt, o.draft? salt = some d

lemma asksFor_of_ne {o : AccountOperation} {q : Effect} {told : Set Clock.Timestamp}
    (hq : ∀ d, q ≠ .account (.create d)) : o.AsksFor q told :=
  fun d h => (hq d h).elim

lemma asksFor_enroll (r : Service.AccountRequest) (told : Set Clock.Timestamp) :
    (Service.enroll signer r).Keeps (register r).AsksFor Learns told := by
  refine ⟨asksFor_of_ne nofun, fun salt _ _ => ⟨fun d hd => ?_, fun a _ _ => ?_⟩⟩
  · cases hd
    exact ⟨salt, rfl⟩
  · cases a with
    | error e => trivial
    | ok id => exact ⟨asksFor_of_ne nofun, fun _ _ _ => trivial⟩

lemma asksFor_action (o : AccountOperation) :
    (o.action signer).Keeps o.AsksFor Learns ∅ := by
  cases o with
  | register r =>
    rw [action]
    rcases Service.register_cases signer r with ⟨e, he⟩ | ⟨-, he⟩ | ⟨token, -, he⟩ <;> rw [he]
    · trivial
    · exact asksFor_enroll r ∅
    · refine ⟨asksFor_of_ne nofun, fun t told _ => ?_⟩
      unfold Service.enrollBy
      split
      · trivial
      · split_ifs
        · exact asksFor_enroll r told
        · trivial
  | login username password =>
    rw [action, Service.login_eq]
    refine ⟨asksFor_of_ne nofun, fun a _ _ => ?_⟩
    match a with
    | .error e => trivial
    | .ok none => trivial
    | .ok (some a) =>
      dsimp only
      split
      · trivial
      · trivial
      · exact ⟨asksFor_of_ne nofun, fun _ _ _ => trivial⟩
  | ensureAdmin username password =>
    rw [action, Service.ensureAdmin_eq]
    refine ⟨asksFor_of_ne nofun, fun a _ _ => ?_⟩
    match a with
    | .error e => trivial
    | .ok (some a) => trivial
    | .ok none =>
      refine ⟨asksFor_of_ne nofun, fun salt _ _ => ⟨fun d hd => ?_, fun a _ _ => ?_⟩⟩
      · cases hd
        exact ⟨salt, rfl⟩
      · match a with
        | .ok id => trivial
        | .error e => cases e <;> trivial
  | isAdmin token =>
    rw [action, Service.isAdmin_eq]
    exact ⟨asksFor_of_ne nofun, fun _ _ _ => trivial⟩

end AccountOperation

def Tried (history : List AccountEvent) (username : String) : Prop :=
  ∃ e ∈ history, ∃ i o d a, e.move = .answer i o (.account (.create d)) a ∧ d.username = username

def Creates (history : List AccountEvent) (i : Nat) (username : String) : Prop :=
  ∃ d id, (d, .ok id) ∈ (transcript history i).created ∧ d.username = username

/-- The account was created for an operation, with a salt that the operation was given. -/
def Drafted (history : List AccountEvent) (a : Account) : Prop :=
  ∃ e ∈ history, ∃ i o d id salt, e.move = .answer i o (.account (.create d)) (.ok id) ∧
    o.draft? salt = some d ∧ a = .ofDraft id d

variable {signer : Signer} {history newer older : List AccountEvent} {e : AccountEvent} {i : Nat}
  {o : AccountOperation} {d : Account.Draft} {username password : String}

lemma Drafted.mono {a : Account} (hle : older ⊆ history) (h : Drafted older a) :
    Drafted history a := by
  obtain ⟨e, he, hd⟩ := h
  exact ⟨e, hle he, hd⟩

lemma Drafted.hashed {a : Account} (h : Drafted history a) : a.Hashed := by
  obtain ⟨e, -, i, o, d, id, salt, -, hd, rfl⟩ := h
  exact AccountOperation.hashed_of_draft? hd id

lemma tried_cons : Tried (e :: history) username ↔ Tried history username ∨
    ∃ i o d a, e.move = .answer i o (.account (.create d)) a ∧ d.username = username := by
  rw [Tried, List.exists_mem_cons_iff, or_comm]
  rfl

lemma mem_created_transcript {a : Except AuthError Int} :
    (d, a) ∈ (transcript history i).created ↔
      ∃ e ∈ history, ∃ o, e.move = .answer i o (.account (.create d)) a := by
  rw [Transcript.mem_created, mem_transcript]

lemma creates_cons : Creates (e :: history) i username ↔ Creates history i username ∨
    ∃ o d id, e.move = .answer i o (.account (.create d)) (.ok id) ∧ d.username = username := by
  simp only [Creates, mem_created_transcript, List.exists_mem_cons_iff]
  constructor
  · rintro ⟨d, id, ⟨o, he⟩ | he, hname⟩
    · exact .inr ⟨o, d, id, he, hname⟩
    · exact .inl ⟨d, id, he, hname⟩
  · rintro (⟨d, id, he, hname⟩ | ⟨o, d, id, he, hname⟩)
    · exact ⟨d, id, .inr he, hname⟩
    · exact ⟨d, id, .inl ⟨o, he⟩, hname⟩

lemma Creates.tried (h : Creates history i username) : Tried history username := by
  obtain ⟨d, id, hd, hname⟩ := h
  obtain ⟨e, he, o, hm⟩ := mem_created_transcript.mp hd
  exact ⟨e, he, i, o, d, .ok id, hm, hname⟩

namespace AccountSystem

variable {accounts : Accounts} {s t : AccountSystem} {m : AccountMove}

lemma Step.accounts_eq (h : s.Step signer m t)
    (hm : ∀ i o d a, m ≠ .answer i o (.account (.create d)) a) : t.accounts = s.accounts := by
  rcases h.accounts with he | ⟨i, o, c, rfl, he⟩
  · exact he
  · cases c with
    | find username => exact he
    | create d => exact (hm i o d _ rfl).elim

lemma Step.create {a : Except AuthError Int}
    (h : s.Step signer (.answer i o (.account (.create d)) a) t) :
    a = (s.accounts.create d).1 ∧ t.accounts = (s.accounts.create d).2 := by
  obtain ⟨next, accounts, -, ⟨rfl, rfl⟩, rfl⟩ := h
  exact ⟨rfl, rfl⟩

lemma Step.numbered (h : s.Step signer m t) (hs : s.accounts.Numbered) : t.accounts.Numbered := by
  rcases h.accounts with he | ⟨i, o, c, -, he⟩
  · exact he ▸ hs
  · exact he ▸ hs.answer c

lemma Run.numbered (h : (start {}).Run signer history s) : s.accounts.Numbered :=
  h.preserves (p := fun u => u.accounts.Numbered) (fun step => step.numbered) .empty

lemma Run.taken_iff (h : (start {}).Run signer history s) :
    s.accounts.Taken username ↔ Tried history username := by
  induction h with
  | nil =>
    exact ⟨fun ⟨_, ha, _⟩ => (List.not_mem_nil ha).elim,
      fun ⟨_, he, _⟩ => (List.not_mem_nil he).elim⟩
  | @cons history s m t _ step ih =>
    rw [tried_cons, ← ih]
    by_cases hm : ∃ i o d a, m = .answer i o (.account (.create d)) a
    · obtain ⟨i, o, d, a, rfl⟩ := hm
      have hafter : t.accounts = (s.accounts.answer (.create d)).2 := step.create.2
      rw [hafter, Accounts.taken_answer]
      refine or_congr_right ⟨?_, ?_⟩
      · rintro ⟨d', hd, hname⟩
        cases hd
        exact ⟨i, o, d, a, rfl, hname⟩
      · rintro ⟨i', o', d', a', hmove, hname⟩
        cases hmove
        exact ⟨d, rfl, hname⟩
    · rw [step.accounts_eq fun i o d a he => hm ⟨i, o, d, a, he⟩]
      exact (or_iff_left fun ⟨i, o, d, a, he, _⟩ => hm ⟨i, o, d, a, he⟩).symm

lemma Run.create {a : Except AuthError Int} (h : (start {}).Run signer history s)
    (step : s.Step signer (.answer i o (.account (.create d)) a) t) :
    (¬ Tried history d.username ∧ a = .ok s.accounts.nextId ∧ t.accounts =
      ⟨s.accounts.rows ++ [.ofDraft s.accounts.nextId d], s.accounts.nextId + 1⟩) ∨
    (Tried history d.username ∧ a = .error (.userExists d.username) ∧
      t.accounts = s.accounts) := by
  obtain ⟨ha, hafter⟩ := step.create
  rw [← h.taken_iff]
  by_cases ht : s.accounts.Taken d.username
  · rw [Accounts.create_of_taken ht] at ha hafter
    exact .inr ⟨ht, ha, hafter⟩
  · rw [Accounts.create_of_not_taken ht] at ha hafter
    exact .inl ⟨ht, ha, hafter⟩

lemma Run.draft {a : Except AuthError Int} (h : (start accounts).Run signer history s)
    (step : s.Step signer (.answer i o (.account (.create d)) a) t) :
    ∃ salt, o.draft? salt = some d := by
  obtain ⟨next, accounts, hi, -⟩ := step
  have hasks := h.keeps AccountOperation.AsksFor (fun _ _ _ _ _ hold => hold)
    AccountOperation.asksFor_action i _ hi
  exact hasks.1 d rfl

lemma Run.drafted {a : Account} (h : (start accounts).Run signer history s)
    (ha : a ∈ s.accounts.rows) : a ∈ accounts.rows ∨ Drafted history a := by
  induction h with
  | nil => exact .inl ha
  | cons run step ih =>
    rcases step.accounts with he | ⟨i, o, c, rfl, he⟩
    · exact (ih (he ▸ ha)).imp_right (.mono (List.subset_cons_self _ _))
    · rw [he] at ha
      rcases Accounts.mem_rows_answer ha with ha | ⟨d, rfl, hid, rfl⟩
      · exact (ih ha).imp_right (.mono (List.subset_cons_self _ _))
      · obtain ⟨salt, hd⟩ := Run.draft run step
        exact .inr ⟨_, List.mem_cons_self, i, o, d, _, salt, hid ▸ rfl, hd, rfl⟩

lemma Run.existsUnique_creates (h : (start {}).Run signer history s)
    (ht : Tried history username) : ∃! i, Creates history i username := by
  induction h with
  | nil => exact (List.not_mem_nil ht.choose_spec.1).elim
  | @cons history s m t run step ih =>
    by_cases hold : Tried history username
    · -- the call that was first stays the only one, as this move can no longer succeed
      obtain ⟨i, hi, hunique⟩ := ih hold
      refine ⟨i, creates_cons.mpr (.inl hi), fun j hj => ?_⟩
      rcases creates_cons.mp hj with hj | ⟨o, d, id, rfl, rfl⟩
      · exact hunique j hj
      · rcases Run.create run step with ⟨hnot, -⟩ | ⟨-, ha, -⟩
        · exact (hnot hold).elim
        · cases ha
    · -- this move is the first try, so it succeeds
      obtain ⟨i, o, d, a, rfl, rfl⟩ := (tried_cons.mp ht).resolve_left hold
      rcases Run.create run step with ⟨-, rfl, -⟩ | ⟨htried, -⟩
      · refine ⟨i, creates_cons.mpr (.inr ⟨o, d, _, rfl, rfl⟩), fun j hj => ?_⟩
        rcases creates_cons.mp hj with hj | ⟨o', d', id', hm, -⟩
        · exact (hold hj.tried).elim
        · cases hm
          rfl
      · exact (hold htried).elim

lemma Run.mem_rows_iff {a : Account} (h : (start {}).Run signer history s) :
    a ∈ s.accounts.rows ↔ ∃ e ∈ history, ∃ i o d id,
      e.move = .answer i o (.account (.create d)) (.ok id) ∧ a = .ofDraft id d := by
  induction h with
  | nil =>
    exact ⟨fun ha => (List.not_mem_nil ha).elim, fun ⟨_, he, _⟩ => (List.not_mem_nil he).elim⟩
  | @cons history s m t run step ih =>
    rw [List.exists_mem_cons_iff, ← ih]
    by_cases hm : ∃ i o d a, m = .answer i o (.account (.create d)) a
    · obtain ⟨i, o, d, x, rfl⟩ := hm
      rcases Run.create run step with ⟨-, rfl, hafter⟩ | ⟨-, rfl, hafter⟩
      · rw [hafter, List.mem_append, List.mem_singleton, or_comm]
        refine or_congr_left ⟨fun ha => ⟨i, o, d, _, rfl, ha⟩, ?_⟩
        rintro ⟨i', o', d', id', hmove, ha⟩
        cases hmove
        exact ha
      · rw [hafter]
        refine (or_iff_right ?_).symm
        rintro ⟨i', o', d', id', hmove, -⟩
        cases hmove
    · rw [step.accounts_eq fun i o d a he => hm ⟨i, o, d, a, he⟩]
      exact (or_iff_right fun ⟨i, o, d, id, he, _⟩ => hm ⟨i, o, d, _, he⟩).symm

lemma Run.verify_ne_none {a : Account} (h : (start {}).Run signer history s)
    (ha : a ∈ s.accounts.rows) (password : String) :
    Password.verify password a.passwordHash ≠ none :=
  ((h.drafted ha).resolve_left List.not_mem_nil).hashed.verify_ne_none password

end AccountSystem

namespace Accounts

variable {s : Accounts}

def answers (q : Effect) (s : Accounts) : Set (q.Answer × Accounts) :=
  {p | (AccountSystem.start s).Answers q p.1 p.2}

lemma mem_outcomes_find {α : Type} {next : (AccountCall.find username).Answer → Action α}
    {outcome : α × Accounts} :
    outcome ∈ (Dialogue.ask (.account (.find username)) next : Action α).outcomes answers s ↔
      outcome ∈ (next (.ok (s.find? username))).outcomes answers s := by
  constructor
  · rintro ⟨p, ⟨hanswer, hafter⟩, ho⟩
    rw [hanswer, hafter] at ho
    exact ho
  · exact fun ho => ⟨(.ok (s.find? username), s), ⟨rfl, rfl⟩, ho⟩

end Accounts

namespace AccountSystem

variable {s : AccountSystem}

lemma Run.login_result (h : (start {}).Run signer history s)
    {result : Except AuthError String}
    (hi : s.tasks i = some ⟨.login username password, .done result⟩) :
    ∃ e ∈ history, (∃ o x, e.move = .answer i o (.account (.find username)) x) ∧
      e.before.accounts.LogsIn signer username password result := by
  obtain ⟨found, hfound, hresult⟩ := Service.login_returns (h.leads i _ hi)
  obtain ⟨e, he, o, hm⟩ := mem_transcript.mp ((hfound found).mpr rfl)
  refine ⟨e, he, ⟨o, found, hm⟩, ?_⟩
  obtain ⟨_, _, -, hrun, step, -⟩ := h.at_mem he
  rw [hm] at step
  obtain ⟨next, accounts, -, ⟨rfl, -⟩, -⟩ := step
  rcases hresult _ rfl with ⟨hnone, rfl⟩ | ⟨a, hsome, hverify⟩
  · exact (Accounts.logsIn_none hnone).mpr rfl
  · have hname := Accounts.username_of_find? hsome
    rw [(Run.numbered hrun).logsIn_some hsome]
    rcases hverify with hv | ⟨hv, rfl⟩ | ⟨hv, t, rfl⟩
    · exact (Run.verify_ne_none hrun (Accounts.mem_rows_of_find? hsome) password hv.1).elim
    · rw [hv, if_neg (by decide)]
    · rw [hv, if_pos rfl, hname]
      exact ⟨t, rfl⟩

lemma Run.mem_outcomes_login (h : (start {}).Run signer history s) (username password : String)
    (outcome : Except AuthError String × Accounts) :
    outcome ∈ (Service.login signer username password).outcomes Accounts.answers s.accounts ↔
      outcome.2 = s.accounts ∧ s.accounts.LogsIn signer username password outcome.1 := by
  obtain ⟨result, accounts⟩ := outcome
  have hdone : ∀ {result'}, (result, accounts) ∈
      (Dialogue.done result' : Action (Except AuthError String)).outcomes Accounts.answers
        s.accounts ↔ accounts = s.accounts ∧ result = result' := by
    intro result'
    rw [and_comm, ← Prod.mk.injEq]
    rfl
  rw [Service.login_eq, Accounts.mem_outcomes_find]
  cases hfound : s.accounts.find? username with
  | none => rw [Accounts.logsIn_none hfound, hdone]
  | some a =>
    have hname := Accounts.username_of_find? hfound
    rw [h.numbered.logsIn_some hfound]
    dsimp only
    cases hv : Password.verify password a.passwordHash with
    | none => exact (h.verify_ne_none (Accounts.mem_rows_of_find? hfound) password hv).elim
    | some right =>
      cases right with
      | false => rw [if_neg (by decide), hdone]
      | true =>
        rw [if_pos rfl, hname]
        constructor
        · rintro ⟨⟨t, _⟩, rfl, ho⟩
          obtain ⟨hs, hr⟩ := hdone.mp ho
          exact ⟨hs, t, hr⟩
        · rintro ⟨hs, t, hr⟩
          exact ⟨(t, s.accounts), rfl, hdone.mpr ⟨hs, hr⟩⟩

lemma Run.refused (h : (start {}).Run signer history s) {x : AuthError}
    (hd : (d, .error x) ∈ (transcript history i).created) : x = .userExists d.username := by
  obtain ⟨e, he, o, hm⟩ := mem_created_transcript.mp hd
  obtain ⟨_, _, -, hrun, step, -⟩ := h.at_mem he
  rw [hm] at step
  rcases Run.create hrun step with ⟨-, ha, -⟩ | ⟨-, ha, -⟩
  · cases ha
  · exact Except.error.inj ha

lemma Run.register_result (h : (start {}).Run signer history s) {r : Service.AccountRequest}
    {result : Except AuthError String} (hi : s.tasks i = some ⟨.register r, .done result⟩) :
    (Creates history i r.username ∧
      ∃ t : Clock.Timestamp, result = .ok (signer.issue t.seconds r.username r.role)) ∨
    ((transcript history i).created ≠ [] ∧ ¬ Creates history i r.username ∧
      result = .error (.userExists r.username)) ∨
    ((transcript history i).created = [] ∧ ∃ e, result = .error e) := by
  rcases Service.register_returns (h.leads i _ hi) with
    ⟨e, hnone, rfl⟩ | ⟨d, e, hcreated, hname, rfl⟩ | ⟨d, id, t, hcreated, hname, rfl⟩
  · exact .inr (.inr ⟨hnone, e, rfl⟩)
  · have he := h.refused (i := i) (hcreated ▸ List.mem_cons_self)
    refine .inr (.inl ⟨hcreated ▸ List.cons_ne_nil _ _, ?_, by rw [he, hname]⟩)
    rintro ⟨d', id, hd, -⟩
    rw [hcreated] at hd
    cases List.mem_singleton.mp hd
  · refine .inl ⟨⟨d, id, ?_, hname⟩, t, rfl⟩
    rw [hcreated]
    exact List.mem_cons_self

lemma Run.ensureAdmin_result (h : (start {}).Run signer history s)
    {result : Except AuthError Bool}
    (hi : s.tasks i = some ⟨.ensureAdmin username password, .done result⟩) :
    (Creates history i username ∧ result = .ok true) ∨
    (¬ Creates history i username ∧ result = .ok false) := by
  have hnever : (transcript history i).created = [] → ¬ Creates history i username := by
    rintro hnone ⟨d, id, hd, -⟩
    rw [hnone] at hd
    exact List.not_mem_nil hd
  rcases Service.ensureAdmin_returns (h.leads i _ hi) with
    ⟨x, hfound⟩ | ⟨hnone, rfl⟩ | ⟨d, id, hcreated, hname, rfl⟩ | ⟨d, x, hcreated, hresult⟩
  · obtain ⟨e, he, o, hm⟩ := mem_transcript.mp hfound
    obtain ⟨_, _, -, -, step, -⟩ := h.at_mem he
    rw [hm] at step
    obtain ⟨next, accounts, -, ⟨hx, -⟩, -⟩ := step
    cases hx
  · exact .inr ⟨hnever hnone, rfl⟩
  · exact .inl ⟨⟨d, id, hcreated ▸ List.mem_cons_self, hname⟩, rfl⟩
  · refine .inr ⟨?_, hresult _ (h.refused (hcreated ▸ List.mem_cons_self))⟩
    rintro ⟨d', id, hd, -⟩
    rw [hcreated] at hd
    cases List.mem_singleton.mp hd

/-- The first draft for a name becomes an account under the next id, every later one is refused, and
accounts stay as they were; a login goes by the accounts that it finds. -/
theorem Run.created_once (h : (start {}).Run signer history s) :
    (∀ newer e older, history = newer ++ e :: older →
      ((∀ i o d x, e.move ≠ .answer i o (.account (.create d)) x) →
        e.after.accounts = e.before.accounts) ∧
      (∀ i o d x, e.move = .answer i o (.account (.create d)) x →
        (∃ salt, o.draft? salt = some d) ∧
        ((¬ Tried older d.username ∧ x = .ok e.before.accounts.nextId ∧ e.after.accounts =
            ⟨e.before.accounts.rows ++ [.ofDraft e.before.accounts.nextId d],
              e.before.accounts.nextId + 1⟩) ∨
          (Tried older d.username ∧ x = .error (.userExists d.username) ∧
            e.after.accounts = e.before.accounts))) ∧
      e.after.accounts.rows <+: s.accounts.rows) ∧
    (∀ username, Tried history username → ∃! i, Creates history i username) ∧
    (∀ a, a ∈ s.accounts.rows ↔ ∃ e ∈ history, ∃ i o d id,
      e.move = .answer i o (.account (.create d)) (.ok id) ∧ a = .ofDraft id d) ∧
    s.accounts.Numbered ∧
    (∀ i r result, s.tasks i = some ⟨.register r, .done result⟩ →
      (Creates history i r.username ∧
        ∃ t : Clock.Timestamp, result = .ok (signer.issue t.seconds r.username r.role)) ∨
      ((transcript history i).created ≠ [] ∧ ¬ Creates history i r.username ∧
        result = .error (.userExists r.username)) ∨
      ((transcript history i).created = [] ∧ ∃ e, result = .error e)) ∧
    (∀ i username password result, s.tasks i = some ⟨.ensureAdmin username password, .done result⟩ →
      (Creates history i username ∧ result = .ok true) ∨
      (¬ Creates history i username ∧ result = .ok false)) ∧
    (∀ i username password result, s.tasks i = some ⟨.login username password, .done result⟩ →
      ∃ e ∈ history, (∃ o x, e.move = .answer i o (.account (.find username)) x) ∧
        e.before.accounts.LogsIn signer username password result) ∧
    ∀ username password outcome,
      outcome ∈ (Service.login signer username password).outcomes Accounts.answers s.accounts ↔
        outcome.2 = s.accounts ∧ s.accounts.LogsIn signer username password outcome.1 := by
  refine ⟨?_, fun _ => h.existsUnique_creates, fun _ => h.mem_rows_iff, h.numbered,
    fun _ _ _ => h.register_result, fun _ _ _ _ => h.ensureAdmin_result,
    fun _ _ _ _ => h.login_result, h.mem_outcomes_login⟩
  rintro newer e older rfl
  obtain ⟨hrun, step, hlater⟩ := h.at_passage
  refine ⟨step.accounts_eq, fun i o d x hm => ?_, Run.rows_prefix hlater⟩
  rw [hm] at step
  exact ⟨Run.draft hrun step, Run.create hrun step⟩

theorem Run.created_once_race :
    let signer : Signer := ⟨[], 60⟩
    ∃ history s, (start {}).Run signer history s ∧
      s.tasks 0 = some ⟨.ensureAdmin "root" "first", .done (.ok true)⟩ ∧
      s.tasks 1 = some ⟨.ensureAdmin "root" "second", .done (.ok false)⟩ ∧
      (∃! i, Creates history i "root") ∧ Creates history 0 "root" ∧
      (.ok (signer.issue 0 "root" .admin), s.accounts) ∈
        (Service.login signer "root" "first").outcomes Accounts.answers s.accounts := by
  intro signer
  let first : AccountOperation := .ensureAdmin "root" "first"
  let second : AccountOperation := .ensureAdmin "root" "second"
  let salt : Vector UInt8 16 := Vector.replicate 16 0
  have begin : (start {}).Step signer (.launch first) _ := rfl
  have run := Trace.nil.cons begin
  have run := run.cons (m := AccountMove.launch second) rfl
  have run := run.cons (m := AccountMove.answer 0 first (.account (.find "root")) (.ok none))
    ⟨_, _, rfl, ⟨rfl, rfl⟩, rfl⟩
  have run := run.cons (m := AccountMove.answer 1 second (.account (.find "root")) (.ok none))
    ⟨_, _, rfl, ⟨rfl, rfl⟩, rfl⟩
  have run := run.cons (m := AccountMove.answer 1 second .salt salt) ⟨_, _, rfl, rfl, rfl⟩
  have run := run.cons (m := AccountMove.answer 0 first .salt salt) ⟨_, _, rfl, rfl, rfl⟩
  have run := run.cons (m := AccountMove.answer 0 first (.account (.create _)) (.ok 1))
    ⟨_, _, rfl, ⟨rfl, rfl⟩, rfl⟩
  have run := run.cons
    (m := AccountMove.answer 1 second (.account (.create _)) (.error (.userExists "root")))
    ⟨_, _, rfl, ⟨rfl, rfl⟩, rfl⟩
  have hverify : Password.verify "first" (Password.hash "first" salt.toList) = some true :=
    Password.verify_hash_self (by decide) (by decide) (by decide +kernel)
  obtain ⟨-, hone, -, -, -, hadmin, -, hlogin⟩ := Run.created_once run
  refine ⟨_, _, run, rfl, rfl, hone "root" ⟨_, .head _, 1, second, _, _, rfl, rfl⟩, ?_,
    (hlogin "root" "first" _).mpr ⟨rfl, .inl ⟨_, .head _, rfl, hverify, ⟨0, 0⟩, rfl⟩⟩⟩
  rcases hadmin 0 "root" "first" _ rfl with ⟨hcreates, -⟩ | ⟨-, hresult⟩
  · exact hcreates
  · cases hresult

end AccountSystem

end Billboard
