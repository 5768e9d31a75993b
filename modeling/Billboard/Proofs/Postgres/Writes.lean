import Billboard.Proofs.Postgres.Changes

/-! Writes to a database whose requests may all fail: what they leave, and what they report. -/

namespace Billboard.Postgres

open Banner (Draft)
open Clock (Timestamp)

abbrev Tables := String → Multiset Row

namespace Tables

def Changed (before : Tables) (table : String) (c : Change) (ps : List Value) (result : c.Result)
    (after : Tables) : Prop :=
  ∃ rows, c.Makes ps (before table) result rows ∧ after = Function.update before table rows

/-- What a statement does that is carried out. What statements do that write no banners and no
accounts is left open. -/
def Executes (before : Tables) : (s : Statement) → s.Result → Tables → Prop
  | .insertBanner d createdAt updatedAt, result, after =>
    before.Changed "banners" bannerInsertion (Statement.insertBanner d createdAt updatedAt).params
      result after
  | .updateBanner id d updatedAt, result, after =>
    before.Changed "banners" bannerUpdate (Statement.updateBanner id d updatedAt).params
      result after
  | .deleteBanner id, result, after =>
    before.Changed "banners" bannerDeletion (Statement.deleteBanner id).params result after
  | .insertAccount d, result, after =>
    before.Changed "users" accountInsertion (Statement.insertAccount d).params result after
  | _, _, _ => True

end Tables

inductive Transaction where
  | idle
  | running (during : Tables)
  | aborted

structure Server where
  tables : Tables
  transaction : Transaction

abbrev Conversation : Type := List ((r : Request) × r.Answer)

namespace Server

/-- A request that fails may leave the connection anywhere, but only `COMMIT` writes what a
transaction did to the tables, be it that the commit is reported as a failure. -/
def Reacts (s : Server) : (r : Request) → r.Answer → Server → Prop
  | .connect, _, t => t = ⟨s.tables, .idle⟩
  | .start, .ok (), t =>
    match s.transaction with
    | .idle => t = ⟨s.tables, .running s.tables⟩
    | _ => t = s
  | .start, .error _, t => t.tables = s.tables
  | .run st, .ok result, t =>
    match s.transaction with
    | .idle => ∃ after, s.tables.Executes st result after ∧ t = ⟨after, .idle⟩
    | .running during => ∃ after, during.Executes st result after ∧ t = ⟨s.tables, .running after⟩
    | .aborted => False
  | .run _, .error _, t => t.tables = s.tables
  | .commit, .ok (), t =>
    match s.transaction with
    | .running during => t = ⟨during, .idle⟩
    | _ => t = ⟨s.tables, .idle⟩
  | .commit, .error _, t => t.tables = s.tables ∨ s.transaction = .running t.tables
  | .rollback, .ok (), t => t = ⟨s.tables, .idle⟩
  | .rollback, .error _, t => t.tables = s.tables

def Converses : Server → Conversation → Server → Prop
  | s, [], u => u = s
  | s, ⟨r, a⟩ :: said, u => ∃ t, s.Reacts r a t ∧ t.Converses said u

end Server

section

variable {ε α : Type} {kind : FailureKind ε} {purpose : String}
variable {said : Conversation}

inductive Closes (kind : FailureKind ε) (purpose : String) :
    Except ε α → ((r : Request) × r.Answer) → Except ε α → Prop
  | committed (a : α) : Closes kind purpose (.ok a) ⟨.commit, .ok ()⟩ (.ok a)
  | uncommitted (a : α) (e : ClientError) : Closes kind purpose (.ok a) ⟨.commit, .error e⟩
      (.error (kind.ofFailure (.transaction (purpose ++ " commit error: " ++ e.message))))
  | rolledBack (cause : ε) : Closes kind purpose (.error cause) ⟨.rollback, .ok ()⟩ (.error cause)
  | stuck (cause : ε) (e : ClientError) : Closes kind purpose (.error cause) ⟨.rollback, .error e⟩
      (.error (kind.ofFailure (.transaction (purpose ++ " error: " ++ kind.message cause
        ++ "; rollback error: " ++ e.message))))

lemma leads_transaction {body : Session (Except ε α)} {result : Except ε α}
    (h : (transaction kind purpose body).Leads said (.done result)) :
    (∃ e, said = [⟨.start, .error e⟩] ∧ ∃ reason, result = .error reason) ∨
      ∃ inner outcome ending, said = ⟨.start, .ok ()⟩ :: (inner ++ [ending]) ∧
        body.Leads inner (.done outcome) ∧ Closes kind purpose outcome ending result := by
  obtain ⟨a, later, rfl, hbegun⟩ := Dialogue.leads_ask.mp h
  cases a with
  | error e =>
    obtain ⟨rfl, rfl⟩ := Dialogue.leads_done.mp hbegun
    exact .inl ⟨e, rfl, _, rfl⟩
  | ok u =>
    obtain ⟨inner, last, outcome, rfl, hbody, hend⟩ := Dialogue.leads_bind (d := body) hbegun
    cases outcome with
    | ok a =>
      obtain ⟨answer, later, rfl, hdone⟩ := Dialogue.leads_ask.mp hend
      cases answer with
      | ok u =>
        obtain ⟨rfl, rfl⟩ := Dialogue.leads_done.mp hdone
        exact .inr ⟨inner, _, _, rfl, hbody, .committed a⟩
      | error e =>
        obtain ⟨rfl, rfl⟩ := Dialogue.leads_done.mp hdone
        exact .inr ⟨inner, _, _, rfl, hbody, .uncommitted a e⟩
    | error cause =>
      obtain ⟨answer, later, rfl, hdone⟩ := Dialogue.leads_ask.mp hend
      cases answer with
      | ok u =>
        obtain ⟨rfl, rfl⟩ := Dialogue.leads_done.mp hdone
        exact .inr ⟨inner, _, _, rfl, hbody, .rolledBack cause⟩
      | error e =>
        obtain ⟨rfl, rfl⟩ := Dialogue.leads_done.mp hdone
        exact .inr ⟨inner, _, _, rfl, hbody, .stuck cause e⟩

end

inductive Write where
  | create (d : Draft) (createdAt updatedAt : Timestamp)
  | update (id : Int) (d : Draft) (updatedAt : Timestamp)
  | delete (id : Int)
  | register (d : Account.Draft)

namespace Write

abbrev Error : Write → Type
  | .create .. => StoreError
  | .update .. => StoreError
  | .delete _ => StoreError
  | .register _ => AuthError

abbrev Value : Write → Type
  | .create .. => Int
  | .update .. => Unit
  | .delete _ => Unit
  | .register _ => Int

def kind : (w : Write) → FailureKind w.Error
  | .create .. => .store
  | .update .. => .store
  | .delete _ => .store
  | .register _ => .account

def purpose : Write → String
  | .create .. => "create"
  | .update .. => "update"
  | .delete _ => "delete"
  | .register _ => "create user"

def statement : Write → Statement
  | .create d createdAt updatedAt => .insertBanner d createdAt updatedAt
  | .update id d updatedAt => .updateBanner id d updatedAt
  | .delete id => .deleteBanner id
  | .register d => .insertAccount d

def body : (w : Write) → Session (Except w.Error w.Value)
  | .create d createdAt updatedAt => insertBanner d createdAt updatedAt
  | .update id d updatedAt => updateBanner id d updatedAt
  | .delete id => deleteBanner id
  | .register d => insertAccount d

def session : (w : Write) → Session (Except w.Error w.Value)
  | .create d createdAt updatedAt => storeCall (.create d createdAt updatedAt)
  | .update id d updatedAt => storeCall (.update id d updatedAt)
  | .delete id => storeCall (.delete id)
  | .register d => accountCall (.create d)

lemma session_eq (w : Write) : w.session = transaction w.kind w.purpose w.body := by
  cases w <;> rfl

def Means (w : Write) : Prop :=
  match w with
  | .create .. => w.statement.sql = bannerInsertion.text "banners"
  | .update .. => w.statement.sql = bannerUpdate.text "banners"
  | .delete _ => w.statement.sql = bannerDeletion.text "banners"
  | .register _ => w.statement.sql = accountInsertion.text "users"

def Asked (before : Tables) : (w : Write) → w.Value → Tables → Prop
  | .create d createdAt updatedAt, id, after =>
    (∀ row ∈ before "banners", row "id" ≠ .int id) ∧
      after = Function.update before "banners" (bannerRow (.ofDraft id d
        (Statement.columnTime createdAt) (Statement.columnTime updatedAt)) ::ₘ before "banners")
  | .update id d updatedAt, (), after =>
    (∃ row ∈ before "banners", row "id" = .int id) ∧
      after = Function.update before "banners" ((before "banners").map fun row =>
        if row "id" = .int id then row.revise d (Statement.columnTime updatedAt) else row)
  | .delete id, (), after =>
    (∃ row ∈ before "banners", row "id" = .int id) ∧
      after = Function.update before "banners"
        ((before "banners").filter fun row => row "id" ≠ .int id)
  | .register d, id, after =>
    (∀ row ∈ before "users", row "id" ≠ .int id) ∧
      after = Function.update before "users" (accountRow (.ofDraft id d) ::ₘ before "users")

def Misses (tables : Tables) : Write → Prop
  | .create .. => False
  | .update id _ _ => ¬∃ row ∈ tables "banners", row "id" = .int id
  | .delete id => ¬∃ row ∈ tables "banners", row "id" = .int id
  | .register _ => False

def saysNotFound : (w : Write) → w.Error → Bool
  | .create .., e => e.isNotFound
  | .update .., e => e.isNotFound
  | .delete _, e => e.isNotFound
  | .register _, _ => false

def saysUserExists : (w : Write) → w.Error → Bool
  | .register _, .userExists _ => true
  | .register _, _ => false
  | .create .., _ => false
  | .update .., _ => false
  | .delete _, _ => false

def verdict : (w : Write) → Except ClientError w.statement.Result → Except w.Error w.Value
  | .create .., .error e => .error (Failure.connection e).toStore
  | .create .., .ok none => .error (Failure.connection .rowNotFound).toStore
  | .create .., .ok (some id) => .ok id
  | .update .., .error e => .error (Failure.connection e).toStore
  | .update id _ _, .ok (changed : Nat) => if changed = 0 then .error (.noBanner id) else .ok ()
  | .delete _, .error e => .error (Failure.connection e).toStore
  | .delete id, .ok (changed : Nat) => if changed = 0 then .error (.noBanner id) else .ok ()
  | .register d, .error e =>
    .error (if e.isUniqueViolation then .userExists d.username else (Failure.connection e).toAuth)
  | .register _, .ok none => .error (Failure.connection .rowNotFound).toAuth
  | .register _, .ok (some id) => .ok id

lemma body_eq (w : Write) : w.body = Session.run w.statement >>= fun a => pure (w.verdict a) := by
  cases w with
  | create d createdAt updatedAt =>
    refine congrArg (Dialogue.ask _) (funext fun a => ?_)
    rcases a with e | _ | id <;> rfl
  | update id d updatedAt =>
    refine congrArg (Dialogue.ask _) (funext fun a => ?_)
    cases a <;> rfl
  | delete id =>
    refine congrArg (Dialogue.ask _) (funext fun a => ?_)
    cases a <;> rfl
  | register d =>
    refine congrArg (Dialogue.ask _) (funext fun a => ?_)
    rcases a with e | _ | id <;> rfl

lemma leads_body {w : Write} {said : Conversation}
    {outcome : Except w.Error w.Value} :
    w.body.Leads said (.done outcome) ↔
      ∃ a, said = [⟨.run w.statement, a⟩] ∧ outcome = w.verdict a := by
  rw [body_eq]
  constructor
  · intro h
    obtain ⟨a, later, rfl, hdone⟩ := Dialogue.leads_ask.mp h
    obtain ⟨rfl, rfl⟩ := Dialogue.leads_done.mp hdone
    exact ⟨a, rfl, rfl⟩
  · rintro ⟨a, rfl, rfl⟩
    exact .cons (.nil _)

def Executed (w : Write) (said : Conversation) : Prop :=
  ∃ result, ⟨.run w.statement, .ok result⟩ ∈ said

def Clashed (said : Conversation) : Write → Prop
  | .register d => ∃ message, ⟨.run (.insertAccount d), .error (.database "23505" message)⟩ ∈ said
  | .create .. => False
  | .update .. => False
  | .delete _ => False

def Failed (w : Write) (said : Conversation) (cause : w.Error) : Prop :=
  ∃ a, ⟨.run w.statement, a⟩ ∈ said ∧
    w.body.Leads [⟨.run w.statement, a⟩] (.done (.error cause))

def Mentions (text part : String) : Prop := ∃ before after, text = before ++ part ++ after

/-- A write to the tables that was answered so and left the server so has reported truly. -/
structure Report (w : Write) (tables : Tables) (said : Conversation) (server : Server)
    (result : Except w.Error w.Value) : Prop where
  begins : ∃ a later, said = ⟨.start, a⟩ :: later
  succeeds : ⟨.start, .ok ()⟩ ∈ said → w.Executed said → ¬w.Misses tables →
    (∀ e, ⟨.commit, .error e⟩ ∉ said) → ∃ v, result = .ok v
  ok : ∀ v, result = .ok v → ⟨.commit, .ok ()⟩ ∈ said ∧ w.Asked tables v server.tables
  commit : ⟨.start, .ok ()⟩ ∈ said →
    ((∃ a, ⟨.commit, a⟩ ∈ said) ↔ w.Executed said ∧ ¬w.Misses tables)
  rollback : ⟨.start, .ok ()⟩ ∈ said →
    ((∃ a, ⟨.rollback, a⟩ ∈ said) ↔ ¬(w.Executed said ∧ ¬w.Misses tables))
  unchanged : ∀ e, result = .error e → (∀ e, ⟨.commit, .error e⟩ ∉ said) → server.tables = tables
  rolledBack : ⟨.rollback, .ok ()⟩ ∈ said → ∃ cause, w.Failed said cause ∧ result = .error cause
  stuck : ∀ e, ⟨.rollback, .error e⟩ ∈ said → ∃ cause reason, w.Failed said cause ∧
    result = .error (w.kind.ofFailure (.transaction reason)) ∧
    Mentions reason (w.kind.message cause) ∧ Mentions reason e.message
  notFound : ∀ cause, w.Failed said cause →
    (w.saysNotFound cause = true ↔ w.Executed said ∧ w.Misses tables)
  userExists : ∀ cause, w.Failed said cause → (w.saysUserExists cause = true ↔ w.Clashed said)

section

variable {w : Write} {a : Except ClientError w.statement.Result} {tables after : Tables}

lemma verdict_executed {result : w.statement.Result}
    (h : tables.Executes w.statement result after) :
    (∃ v, w.verdict (.ok result) = .ok v ∧ w.Asked tables v after ∧ ¬w.Misses tables) ∨
      ∃ cause, w.verdict (.ok result) = .error cause ∧ w.saysNotFound cause = true ∧
        w.saysUserExists cause = false ∧ w.Misses tables := by
  cases w with
  | create d createdAt updatedAt =>
    obtain ⟨rows, hmakes, rfl⟩ := h
    obtain ⟨id, rfl, hfresh, rfl⟩ := makes_bannerInsertion hmakes
    exact .inl ⟨id, rfl, ⟨hfresh, rfl⟩, not_false⟩
  | update id d updatedAt =>
    obtain ⟨rows, hmakes, rfl⟩ := h
    obtain ⟨hpos, rfl⟩ := makes_bannerUpdate hmakes
    rcases Nat.eq_zero_or_pos result with hr | hr
    · exact .inr ⟨.noBanner id, if_pos hr, rfl, rfl, fun hrow => (hpos.mpr hrow).ne' hr⟩
    · exact .inl ⟨(), if_neg hr.ne', ⟨hpos.mp hr, rfl⟩, not_not_intro (hpos.mp hr)⟩
  | delete id =>
    obtain ⟨rows, hmakes, rfl⟩ := h
    obtain ⟨hpos, rfl⟩ := makes_bannerDeletion hmakes
    rcases Nat.eq_zero_or_pos result with hr | hr
    · exact .inr ⟨.noBanner id, if_pos hr, rfl, rfl, fun hrow => (hpos.mpr hrow).ne' hr⟩
    · exact .inl ⟨(), if_neg hr.ne', ⟨hpos.mp hr, rfl⟩, not_not_intro (hpos.mp hr)⟩
  | register d =>
    obtain ⟨rows, hmakes, rfl⟩ := h
    obtain ⟨id, rfl, hfresh, rfl⟩ := makes_accountInsertion hmakes
    exact .inl ⟨id, rfl, ⟨hfresh, rfl⟩, not_false⟩

lemma isUniqueViolation_iff {e : ClientError} :
    e.isUniqueViolation = true ↔ ∃ message, e = .database "23505" message := by
  cases e with
  | database code message =>
    rw [ClientError.isUniqueViolation, beq_iff_eq]
    constructor
    · rintro rfl
      exact ⟨message, rfl⟩
    · rintro ⟨_, h⟩
      cases h
      rfl
  | _ => exact ⟨nofun, nofun⟩

lemma verdict_refused (w : Write) (e : ClientError) :
    ∃ cause, w.verdict (.error e) = .error cause ∧ w.saysNotFound cause = false ∧
      (w.saysUserExists cause = true ↔ w.Clashed [⟨.run w.statement, .error e⟩]) := by
  cases w with
  | create d createdAt updatedAt => exact ⟨_, rfl, rfl, nofun, nofun⟩
  | update id d updatedAt => exact ⟨_, rfl, rfl, nofun, nofun⟩
  | delete id => exact ⟨_, rfl, rfl, nofun, nofun⟩
  | register d =>
    have hclashed : Clashed [⟨.run (register d).statement, .error e⟩] (register d) ↔
        e.isUniqueViolation = true := by
      rw [isUniqueViolation_iff]
      simp [Clashed, statement, eq_comm]
    rw [hclashed]
    refine ⟨_, rfl, rfl, ?_⟩
    cases e.isUniqueViolation <;> simp [saysUserExists, Failure.toAuth]

section

variable {said : Conversation} (hrun : ∀ b, ⟨.run w.statement, b⟩ ∈ said ↔ b = a)
include hrun

lemma failed_iff {cause : w.Error} : w.Failed said cause ↔ w.verdict a = .error cause := by
  constructor
  · rintro ⟨b, hb, hbody⟩
    obtain ⟨_, hsaid, hcause⟩ := leads_body.mp hbody
    cases hsaid
    rw [← (hrun b).mp hb]
    exact hcause.symm
  · intro h
    exact ⟨a, (hrun a).mpr rfl, leads_body.mpr ⟨a, rfl, h.symm⟩⟩

lemma executed_iff : w.Executed said ↔ ∃ result, a = .ok result := by
  simp only [Executed, hrun, eq_comm]

lemma clashed_iff : w.Clashed said ↔ w.Clashed [⟨.run w.statement, a⟩] := by
  cases w with
  | register d =>
    refine exists_congr fun message => ?_
    rw [List.mem_singleton]
    refine (hrun _).trans ⟨fun h => ?_, fun h => ?_⟩
    · rw [← h]
      rfl
    · cases h
      rfl
  | _ => exact Iff.rfl

lemma eq_of_failed {cause other : w.Error} (hverdict : w.verdict a = .error cause)
    (h : w.Failed said other) : other = cause := by
  rw [failed_iff hrun, hverdict] at h
  cases h
  rfl

lemma notFound_of_failed {cause : w.Error} (hverdict : w.verdict a = .error cause)
    (hcause : w.saysNotFound cause = true ↔ (∃ result, a = .ok result) ∧ w.Misses tables) :
    ∀ other, w.Failed said other →
      (w.saysNotFound other = true ↔ w.Executed said ∧ w.Misses tables) := by
  intro other h
  rw [eq_of_failed hrun hverdict h, executed_iff hrun]
  exact hcause

lemma userExists_of_failed {cause : w.Error} (hverdict : w.verdict a = .error cause)
    (hcause : w.saysUserExists cause = true ↔ w.Clashed [⟨.run w.statement, a⟩]) :
    ∀ other, w.Failed said other → (w.saysUserExists other = true ↔ w.Clashed said) := by
  intro other h
  rw [eq_of_failed hrun hverdict h, clashed_iff hrun]
  exact hcause

end

variable {result : Except w.Error w.Value} {server : Server} {ending : (r : Request) × r.Answer}

lemma report_of_asked {done : w.statement.Result} {v : w.Value}
    (hverdict : w.verdict (.ok done) = .ok v) (hasked : w.Asked tables v after)
    (hmatch : ¬w.Misses tables) (hcloses : Closes w.kind w.purpose (.ok v) ending result)
    (hend : (Server.mk tables (.running after)).Reacts ending.1 ending.2 server) :
    w.Report tables [⟨.start, .ok ()⟩, ⟨.run w.statement, .ok done⟩, ending] server result := by
  have hrun : ∀ b, ⟨.run w.statement, b⟩ ∈ ([⟨.start, .ok ()⟩, ⟨.run w.statement, .ok done⟩,
      ending] : Conversation) ↔ b = .ok done := by
    cases hcloses <;> simp
  have hexecuted := (executed_iff hrun).mpr ⟨done, rfl⟩
  have hfailed : ∀ cause, ¬w.Failed _ cause := fun cause h => by
    rw [failed_iff hrun, hverdict] at h
    cases h
  cases hcloses with
  | committed =>
    cases hend
    exact {
      begins := ⟨_, _, rfl⟩
      succeeds := fun _ _ _ _ => ⟨v, rfl⟩
      ok := by
        intro _ h
        cases h
        exact ⟨by simp, hasked⟩
      commit := fun _ => ⟨fun _ => ⟨hexecuted, hmatch⟩, fun _ => ⟨.ok (), by simp⟩⟩
      rollback := fun _ => ⟨by simp, fun h => (h ⟨hexecuted, hmatch⟩).elim⟩
      unchanged := nofun
      rolledBack := by simp
      stuck := by simp
      notFound := fun cause h => (hfailed cause h).elim
      userExists := fun cause h => (hfailed cause h).elim }
  | uncommitted v e =>
    exact {
      begins := ⟨_, _, rfl⟩
      succeeds := fun _ _ _ h => (h e (by simp)).elim
      ok := nofun
      commit := fun _ => ⟨fun _ => ⟨hexecuted, hmatch⟩, fun _ => ⟨.error e, by simp⟩⟩
      rollback := fun _ => ⟨by simp, fun h => (h ⟨hexecuted, hmatch⟩).elim⟩
      unchanged := fun _ _ h => (h e (by simp)).elim
      rolledBack := by simp
      stuck := by simp
      notFound := fun cause h => (hfailed cause h).elim
      userExists := fun cause h => (hfailed cause h).elim }

lemma report_of_failed {cause : w.Error} {during : Server} (hverdict : w.verdict a = .error cause)
    (hnotFound : w.saysNotFound cause = true ↔ (∃ result, a = .ok result) ∧ w.Misses tables)
    (huserExists : w.saysUserExists cause = true ↔ w.Clashed [⟨.run w.statement, a⟩])
    (hfail : ¬((∃ result, a = .ok result) ∧ ¬w.Misses tables))
    (hcloses : Closes w.kind w.purpose (.error cause) ending result)
    (hduring : during.tables = tables) (hend : during.Reacts ending.1 ending.2 server) :
    w.Report tables [⟨.start, .ok ()⟩, ⟨.run w.statement, a⟩, ending] server result := by
  have hrun : ∀ b, ⟨.run w.statement, b⟩ ∈ ([⟨.start, .ok ()⟩, ⟨.run w.statement, a⟩,
      ending] : Conversation) ↔ b = a := by
    cases hcloses <;> simp
  have hcause := (failed_iff hrun).mpr hverdict
  have hmissed := notFound_of_failed hrun hverdict hnotFound
  have htaken := userExists_of_failed hrun hverdict huserExists
  rw [← executed_iff hrun] at hfail
  cases hcloses with
  | rolledBack =>
    cases hend
    exact {
      begins := ⟨_, _, rfl⟩
      succeeds := fun _ hdone hmatch _ => (hfail ⟨hdone, hmatch⟩).elim
      ok := nofun
      commit := fun _ => ⟨by simp, fun h => (hfail h).elim⟩
      rollback := fun _ => ⟨fun _ => hfail, fun _ => ⟨.ok (), by simp⟩⟩
      unchanged := fun _ _ _ => hduring
      rolledBack := fun _ => ⟨cause, hcause, rfl⟩
      stuck := by simp
      notFound := hmissed
      userExists := htaken }
  | stuck cause e =>
    exact {
      begins := ⟨_, _, rfl⟩
      succeeds := fun _ hdone hmatch _ => (hfail ⟨hdone, hmatch⟩).elim
      ok := nofun
      commit := fun _ => ⟨by simp, fun h => (hfail h).elim⟩
      rollback := fun _ => ⟨fun _ => hfail, fun _ => ⟨.error e, by simp⟩⟩
      unchanged := fun _ _ _ => Eq.trans hend hduring
      rolledBack := by simp
      stuck := by
        intro e' h
        have he : e' = e := by simpa using h
        rw [he]
        refine ⟨cause, _, hcause, rfl, ⟨w.purpose ++ " error: ",
          "; rollback error: " ++ e.message, ?_⟩, ⟨w.purpose ++ " error: " ++ w.kind.message cause
          ++ "; rollback error: ", "", ?_⟩⟩
        · rw [String.append_assoc]
        · rw [String.append_empty]
      notFound := hmissed
      userExists := htaken }

lemma report_of_unbegun {e : ClientError} {reason : w.Error} (hserver : server.tables = tables) :
    w.Report tables [⟨.start, .error e⟩] server (.error reason) where
  begins := ⟨_, _, rfl⟩
  succeeds := by simp
  ok := nofun
  commit := by simp
  rollback := by simp
  unchanged := fun _ _ _ => hserver
  rolledBack := by simp
  stuck := by simp
  notFound := by simp [Failed]
  userExists := by simp [Failed]

end

lemma means (w : Write) : w.Means := by
  cases w with
  | create d createdAt updatedAt => exact sql_insertBanner d createdAt updatedAt
  | update id d updatedAt => exact sql_updateBanner id d updatedAt
  | delete id => exact sql_deleteBanner id
  | register d => exact sql_insertAccount d

def inMemory : (w : Write) → w.Value → Catalog → Catalog
  | .create d createdAt updatedAt, id, c => (Catalog.create { c with nextId := id } d
      (Statement.columnTime createdAt) (Statement.columnTime updatedAt)).2
  | .update id d updatedAt, (), c => (c.update id d (Statement.columnTime updatedAt)).2
  | .delete id, (), c => (c.delete id).2
  | .register _, _, c => c

theorem asked_inMemory {w : Write} {v : w.Value} {before after : Tables} {c : Catalog}
    (h : w.Asked before v after) (hbefore : before "banners" = catalogTable c) :
    after "banners" = catalogTable (w.inMemory v c) := by
  cases w with
  | create d createdAt updatedAt =>
    obtain ⟨-, rfl⟩ := h
    rw [Function.update_self, hbefore]
    exact (catalogTable_create { c with nextId := v } d _ _).symm
  | update id d updatedAt =>
    obtain ⟨-, rfl⟩ := h
    rw [Function.update_self, hbefore]
    exact (catalogTable_update c id d _).symm
  | delete id =>
    obtain ⟨-, rfl⟩ := h
    rw [Function.update_self, hbefore]
    exact (catalogTable_delete c id).symm
  | register d =>
    obtain ⟨-, rfl⟩ := h
    rw [Function.update_of_ne (by decide), hbefore]
    rfl

/-- A write to a database that may fail wherever it likes reports truly what it has done. -/
theorem write_reports (w : Write) (tables : Tables) {said : Conversation} {server : Server}
    {result : Except w.Error w.Value} (hsaid : w.session.Leads said (.done result))
    (hserver : (Server.mk tables .idle).Converses said server) :
    w.Means ∧ w.Report tables said server result := by
  refine ⟨w.means, ?_⟩
  rw [session_eq] at hsaid
  rcases leads_transaction hsaid with ⟨e, rfl, reason, rfl⟩ |
    ⟨inner, outcome, ending, rfl, hbody, hcloses⟩
  · obtain ⟨_, hbegin, rfl⟩ := hserver
    exact report_of_unbegun hbegin
  · obtain ⟨a, rfl, rfl⟩ := leads_body.mp hbody
    obtain ⟨_, rfl, during, hrun, _, hend, rfl⟩ := hserver
    cases a with
    | ok done =>
      obtain ⟨after, hexecutes, rfl⟩ := hrun
      have hdone : ∃ result, (Except.ok done : Except ClientError _) = .ok result := ⟨done, rfl⟩
      rcases verdict_executed hexecutes with ⟨v, hverdict, hasked, hmatch⟩ |
        ⟨cause, hverdict, hnotFound, huserExists, hmiss⟩
      · rw [hverdict] at hcloses
        exact report_of_asked hverdict hasked hmatch hcloses hend
      -- no row matched; what is committed is as before, whatever the transaction sees
      · rw [hverdict] at hcloses
        have hclashed : ¬w.Clashed [⟨.run w.statement, .ok done⟩] := by
          cases w <;> simp [Clashed, statement]
        exact report_of_failed hverdict (iff_of_true hnotFound ⟨hdone, hmiss⟩)
          (iff_of_false (Bool.eq_false_iff.mp huserExists) hclashed) (fun h => h.2 hmiss) hcloses
          rfl hend
    | error e =>
      have hrefused : ¬∃ result, (Except.error e : Except ClientError w.statement.Result) =
        .ok result := nofun
      obtain ⟨cause, hverdict, hnotFound, huserExists⟩ := verdict_refused w e
      rw [hverdict] at hcloses
      exact report_of_failed hverdict
        (iff_of_false (Bool.eq_false_iff.mp hnotFound) fun h => hrefused h.1) huserExists
        (fun h => hrefused h.1) hcloses hrun hend

theorem write_reports_stuck :
    let tables : Tables := fun _ => 0
    let said : Conversation := [⟨.start, .ok ()⟩, ⟨.run (.deleteBanner 7), .ok (0 : Nat)⟩,
      ⟨.rollback, .error .workerCrashed⟩]
    let server : Server := ⟨tables, .aborted⟩
    let result : Except StoreError Unit := .error (.transaction
      ("delete error: banner not found: 7; "
        ++ "rollback error: attempted to communicate with a crashed background worker"))
    (delete 7).session.Leads said (.done result) ∧ (Server.mk tables .idle).Converses said server ∧
      (delete 7).Means ∧ (delete 7).Report tables said server result := by
  intro tables said server result
  have hseven : Text.intText 7 = "7" := natText_small (by decide)
  have hresult : result = .error (.transaction ("delete error: " ++ ("banner not found: "
      ++ Text.intText 7) ++ "; rollback error: " ++ ClientError.workerCrashed.message)) := by
    rw [hseven]
    rfl
  have hsaid : (delete 7).session.Leads said (.done result) := by
    rw [hresult]
    exact .cons (.cons (.cons (.nil _)))
  have hserver : (Server.mk tables .idle).Converses said server := by
    refine ⟨_, rfl, _, ⟨tables, ⟨0, ⟨rfl, rfl⟩, ?_⟩, rfl⟩, server, rfl, rfl⟩
    exact (Function.update_eq_self "banners" tables).symm
  exact ⟨hsaid, hserver, write_reports (delete 7) tables hsaid hserver⟩

end Write

end Billboard.Postgres
