import Billboard.Proofs.Accounts.Interleaving
import Billboard.Proofs.Token.Issued

/-! The role of an admin is handed on only by admins. -/

namespace Billboard

open Clock (Timestamp)

def Account.Bears (signer : Signer) (a : Account) (token : String) : Prop :=
  ∃ issued, token = signer.issue issued a.username a.role

namespace AccountOperation

open AccountSystem (Learns)

variable {signer : Signer} {o : AccountOperation} {told told' : Set Timestamp} {rows : List Account}

/-- The operation was told a time at which its token shows an admin. -/
def Entitled (signer : Signer) (o : AccountOperation) (told : Set Timestamp) : Prop :=
  ∃ token t c, o.token? = some token ∧ t ∈ told ∧ signer.verify t.seconds token = .ok c ∧
    c.role = .admin

lemma Entitled.mono (h : o.Entitled signer told) (hle : told ⊆ told') : o.Entitled signer told' := by
  obtain ⟨token, t, c, htoken, ht, hc⟩ := h
  exact ⟨token, t, c, htoken, hle ht, hc⟩

def MayAsk (signer : Signer) (o : AccountOperation) (q : Effect) (told : Set Timestamp) : Prop :=
  ∀ d, q = .account (.create d) → d.role = .admin →
    (∃ password, o = .ensureAdmin d.username password) ∨
      ((∃ r, o = .register r) ∧ o.Entitled signer told)

lemma MayAsk.mono {q : Effect} (hle : told ⊆ told') (h : o.MayAsk signer q told) :
    o.MayAsk signer q told' :=
  fun d hq hd => (h d hq hd).imp_right fun ⟨hr, he⟩ => ⟨hr, he.mono hle⟩

lemma mayAsk_of_ne {q : Effect} (hq : ∀ d, q ≠ .account (.create d)) : o.MayAsk signer q told :=
  fun d h _ => (hq d h).elim

lemma keeps_enroll {r : Service.AccountRequest}
    (h : r.role = .admin → (register r).Entitled signer told) :
    (Service.enroll signer r).Keeps ((register r).MayAsk signer) Learns told := by
  refine ⟨mayAsk_of_ne nofun, fun salt k hk => ⟨fun d hq hd => ?_, fun a k' hk' => ?_⟩⟩
  · cases hq
    exact .inr ⟨⟨r, rfl⟩, hk ▸ h hd⟩
  · cases a with
    | error e => trivial
    | ok id => exact ⟨mayAsk_of_ne nofun, fun _ _ _ => trivial⟩

lemma keeps_action (o : AccountOperation) :
    (o.action signer).Keeps (o.MayAsk signer) Learns ∅ := by
  cases o with
  | register r =>
    rw [action]
    rcases Service.register_cases signer r with ⟨e, he⟩ | ⟨hrole, he⟩ | ⟨token, htoken, he⟩ <;>
      rw [he]
    · trivial
    · exact keeps_enroll fun h => by cases hrole.symm.trans h
    · refine ⟨mayAsk_of_ne nofun, fun t k hk => ?_⟩
      unfold Service.enrollBy
      split
      · trivial
      · rename_i c hc
        split_ifs with hadmin
        · have ht : t ∈ k := hk ▸ Set.mem_insert t ∅
          exact keeps_enroll fun _ => ⟨token, t, c, htoken, ht, hc, hadmin⟩
        · trivial
  | login username password =>
    rw [action, Service.login_eq]
    refine ⟨mayAsk_of_ne nofun, fun a k hk => ?_⟩
    match a with
    | .error e => trivial
    | .ok none => trivial
    | .ok (some a) =>
      dsimp only
      split
      · trivial
      · trivial
      · exact ⟨mayAsk_of_ne nofun, fun _ _ _ => trivial⟩
  | ensureAdmin username password =>
    rw [action, Service.ensureAdmin_eq]
    refine ⟨mayAsk_of_ne nofun, fun a k hk => ?_⟩
    match a with
    | .error e => trivial
    | .ok (some a) => trivial
    | .ok none =>
      refine ⟨mayAsk_of_ne nofun, fun salt k hk => ⟨fun d hq hd => ?_, fun a k hk => ?_⟩⟩
      · cases hq
        exact .inl ⟨password, rfl⟩
      · match a with
        | .ok id => trivial
        | .error e => cases e <;> trivial
  | isAdmin token =>
    rw [action, Service.isAdmin_eq]
    exact ⟨mayAsk_of_ne nofun, fun _ _ _ => trivial⟩

def Admits (rows : List Account) (told : Set Timestamp) : (q : Effect) → q.Answer → Prop
  | .account (.find _), a => ∀ x, a = .ok (some x) → x ∈ rows
  | .account (.create d), a => ∀ id, a = .ok id → .ofDraft id d ∈ rows
  | .clock, t => t ∈ told
  | .store _, _ => True
  | .cache _, _ => True
  | .salt, _ => True
  | .pick _, _ => True

structure Sound (signer : Signer) (rows : List Account) (told : Set Timestamp)
    (o : AccountOperation) (r : o.Result) : Prop where
  gives : ∀ token, o.Gives r token → ∃ a ∈ rows, a.Bears signer token
  confirms : o.Confirms r → o.Entitled signer told

lemma ends_enroll (r : Service.AccountRequest) : (Service.enroll signer r).Ends (Admits rows told)
    (Sound signer rows told (register r)) := by
  intro salt _ a ha
  cases a with
  | error e => exact ⟨nofun, nofun⟩
  | ok id =>
    intro t _
    refine ⟨fun token htoken => ⟨_, ha id rfl, t.seconds, ?_⟩, nofun⟩
    cases htoken
    rfl

lemma ends_action (o : AccountOperation) :
    (o.action signer).Ends (Admits rows told) (Sound signer rows told o) := by
  cases o with
  | register r =>
    rw [action]
    rcases Service.register_cases signer r with ⟨e, he⟩ | ⟨-, he⟩ | ⟨token, -, he⟩ <;> rw [he]
    · exact ⟨nofun, nofun⟩
    · exact ends_enroll r
    · intro t _
      unfold Service.enrollBy
      split
      · exact ⟨nofun, nofun⟩
      · split_ifs
        · exact ends_enroll r
        · exact ⟨nofun, nofun⟩
  | login username password =>
    rw [action, Service.login_eq]
    intro a ha
    match a with
    | .error e => exact ⟨nofun, nofun⟩
    | .ok none => exact ⟨nofun, nofun⟩
    | .ok (some a) =>
      dsimp only
      split
      · exact ⟨nofun, nofun⟩
      · exact ⟨nofun, nofun⟩
      · intro t _
        refine ⟨fun token htoken => ⟨a, ha a rfl, t.seconds, ?_⟩, nofun⟩
        cases htoken
        rfl
  | ensureAdmin username password => exact Dialogue.ends_of_forall (fun _ => ⟨nofun, nofun⟩) _
  | isAdmin token =>
    rw [action, Service.isAdmin_eq]
    intro t ht
    refine ⟨nofun, fun hconfirms => ?_⟩
    cases hc : signer.verify t.seconds token with
    | error e =>
      rw [hc] at hconfirms
      cases hconfirms
    | ok c =>
      rw [hc] at hconfirms
      have hadmin : c.role.isAdmin = true := Except.ok.inj hconfirms
      refine ⟨token, t, c, rfl, ht, hc, ?_⟩
      cases hr : c.role with
      | admin => rfl
      | user =>
        rw [hr] at hadmin
        cases hadmin

end AccountOperation

def Returned (history : List AccountEvent) (token : String) : Prop :=
  ∃ e ∈ history, ∃ i o r, e.after.tasks i = some ⟨o, .done r⟩ ∧ o.Gives r token

/-- Whenever an operation brings a token that is accepted, the token was handed out before. -/
def Unforged (signer : Signer) : List AccountEvent → Prop
  | [] => True
  | e :: older => (∀ i o token t c, e.move = .answer i o .clock t → o.token? = some token →
      signer.verify t.seconds token = .ok c → Returned older token) ∧ Unforged signer older

/-- The admins that were made without a request, and those whose creation was requested with the
token of such an admin. -/
inductive Rooted (signer : Signer) (history : List AccountEvent) : Account → Prop
  | founded {e i d password id} (he : e ∈ history)
      (hm : e.move = .answer i (.ensureAdmin d.username password) (.account (.create d)) (.ok id)) :
      Rooted signer history (.ofDraft id d)
  | admitted {newer e older i r d id p t token c b} (hsplit : history = newer ++ e :: older)
      (hm : e.move = .answer i (.register r) (.account (.create d)) (.ok id)) (hp : p ∈ older)
      (hpm : p.move = .answer i (.register r) .clock t) (htoken : r.token = some token)
      (hc : signer.verify t.seconds token = .ok c) (hrole : c.role = .admin)
      (hexp : t.seconds ≤ c.exp) (hb : b ∈ p.before.accounts.rows) (hbears : b.Bears signer token)
      (hrooted : Rooted signer history b) : Rooted signer history (.ofDraft id d)

variable {signer : Signer} {accounts : Accounts} {s t : AccountSystem} {m : AccountMove}
  {history newer older : List AccountEvent} {e : AccountEvent} {i : Nat} {o : AccountOperation}
  {token : String} {time : Timestamp} {c : Token.Claims} {a : Account}

lemma Unforged.cons (h : Unforged signer older) (hm : ∀ i o t, e.move ≠ .answer i o .clock t) :
    Unforged signer (e :: older) :=
  ⟨fun i o _ t _ he => (hm i o t he).elim, h⟩

lemma Unforged.returned (h : Unforged signer (newer ++ e :: older))
    (hm : e.move = .answer i o .clock time) (htoken : o.token? = some token)
    (hc : signer.verify time.seconds token = .ok c) : Returned older token := by
  induction newer with
  | nil => exact h.1 i o token time c hm htoken hc
  | cons _ newer ih => exact ih h.2

lemma Rooted.cons (h : Rooted signer history a) (e : AccountEvent) :
    Rooted signer (e :: history) a := by
  induction h with
  | founded he hm => exact .founded (List.mem_cons_of_mem _ he) hm
  | @admitted newer e' older _ _ _ _ _ _ _ _ _ hsplit hm hp hpm htoken hc hrole hexp hb hbears _ ih =>
    have hlonger : e :: history = e :: newer ++ e' :: older := by rw [hsplit, List.cons_append]
    exact .admitted hlonger hm hp hpm htoken hc hrole hexp hb hbears ih

namespace AccountSystem

open AccountOperation (Admits Sound)

lemma Run.admits (h : (start accounts).Run signer history s) {q : Effect} {x : q.Answer}
    (he : e ∈ history) (hm : e.move = .answer i o q x) :
    Admits s.accounts.rows (Told history i o) q x := by
  obtain ⟨_, _, -, -, step, hlater⟩ := h.at_mem he
  have hlast := (Run.rows_prefix hlater).subset
  rw [hm] at step
  obtain ⟨next, after, -, hx, hafter⟩ := step
  cases q with
  | account call =>
    obtain ⟨rfl, rfl⟩ := hx
    cases call with
    | find username =>
      intro a ha
      have hmem := Accounts.mem_rows_of_find? (Except.ok.inj ha)
      exact hlast (hafter ▸ hmem)
    | create d =>
      intro id hid
      exact hlast (hafter ▸ Accounts.mem_rows_of_create hid)
  | clock => exact ⟨e, he, hm⟩
  | _ => trivial

lemma Run.sound (h : (start accounts).Run signer history s) {r : o.Result}
    (hi : s.tasks i = some ⟨o, .done r⟩) :
    Sound signer s.accounts.rows (Told history i o) o r :=
  h.ends (fun o => o.ends_action) (fun _ he _ _ _ hm => h.admits he hm) _ hi

lemma Run.bears (h : (start accounts).Run signer history s) (hr : Returned history token) :
    ∃ a ∈ s.accounts.rows, a.Bears signer token := by
  obtain ⟨e, he, i, o, r, hi, hg⟩ := hr
  obtain ⟨_, _, -, hrun, step, hlater⟩ := h.at_mem he
  obtain ⟨a, ha, hbears⟩ := (Run.sound (hrun.cons step) hi).gives token hg
  exact ⟨a, (Run.rows_prefix hlater).subset ha, hbears⟩

end AccountSystem

lemma Account.Bears.claims (h : a.Bears signer token) {now : Int}
    (hc : signer.verify now token = .ok c) : c.sub = a.username ∧ c.role = a.role := by
  obtain ⟨issued, rfl⟩ := h
  rw [Signer.claims_of_verify_issue hc]
  exact ⟨rfl, rfl⟩

namespace AccountSystem

lemma Run.bearer (h : (start accounts).Run signer history s) (hf : Unforged signer history)
    (he : o.Entitled signer (Told history i o)) : ∃ p ∈ history, ∃ t token c,
      p.move = .answer i o .clock t ∧ o.token? = some token ∧
      signer.verify t.seconds token = .ok c ∧ c.role = .admin ∧
      ∃ b ∈ p.before.accounts.rows, b ∈ s.accounts.rows ∧ b.Bears signer token ∧ b.role = .admin := by
  obtain ⟨token, t, c, htoken, ⟨p, hp, hm⟩, hc, hrole⟩ := he
  refine ⟨p, hp, t, token, c, hm, htoken, hc, hrole, ?_⟩
  obtain ⟨newer, older, rfl, hrun, step, hlater⟩ := h.at_mem hp
  obtain ⟨b, hb, hbears⟩ := Run.bears hrun (hf.returned hm htoken hc)
  have hmem := (step.rows_prefix.trans (Run.rows_prefix hlater)).subset hb
  exact ⟨b, hb, hmem, hbears, (hbears.claims hc).2.symm.trans hrole⟩

lemma Run.rooted (h : (start accounts).Run signer history s) (hf : Unforged signer history)
    (hnone : ∀ a ∈ accounts.rows, a.role ≠ .admin) :
    ∀ a ∈ s.accounts.rows, a.role = .admin → Rooted signer history a := by
  induction h with
  | nil => exact fun a ha hadmin => (hnone a ha hadmin).elim
  | @cons history s m t run step ih =>
    have hold := ih hf.2
    intro a ha hadmin
    rcases step.accounts with he | ⟨i, o, call, rfl, he⟩
    · exact (hold a (he ▸ ha) hadmin).cons _
    · rw [he] at ha
      rcases Accounts.mem_rows_answer ha with ha | ⟨d, rfl, hid, rfl⟩
      · exact (hold a ha hadmin).cons _
      -- the task was free to ask for this account, so the admin behind its token was there before
      · obtain ⟨next, after, hi, -, -⟩ := step
        have hask := Run.keeps run (AccountOperation.MayAsk signer)
          (fun _ _ => AccountOperation.MayAsk.mono) AccountOperation.keeps_action i _ hi
        have hmove : AccountMove.answer i o (.account (.create d)) (s.accounts.create d).1 =
            .answer i o (.account (.create d)) (.ok s.accounts.nextId) := by rw [hid]
        rcases hask.1 d rfl hadmin with ⟨password, rfl⟩ | ⟨⟨r, rfl⟩, hentitled⟩
        · exact .founded List.mem_cons_self hmove
        · obtain ⟨p, hp, t, token, c, hm, htoken, hc, hrole, b, hb, hmem, hbears, hbrole⟩ :=
            Run.bearer run hf.2 hentitled
          exact .admitted (List.nil_append _).symm hmove hp hm htoken hc hrole
            (Signer.now_le_of_verify hc) hb hbears ((hold b hmem hbrole).cons _)

lemma Run.founder (h : (start accounts).Run signer history s) (hr : Rooted signer history a) :
    ∃ e ∈ history, ∃ username password, e.move = .launch (.ensureAdmin username password) := by
  induction hr with
  | admitted _ _ _ _ _ _ _ _ _ _ _ ih => exact ih
  | founded he hm =>
    obtain ⟨newer, older, rfl, hrun, step, -⟩ := h.at_mem he
    rw [hm] at step
    obtain ⟨next, after, hi, -⟩ := step
    obtain ⟨e, he, hlaunch⟩ := Run.launched hrun hi
    exact ⟨e, List.mem_append_right _ (List.mem_cons_of_mem _ he), _, _, hlaunch⟩

/-- If the accounts were none of admins and no token is forged, every admin goes back to one that
was made without a request. -/
theorem Run.no_escalation (h : (start accounts).Run signer history s)
    (hnone : ∀ a ∈ accounts.rows, a.role ≠ .admin) (hf : Unforged signer history) :
    (∀ a ∈ s.accounts.rows, a.role = .admin → Rooted signer history a) ∧
    (∀ i o r token, s.tasks i = some ⟨o, .done r⟩ → o.Gives r token →
      ∃ a ∈ s.accounts.rows, a.Bears signer token ∧
        ∀ now c, signer.verify now token = .ok c → c.sub = a.username ∧ c.role = a.role) ∧
    ((∀ e ∈ history, ∀ username password, e.move ≠ .launch (.ensureAdmin username password)) →
      (∀ a ∈ s.accounts.rows, a.role ≠ .admin) ∧
      ∀ i token, s.tasks i ≠ some ⟨.isAdmin token, .done (.ok true)⟩) := by
  have hrooted := h.rooted hf hnone
  refine ⟨hrooted, fun i o r token hi hg => ?_, fun hensure => ?_⟩
  · obtain ⟨a, ha, hbears⟩ := (h.sound hi).gives token hg
    exact ⟨a, ha, hbears, fun now c hc => hbears.claims hc⟩
  · have hnever : ∀ a ∈ s.accounts.rows, a.role ≠ .admin := fun a ha hadmin => by
      obtain ⟨e, he, username, password, hm⟩ := h.founder (hrooted a ha hadmin)
      exact hensure e he username password hm
    refine ⟨hnever, fun i token hi => ?_⟩
    obtain ⟨-, -, -, -, -, -, -, -, -, b, -, hb, -, hadmin⟩ :=
      h.bearer hf ((h.sound hi).confirms rfl)
    exact hnever b hb hadmin

theorem Run.no_escalation_ensureAdmin :
    let signer : Signer := ⟨[], 60⟩
    let token := signer.issue 0 "ann" .user
    ∃ history s, (start {}).Run signer history s ∧
      (∀ a ∈ ({} : Accounts).rows, a.role ≠ .admin) ∧ Unforged signer history ∧
      Returned history token ∧
      (∃ e ∈ history, ∃ i t, e.move = .answer i (.isAdmin token) .clock t) ∧
      ∃ a ∈ s.accounts.rows, a.role = .admin ∧ Rooted signer history a := by
  intro signer token
  let founding : AccountOperation := .ensureAdmin "root" "secret"
  let joining : AccountOperation := .register ⟨"ann", "word", .user, none, [], none⟩
  let salt : Vector UInt8 16 := Vector.replicate 16 0
  have begin : (start {}).Step signer (.launch founding) _ := rfl
  have run := Trace.nil.cons begin
  have run := run.cons (m := AccountMove.answer 0 founding (.account (.find "root")) (.ok none))
    ⟨_, _, rfl, ⟨rfl, rfl⟩, rfl⟩
  have run := run.cons (m := AccountMove.answer 0 founding .salt salt) ⟨_, _, rfl, rfl, rfl⟩
  have run := run.cons (m := AccountMove.answer 0 founding (.account (.create _)) (.ok 1))
    ⟨_, _, rfl, ⟨rfl, rfl⟩, rfl⟩
  have run := run.cons (m := AccountMove.launch joining) rfl
  have run := run.cons (m := AccountMove.answer 1 joining .salt salt) ⟨_, _, rfl, rfl, rfl⟩
  have run := run.cons (m := AccountMove.answer 1 joining (.account (.create _)) (.ok 2))
    ⟨_, _, rfl, ⟨rfl, rfl⟩, rfl⟩
  have run := run.cons (m := AccountMove.answer 1 joining .clock ⟨0, 0⟩) ⟨_, _, rfl, rfl, rfl⟩
  have run := run.cons (m := AccountMove.launch (.isAdmin token)) rfl
  have asked := congrArg (fun d => some (AccountTask.mk (.isAdmin token) d))
    (Service.isAdmin_eq signer token)
  have run := run.cons (m := AccountMove.answer 2 (.isAdmin token) .clock ⟨0, 0⟩)
    ⟨_, _, asked, rfl, rfl⟩
  have rooted : ∀ {history : List AccountEvent} {s : AccountSystem},
      (start {}).Run signer history s → Unforged signer history →
      (∃ a ∈ s.accounts.rows, a.role = .admin) →
      ∃ a ∈ s.accounts.rows, a.role = .admin ∧ Rooted signer history a :=
    fun run hf ⟨a, ha, hadmin⟩ => ⟨a, ha, hadmin, (run.no_escalation nofun hf).1 a ha hadmin⟩
  refine ⟨_, _, run, nofun, ?_⟩
  refine (fun hf => ⟨hf, ?returned, ⟨_, .head _, 2, _, rfl⟩, rooted run hf ⟨_, .head _, rfl⟩⟩)
    ⟨?asked, .cons ⟨?joined, ?quiet⟩ (fun _ _ _ h => by cases h)⟩
  case returned => exact ⟨_, .tail _ (.tail _ (.head _)), 1, joining, .ok token, rfl, rfl⟩
  case asked =>
    intro i o token' t c hm htoken _
    cases hm
    cases htoken
    exact ⟨_, .tail _ (.head _), 1, joining, .ok token, rfl, rfl⟩
  case joined =>
    intro i o token' t c hm htoken
    cases hm
    cases htoken
  case quiet =>
    have none : Unforged signer [] := trivial
    iterate 7 refine .cons ?_ (fun _ _ _ h => by cases h)
    exact none

end AccountSystem

end Billboard
