import Billboard.Service.Accounts
import Mathlib.Tactic.Common

namespace Billboard

namespace Service

variable (signer : Signer)

def enroll (r : AccountRequest) : Action (Except AuthError String) := do
  let hash ← hashPassword r.password
  match ← Action.account (.create ⟨r.username, hash, r.role, r.feature, r.tags⟩) with
  | .error e => return .error e
  | .ok _ => return .ok (← issue signer r.username r.role)

def enrollBy (r : AccountRequest) (token : String) (t : Clock.Timestamp) :
    Action (Except AuthError String) :=
  match signer.verify t.seconds token with
  | .error e => .done (.error e)
  | .ok c => if c.role = .admin then enroll signer r else .done (.error onlyAdmins)

lemma register_cases (r : AccountRequest) :
    (∃ e, register signer r = .done (.error e)) ∨
    (r.role = .user ∧ register signer r = enroll signer r) ∨
    ∃ token, r.token = some token ∧
      register signer r = .ask .clock (enrollBy signer r token) := by
  unfold register enrollBy enroll
  split_ifs with hname hpassword
  · exact .inl ⟨_, rfl⟩
  · exact .inl ⟨_, rfl⟩
  · cases hrole : r.role with
    | user => exact .inr (.inl ⟨rfl, rfl⟩)
    | admin =>
      cases htoken : r.token with
      | none => exact .inl ⟨_, rfl⟩
      | some token =>
        refine .inr (.inr ⟨token, rfl, ?_⟩)
        refine congrArg (Dialogue.ask Effect.clock) (funext fun t => ?_)
        simp only [pure, Dialogue.bind]
        cases signer.verify t.seconds token with
        | error e => rfl
        | ok c =>
          obtain ⟨sub, role, exp, iat⟩ := c
          cases role <;> rfl

lemma login_eq (username password : String) : login signer username password =
    .ask (.account (.find username)) fun
    | .error e => .done (.error e)
    | .ok none => .done (.error .invalidCredentials)
    | .ok (some a) =>
      match Password.verify password a.passwordHash with
      | none => .done (.error (.internal "stored hash is invalid"))
      | some false => .done (.error .invalidCredentials)
      | some true => .ask .clock fun t => .done (.ok (signer.issue t.seconds a.username a.role)) := by
  refine congrArg (Dialogue.ask (Effect.account _)) (funext fun a => ?_)
  match a with
  | .error e => rfl
  | .ok none => rfl
  | .ok (some a) =>
    simp only [bind, Dialogue.bind]
    cases Password.verify password a.passwordHash with
    | none => rfl
    | some right => cases right <;> rfl

lemma ensureAdmin_eq (username password : String) : ensureAdmin username password =
    .ask (.account (.find username)) fun
    | .error e => .done (.error e)
    | .ok (some _) => .done (.ok false)
    | .ok none => .ask .salt fun salt =>
      .ask (.account (.create { username, passwordHash := Password.hash password salt.toList,
                                role := .admin })) fun
      | .ok _ => .done (.ok true)
      | .error (.userExists _) => .done (.ok false)
      | .error e => .done (.error e) := by
  refine congrArg (Dialogue.ask (Effect.account _)) (funext fun a => ?_)
  match a with
  | .error e => rfl
  | .ok (some a) => rfl
  | .ok none =>
    refine congrArg (Dialogue.ask Effect.salt) (funext fun salt => ?_)
    refine congrArg (Dialogue.ask (Effect.account _)) (funext fun a => ?_)
    match a with
    | .ok id => rfl
    | .error e => cases e <;> rfl

lemma isAdmin_eq (token : String) : isAdmin signer token =
    .ask .clock fun t => .done ((signer.verify t.seconds token).map Token.Claims.isAdmin) := by
  refine congrArg (Dialogue.ask Effect.clock) (funext fun t => ?_)
  simp only [pure, Dialogue.bind]
  cases signer.verify t.seconds token <;> rfl

end Service

inductive AccountOperation where
  | register (r : Service.AccountRequest)
  | login (username password : String)
  | ensureAdmin (username password : String)
  | isAdmin (token : String)

namespace AccountOperation

abbrev Result : AccountOperation → Type
  | .register _ => Except AuthError String
  | .login .. => Except AuthError String
  | .ensureAdmin .. => Except AuthError Bool
  | .isAdmin _ => Except AuthError Bool

def action (signer : Signer) : (o : AccountOperation) → Action o.Result
  | .register r => Service.register signer r
  | .login username password => Service.login signer username password
  | .ensureAdmin username password => Service.ensureAdmin username password
  | .isAdmin token => Service.isAdmin signer token

def token? : AccountOperation → Option String
  | .register r => r.token
  | .isAdmin token => some token
  | _ => none

def Gives : (o : AccountOperation) → o.Result → String → Prop
  | .register _, r, token => r = .ok token
  | .login .., r, token => r = .ok token
  | .ensureAdmin .., _, _ => False
  | .isAdmin _, _, _ => False

def Confirms : (o : AccountOperation) → o.Result → Prop
  | .register _, _ => False
  | .login .., _ => False
  | .ensureAdmin .., _ => False
  | .isAdmin _, r => r = .ok true

end AccountOperation

end Billboard
