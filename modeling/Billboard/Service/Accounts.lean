import Billboard.Action
import Billboard.Password
import Billboard.Text.Split
import Billboard.Token

/-! Accounts and tokens. Only a bearer of an admin's token has another admin created. -/

namespace Billboard.Service

open Json (Reader Slot)

structure AccountRequest where
  username : String
  password : String
  role : Role := .user
  feature : Option Int := none
  tags : List Int := []
  token : Option String := none
deriving DecidableEq, Repr

namespace AccountRequest

def slots : List (Slot AccountRequest) :=
  [.required "username" Json.string fun x r => { r with username := x },
   .required "password" Json.string fun x r => { r with password := x },
   .defaulted "role" Role.reader fun x r => { r with role := x },
   .defaulted "feature_id" (Json.optional Json.i32) fun x r => { r with feature := x },
   .defaulted "tag_ids" (Json.sequence Json.i32) fun x r => { r with tags := x },
   .defaulted "token" (Json.optional Json.string) fun x r => { r with token := x }]

def reader : Reader AccountRequest := Json.record "CreateUserRequest" slots ⟨"", "", .user, none, [], none⟩

end AccountRequest

variable (signer : Signer)

def authenticate (token : String) : Action (Except AuthError Token.Claims) := do
  let t ← Action.clock
  return signer.verify t.seconds token

def isAdmin (token : String) : Action (Except AuthError Bool) := do
  match ← authenticate signer token with
  | .error e => return .error e
  | .ok c => return .ok c.isAdmin

def issue (username : String) (role : Role) : Action String := do
  let t ← Action.clock
  return signer.issue t.seconds username role

/-- Left out are passwords of `2 ^ 32` bytes and more, which no request can hold, and the end of the
task that hashes. Nothing else makes hashing fail. -/
def hashPassword (password : String) : Action String := do
  let salt ← Action.salt
  return Password.hash password salt.toList

def onlyAdmins : AuthError := .forbidden "only admins can create admins"

def admitRole (role : Role) (token : Option String) : Action (Except AuthError Unit) :=
  match role, token with
  | .user, _ => return .ok ()
  | .admin, none => return .error onlyAdmins
  | .admin, some token => do
    match ← isAdmin signer token with
    | .error e => return .error e
    | .ok true => return .ok ()
    | .ok false => return .error onlyAdmins

def register (r : AccountRequest) : Action (Except AuthError String) :=
  if Text.trimChars r.username.toList = [] then
    return .error (.invalidRequest "username must not be empty")
  else if r.password.toList = [] then
    return .error (.invalidRequest "password must not be empty")
  else do
    match ← admitRole signer r.role r.token with
    | .error e => return .error e
    | .ok () =>
      let hash ← hashPassword r.password
      match ← Action.account (.create ⟨r.username, hash, r.role, r.feature, r.tags⟩) with
      | .error e => return .error e
      | .ok _ => return .ok (← issue signer r.username r.role)

/-- The text about an invalid hash does not go on to say what is wrong with it. -/
def login (username password : String) : Action (Except AuthError String) := do
  match ← Action.account (.find username) with
  | .error e => return .error e
  | .ok none => return .error .invalidCredentials
  | .ok (some a) =>
    match Password.verify password a.passwordHash with
    | none => return .error (.internal "stored hash is invalid")
    | some false => return .error .invalidCredentials
    | some true => return .ok (← issue signer a.username a.role)

def ensureAdmin (username password : String) : Action (Except AuthError Bool) := do
  match ← Action.account (.find username) with
  | .error e => return .error e
  | .ok (some _) => return .ok false
  | .ok none =>
    let hash ← hashPassword password
    match ← Action.account (.create { username, passwordHash := hash, role := .admin }) with
    | .ok _ => return .ok true
    | .error (.userExists _) => return .ok false
    | .error e => return .error e

end Billboard.Service
