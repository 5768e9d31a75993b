import Billboard.Json.Shape
import Billboard.Json.Writer

/-! Accounts. A username is taken once and for all by the first account that is created under it. -/

namespace Billboard

inductive AuthError where
  | invalidToken (reason : String)
  | tokenExpired
  | invalidCredentials
  | forbidden (reason : String)
  | userExists (username : String)
  | invalidRequest (reason : String)
  | storage (reason : String)
  | internal (reason : String)
deriving DecidableEq, Repr

namespace AuthError

def message : AuthError → String
  | .invalidToken reason => "Invalid token: " ++ reason
  | .tokenExpired => "Token expired"
  | .invalidCredentials => "Invalid username or password"
  | .forbidden reason => "Forbidden: " ++ reason
  | .userExists username => "User already exists: " ++ username
  | .invalidRequest reason => "Invalid request: " ++ reason
  | .storage reason => "Storage error: " ++ reason
  | .internal reason => "Internal error: " ++ reason

def category : AuthError → String
  | .invalidToken _ => "authentication"
  | .tokenExpired => "authentication"
  | .invalidCredentials => "authentication"
  | .forbidden _ => "authorization"
  | .userExists _ => "conflict"
  | .invalidRequest _ => "client"
  | .storage _ => "server"
  | .internal _ => "server"

end AuthError

inductive Role where
  | admin
  | user
deriving DecidableEq, Repr

namespace Role

def name : Role → String
  | .admin => "admin"
  | .user => "user"

def isAdmin : Role → Bool
  | .admin => true
  | .user => false

def ofName (s : String) : Except AuthError Role :=
  if s = "admin" then .ok .admin
  else if s = "user" then .ok .user
  else .error (.invalidRequest ("unknown role: " ++ s))

def toJson (r : Role) : Json := .str r.name

def reader : Json.Reader Role := Json.variant [("admin", .admin), ("user", .user)]

end Role

structure Account where
  id : Int
  username : String
  passwordHash : String
  role : Role
  feature : Option Int := none
  tags : List Int := []
deriving DecidableEq, Repr

structure Account.Draft where
  username : String
  passwordHash : String
  role : Role
  feature : Option Int := none
  tags : List Int := []
deriving DecidableEq, Repr

namespace Account

open Json (Reader Slot)

def ofDraft (id : Int) (d : Draft) : Account :=
  ⟨id, d.username, d.passwordHash, d.role, d.feature, d.tags⟩

def fields (a : Account) : List (String × Json) :=
  [("user_id", .int a.id),
   ("username", .str a.username),
   ("role", a.role.toJson),
   ("feature_id", (a.feature.map Json.int).getD .null),
   ("tag_ids", .arr (a.tags.map .int))]

def text (a : Account) : String := Json.writeRecord a.fields

def slots : List (Slot Account) :=
  [.required "user_id" Json.i64 fun x a => { a with id := x },
   .required "username" Json.string fun x a => { a with username := x },
   .required "password_hash" Json.string fun x a => { a with passwordHash := x },
   .required "role" Role.reader fun x a => { a with role := x },
   .nullable "feature_id" Json.i32 fun x a => { a with feature := x },
   .defaulted "tag_ids" (Json.sequence Json.i32) fun x a => { a with tags := x }]

def reader : Reader Account := Json.record "User" slots ⟨0, "", "", .user, none, []⟩

end Account

structure Accounts where
  rows : List Account := []
  nextId : Int := 1
deriving DecidableEq, Repr

namespace Accounts

def find? (s : Accounts) (username : String) : Option Account :=
  s.rows.find? (·.username == username)

def create (s : Accounts) (d : Account.Draft) : Except AuthError Int × Accounts :=
  match s.find? d.username with
  | some _ => (.error (.userExists d.username), s)
  | none => (.ok s.nextId, ⟨s.rows ++ [.ofDraft s.nextId d], s.nextId + 1⟩)

end Accounts

inductive AccountCall where
  | create (d : Account.Draft)
  | find (username : String)
deriving DecidableEq, Repr

abbrev AccountCall.Value : AccountCall → Type
  | .create _ => Int
  | .find _ => Option Account

abbrev AccountCall.Answer (c : AccountCall) : Type := Except AuthError c.Value

def Accounts.answer : (c : AccountCall) → Accounts → c.Answer × Accounts
  | .create d, s => s.create d
  | .find username, s => (.ok (s.find? username), s)

end Billboard
