import Billboard.Postgres.Session
import Billboard.Store.Call
import Billboard.Text.Quoted
import Billboard.Text.Split

/-! The stores in the database. Each call is a transaction of its own. -/

namespace Billboard.Postgres

open Banner (Draft Filter)
open Clock (Timestamp)

def insertBanner (d : Draft) (createdAt updatedAt : Timestamp) :
    Session (Except StoreError Int) := do
  match ← Session.run (.insertBanner d createdAt updatedAt) with
  | .error e => return .error (Failure.connection e).toStore
  | .ok none => return .error (Failure.connection .rowNotFound).toStore
  | .ok (some id) => return .ok id

def updateBanner (id : Int) (d : Draft) (updatedAt : Timestamp) :
    Session (Except StoreError Unit) := do
  match ← Session.run (.updateBanner id d updatedAt) with
  | .error e => return .error (Failure.connection e).toStore
  | .ok changed => return if changed = 0 then .error (.noBanner id) else .ok ()

def deleteBanner (id : Int) : Session (Except StoreError Unit) := do
  match ← Session.run (.deleteBanner id) with
  | .error e => return .error (Failure.connection e).toStore
  | .ok changed => return if changed = 0 then .error (.noBanner id) else .ok ()

def findBanner (id : Int) : Session (Except StoreError (Option Banner)) := do
  match ← Session.run (.findBanner id) with
  | .error e => return .error (Failure.connection e).toStore
  | .ok b => return .ok b

def selectBanners (f : Filter) : Session (Except StoreError (List Banner)) := do
  match ← Session.run (.selectBanners f) with
  | .error e => return .error (Failure.connection e).toStore
  | .ok banners => return .ok banners

def test : Session (Except StoreError Unit) := do
  match ← Session.run .test with
  | .error e => return .error (Failure.connection e).toStore
  | .ok () => return .ok ()

def storeCall : (c : StoreCall) → Session c.Answer
  | .create d createdAt updatedAt =>
    transaction .store "create" (insertBanner d createdAt updatedAt)
  | .update id d updatedAt => transaction .store "update" (updateBanner id d updatedAt)
  | .delete id => transaction .store "delete" (deleteBanner id)
  | .get id => transaction .store "get" (findBanner id)
  | .query f => transaction .store "query" (selectBanners f)
  | .ping => test
  | .close => return .ok ()

def AccountRow.toAccount (r : AccountRow) : Except AuthError Account :=
  match Role.ofName r.role with
  | .error _ =>
    .error (Failure.decode ("user " ++ Text.intText r.id ++ " has unknown role "
      ++ Text.quote r.role)).toAuth
  | .ok role => .ok ⟨r.id, r.username, r.passwordHash, role, r.feature, r.tags.getD []⟩

def insertAccount (d : Account.Draft) : Session (Except AuthError Int) := do
  match ← Session.run (.insertAccount d) with
  | .error e =>
    return .error (if e.isUniqueViolation then .userExists d.username
      else (Failure.connection e).toAuth)
  | .ok none => return .error (Failure.connection .rowNotFound).toAuth
  | .ok (some id) => return .ok id

def findAccount (username : String) : Session (Except AuthError (Option Account)) := do
  match ← Session.run (.findAccount username) with
  | .error e => return .error (Failure.connection e).toAuth
  | .ok none => return .ok none
  | .ok (some row) => return row.toAccount.map some

def accountCall : (c : AccountCall) → Session c.Answer
  | .create d => transaction .account "create user" (insertAccount d)
  | .find username => transaction .account "get user" (findAccount username)

def schemeLength : List Char → Nat
  | ':' :: '/' :: '/' :: _ => 3
  | _ :: rest => match schemeLength rest with
    | 0 => 0
    | n + 1 => n + 2
  | [] => 0

/-- The address with four stars in the place of the password: what stands between the last colon and
the first `@`, unless the colon belongs to the scheme or nothing stands before it. -/
def maskPassword (url : List Char) : List Char :=
  match Text.cutAt '@' url with
  | none => url
  | some (front, rest) =>
    match Text.cutAtLast ':' front with
    | none => url
    | some (user, _) =>
      if schemeLength url < user.length then user ++ ":****@".toList ++ rest else url

end Billboard.Postgres
