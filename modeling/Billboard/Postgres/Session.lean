import Billboard.Dialogue
import Billboard.Postgres.Error
import Billboard.Postgres.Statement

/-! Transactions. One is committed exactly if what is done in it succeeds, and rolled back
otherwise. -/

namespace Billboard.Postgres

inductive Request where
  | connect
  | start
  | commit
  | rollback
  | run (s : Statement)
deriving DecidableEq, Repr

namespace Request

abbrev Answer : Request → Type
  | .run s => Except ClientError s.Result
  | _ => Except ClientError Unit

def sql : Request → String
  | .connect => "<startup>"
  | .start => "BEGIN"
  | .commit => "COMMIT"
  | .rollback => "ROLLBACK"
  | .run s => s.sql

def params : Request → List Value
  | .run s => s.params
  | _ => []

end Request

abbrev Session (α : Type) : Type := Dialogue Request.Answer α

namespace Session

def send (r : Request) : Session r.Answer := Dialogue.question r

def run (s : Statement) : Session (Except ClientError s.Result) := Dialogue.question (Request.run s)

end Session

structure FailureKind (ε : Type) where
  ofFailure : Failure → ε
  message : ε → String

namespace FailureKind

def store : FailureKind StoreError := ⟨Failure.toStore, StoreError.message⟩

def account : FailureKind AuthError := ⟨Failure.toAuth, AuthError.message⟩

end FailureKind

def transaction (kind : FailureKind ε) (purpose : String) (body : Session (Except ε α)) :
    Session (Except ε α) := do
  let failed (reason : String) : Except ε α := .error (kind.ofFailure (.transaction reason))
  match ← Session.send .start with
  | .error e => return failed (purpose ++ " begin error: " ++ e.message)
  | .ok () =>
    match ← body with
    | .ok a =>
      match ← Session.send .commit with
      | .ok () => return .ok a
      | .error e => return failed (purpose ++ " commit error: " ++ e.message)
    | .error cause =>
      match ← Session.send .rollback with
      | .ok () => return .error cause
      | .error e =>
        return failed (purpose ++ " error: " ++ kind.message cause ++ "; rollback error: "
          ++ e.message)

end Billboard.Postgres
