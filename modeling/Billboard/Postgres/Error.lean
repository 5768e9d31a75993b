import Billboard.Account
import Billboard.Store.Call

namespace Billboard.Postgres

inductive ClientError where
  | database (code message : String)
  | rowNotFound
  | poolTimedOut
  | poolClosed
  | workerCrashed
  | protocol (reason : String)
  | columnNotFound (name : String)
deriving DecidableEq, Repr

namespace ClientError

def message : ClientError → String
  | .database _ message => "error returned from database: " ++ message
  | .rowNotFound => "no rows returned by a query that expected to return at least one row"
  | .poolTimedOut => "pool timed out while waiting for an open connection"
  | .poolClosed => "attempted to acquire a connection on a closed pool"
  | .workerCrashed => "attempted to communicate with a crashed background worker"
  | .protocol reason => "encountered unexpected or invalid data: " ++ reason
  | .columnNotFound name => "no column found for name: " ++ name

def uniqueViolation : String := "23505"

def isUniqueViolation : ClientError → Bool
  | .database code _ => code == uniqueViolation
  | _ => false

end ClientError

inductive Failure where
  | connection (e : ClientError)
  | migration (reason : String)
  | transaction (reason : String)
  | decode (reason : String)
deriving DecidableEq, Repr

namespace Failure

def message : Failure → String
  | .connection e => "Database error: " ++ e.message
  | .migration reason => "Migration error: " ++ reason
  | .transaction reason => "Transaction error: " ++ reason
  | .decode reason => "Row decode error: " ++ reason

def toStore : Failure → StoreError
  | .connection e => .connection e.message
  | .migration reason => .internal ("Migration error: " ++ reason)
  | .transaction reason => .transaction reason
  | .decode reason => .internal reason

def toAuth (f : Failure) : AuthError := .storage f.message

end Failure

end Billboard.Postgres
