import Billboard.Account
import Billboard.Json.Writer
import Billboard.Service.Error

/-! What a client is told of a failure. The text of an internal failure stays inside. -/

namespace Billboard

inductive ApiError where
  | badRequest (reason : String)
  | unauthorized (reason : String)
  | forbidden (reason : String)
  | notFound (reason : String)
  | conflict (reason : String)
  | internal (reason : String)
deriving DecidableEq, Repr

namespace ApiError

def message : ApiError → String
  | .badRequest reason => "Bad request: " ++ reason
  | .unauthorized reason => "Unauthorized: " ++ reason
  | .forbidden reason => "Forbidden: " ++ reason
  | .notFound reason => "Not found: " ++ reason
  | .conflict reason => "Conflict: " ++ reason
  | .internal reason => "Internal server error: " ++ reason

def status : ApiError → Nat
  | .badRequest _ => 400
  | .unauthorized _ => 401
  | .forbidden _ => 403
  | .notFound _ => 404
  | .conflict _ => 409
  | .internal _ => 500

def publicMessage : ApiError → String
  | .internal _ => "internal server error"
  | .badRequest reason => reason
  | .unauthorized reason => reason
  | .forbidden reason => reason
  | .notFound reason => reason
  | .conflict reason => reason

def body (e : ApiError) : String := Json.writeRecord [("error", .str e.publicMessage)]

def ofAuth (e : AuthError) : ApiError :=
  match e with
  | .invalidToken _ => .unauthorized e.message
  | .tokenExpired => .unauthorized e.message
  | .invalidCredentials => .unauthorized e.message
  | .forbidden reason => .forbidden reason
  | .userExists _ => .conflict e.message
  | .invalidRequest reason => .badRequest reason
  | .storage _ => .internal e.message
  | .internal _ => .internal e.message

def ofStore (e : StoreError) : ApiError :=
  match e with
  | .notFound .. => .notFound e.message
  | .alreadyExists .. => .conflict e.message
  | .invalidBanner reason => .badRequest reason
  | .transaction _ => .internal e.message
  | .connection _ => .internal e.message
  | .internal _ => .internal e.message

def ofService : ServiceError → ApiError
  | .notFound => .notFound "banner not found"
  | .invalidInput reason => .badRequest reason
  | .persistence e => .ofStore e

end ApiError

end Billboard
