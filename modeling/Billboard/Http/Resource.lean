import Billboard.Http.Message

namespace Billboard.Http

inductive Resource where
  | health
  | readiness
  | userBanner
  | banners
  | banner (segment : List Char)
  | tokens
  | accounts
deriving DecidableEq, Repr

namespace Resource

def ofPath? (path : List Char) : Option Resource :=
  match String.ofList path with
  | "/healthz" => some .health
  | "/readyz" => some .readiness
  | "/user_banner" => some .userBanner
  | "/banner" => some .banners
  | "/auth" => some .tokens
  | "/user" => some .accounts
  | _ =>
    match Text.dropFront? "/banner/".toList path with
    | none => none
    | some segment => if segment = [] ∨ '/' ∈ segment then none else some (.banner segment)

def allow : Resource → String
  | .health | .readiness | .userBanner => "GET,HEAD"
  | .banners => "GET,HEAD,POST"
  | .banner _ => "PATCH,DELETE"
  | .tokens | .accounts => "POST"

def takes : Resource → Method → Bool
  | .health, m | .readiness, m | .userBanner, m => m == .get || m == .head
  | .banners, m => m == .get || m == .head || m == .post
  | .banner _, m => m == .patch || m == .delete
  | .tokens, m | .accounts, m => m == .post

end Resource

end Billboard.Http
