import Billboard.Api.Error
import Billboard.Banner.Wire

namespace Billboard.Api

open Json (Reader Slot)

def nullable (f : α → Json) : Option α → Json
  | none => .null
  | some a => f a

def ints (is : List Int) : Json := .arr (is.map .int)

structure BannerRequest where
  feature : Option Int := none
  tags : Option (List Int) := none
  active : Option Bool := none
  content : Option Content := none
deriving DecidableEq, Repr

namespace BannerRequest

def fields (r : BannerRequest) : List (String × Json) :=
  [("feature_id", nullable .int r.feature), ("tag_ids", nullable ints r.tags),
   ("is_active", nullable .bool r.active), ("content", nullable .obj r.content)]

def slots : List (Slot BannerRequest) :=
  [.nullable "feature_id" Json.i32 fun x r => { r with feature := x },
   .nullable "tag_ids" (Json.sequence Json.i32) fun x r => { r with tags := x },
   .nullable "is_active" Json.boolean fun x r => { r with active := x },
   .nullable "content" Json.object fun x r => { r with content := x }]

def reader : Reader BannerRequest := Json.record "BannerRequest" slots {}

def toDraft (r : BannerRequest) : Except ApiError Banner.Draft :=
  match r.feature, r.tags with
  | none, _ => .error (.badRequest "feature_id is required")
  | some _, none => .error (.badRequest "tag_ids is required")
  | some feature, some tags =>
    (Banner.Draft.check ⟨feature, tags, r.active.getD true, r.content.getD []⟩).mapError
      fun flaw => .ofStore (.ofFlaw flaw)

end BannerRequest

structure CreatedBanner where
  id : Int
deriving DecidableEq, Repr

namespace CreatedBanner

def fields (r : CreatedBanner) : List (String × Json) := [("banner_id", .int r.id)]

def reader : Reader CreatedBanner :=
  Json.record "CreateBannerResponse" [.required "banner_id" Json.i64 fun x _ => ⟨x⟩] ⟨0⟩

end CreatedBanner

structure Credentials where
  username : String
  password : String
deriving DecidableEq, Repr

namespace Credentials

def fields (r : Credentials) : List (String × Json) :=
  [("username", .str r.username), ("password", .str r.password)]

def slots : List (Slot Credentials) :=
  [.required "username" Json.string fun x r => { r with username := x },
   .required "password" Json.string fun x r => { r with password := x }]

def reader : Reader Credentials := Json.record "AuthRequest" slots ⟨"", ""⟩

end Credentials

structure IssuedToken where
  token : String
deriving DecidableEq, Repr

namespace IssuedToken

def fields (r : IssuedToken) : List (String × Json) := [("token", .str r.token)]

def reader : Reader IssuedToken :=
  Json.record "TokenResponse" [.required "token" Json.string fun x _ => ⟨x⟩] ⟨""⟩

end IssuedToken

structure ErrorBody where
  error : String
deriving DecidableEq, Repr

namespace ErrorBody

def fields (r : ErrorBody) : List (String × Json) := [("error", .str r.error)]

def reader : Reader ErrorBody :=
  Json.record "ErrorBody" [.required "error" Json.string fun x _ => ⟨x⟩] ⟨""⟩

end ErrorBody

structure PairQuery where
  feature : Int
  tag : Int
  lastRevision : Bool := false
deriving DecidableEq, Repr

namespace PairQuery

def fields (q : PairQuery) : List (String × Json) :=
  [("feature_id", .int q.feature), ("tag_id", .int q.tag),
   ("use_last_revision", .bool q.lastRevision)]

def slots : List (Slot PairQuery) :=
  [.required "feature_id" Json.i32 fun x q => { q with feature := x },
   .required "tag_id" Json.i32 fun x q => { q with tag := x },
   .defaulted "use_last_revision" Json.boolean fun x q => { q with lastRevision := x }]

def reader : Reader PairQuery := Json.record "UserBannerQuery" slots ⟨0, 0, false⟩

end PairQuery

structure ListQuery where
  feature : Option Int := none
  tag : Option Int := none
  offset : Nat := 0
  limit : Nat := 0
deriving DecidableEq, Repr

namespace ListQuery

def fields (q : ListQuery) : List (String × Json) :=
  [("feature_id", nullable .int q.feature), ("tag_id", nullable .int q.tag),
   ("offset", .int q.offset), ("limit", .int q.limit)]

def slots : List (Slot ListQuery) :=
  [.nullable "feature_id" Json.i32 fun x q => { q with feature := x },
   .nullable "tag_id" Json.i32 fun x q => { q with tag := x },
   .defaulted "offset" Json.u32 fun x q => { q with offset := x },
   .defaulted "limit" Json.u32 fun x q => { q with limit := x }]

def reader : Reader ListQuery := Json.record "BannerListQuery" slots {}

end ListQuery

end Billboard.Api
