import Billboard.Http.MediaType
import Billboard.Http.Query
import Billboard.Http.Resource
import Billboard.Json.Shape
import Billboard.Service.Accounts
import Billboard.Service.Banners

/-! A request is looked at in a fixed order: its token, its path, its query or body. Nothing is
asked of a store before all of them are good. -/

namespace Billboard.Http

open Text

structure Context where
  signer : Signer
  bodyLimit : Nat

abbrev Outcome := Except ApiError Response

def bearerIsAdmin (signer : Signer) (r : Request) (missing : String) :
    Action (Except ApiError Bool) :=
  match r.token? with
  | none => return .error (.unauthorized missing)
  | some token => do
    match ← Service.isAdmin signer token with
    | .error e => return .error (.ofAuth e)
    | .ok admin => return .ok admin

def admitAdmin (signer : Signer) (r : Request) : Action (Except ApiError Unit) := do
  match ← bearerIsAdmin signer r "admin token required" with
  | .error e => return .error e
  | .ok true => return .ok ()
  | .ok false => return .error (.forbidden "admin access required")

def readId (segment : List Char) : Except ApiError Int :=
  match exactText? (percentDecode (String.ofList segment).toUTF8.toList) with
  | none => .error (.badRequest "Invalid URL: Invalid UTF-8 in `id`")
  | some s =>
    match readInt .i64 s.toList with
    | .ok id => .ok id
    | .error _ => .error (.badRequest ("Invalid URL: Cannot parse `" ++ s ++ "` to a `i64`"))

def Request.bearsJson (r : Request) : Bool :=
  match r.header? "content-type" with
  | none => false
  | some value =>
    isPlainValue value && ((MediaType.ofText? value).map MediaType.isJson).getD false

def shapeMessage (path : List Json.Step) (fault : Json.Fault) : String :=
  "Failed to deserialize the JSON body into the target type: "
    ++ (if path.isEmpty then "" else Json.pathText path ++ ": ") ++ fault.message

/-- The text about a body that is no JSON does not go on to say where it breaks off. -/
def readBody (limit : Nat) (read : Json.Reader α) (r : Request) : Except ApiError α :=
  if !r.bearsJson then
    .error (.badRequest "Expected request with `Content-Type: application/json`")
  else if limit < r.body.size then
    .error (.badRequest "Failed to buffer the request body: length limit exceeded")
  else
    match Json.decodeBytes read r.body with
    | .ok a => .ok a
    | .error .malformed => .error (.badRequest "Failed to parse the request body as JSON")
    | .error (.data path fault) => .error (.badRequest (shapeMessage path fault))

def readDraft (limit : Nat) (r : Request) : Except ApiError Banner.Draft :=
  (readBody limit Api.BannerRequest.reader r).bind (·.toDraft)

def statusBody (status : String) : String := Json.writeRecord [("status", .str status)]

def health : Response := .json 200 (statusBody "ok")

def readiness : Action Response := do
  let store ← Action.store .ping
  let cache ← Action.cache .ping
  match store, cache with
  | .ok (), .ok () => return .json 200 (statusBody "ready")
  | _, _ => return .json 503 (statusBody "unavailable")

def userBanner (s : Context) (r : Request) : Action Outcome := do
  match ← bearerIsAdmin s.signer r "token required" with
  | .error e => return .error e
  | .ok admin =>
    match readQuery pairParams ⟨0, 0, false⟩ r.query with
    | .error e => return .error e
    | .ok q =>
      match ← Service.pickOne q.feature q.tag admin q.lastRevision with
      | .error e => return .error (.ofService e)
      | .ok b => return .ok (.json 200 (Json.obj b.content).text)

def listingOf (q : Api.ListQuery) : Service.ReadRequest where
  feature := .ofOption q.feature
  tags := q.tag.toList
  isAdmin := true
  lastRevision := true
  offset := q.offset
  limit := q.limit

def listBanners (s : Context) (r : Request) : Action Outcome := do
  match ← admitAdmin s.signer r with
  | .error e => return .error e
  | .ok () =>
    match readQuery listParams {} r.query with
    | .error e => return .error e
    | .ok q =>
      match ← Service.list (listingOf q) with
      | .error e => return .error (.ofService e)
      | .ok banners => return .ok (.json 200 (Json.arr (banners.map (·.toJson))).text)

def createBanner (s : Context) (r : Request) : Action Outcome := do
  match ← admitAdmin s.signer r with
  | .error e => return .error e
  | .ok () =>
    match readDraft s.bodyLimit r with
    | .error e => return .error e
    | .ok d =>
      match ← Service.create d with
      | .error e => return .error (.ofService e)
      | .ok b => return .ok (.json 201 (Json.writeRecord (Api.CreatedBanner.fields ⟨b.id⟩)))

def updateBanner (s : Context) (segment : List Char) (r : Request) : Action Outcome := do
  match ← admitAdmin s.signer r with
  | .error e => return .error e
  | .ok () =>
    match readId segment, readDraft s.bodyLimit r with
    | .error e, _ => return .error e
    | .ok _, .error e => return .error e
    | .ok id, .ok d =>
      match ← Service.update id d with
      | .error e => return .error (.ofService e)
      | .ok () => return .ok (.plain 200)

def deleteBanner (s : Context) (segment : List Char) (r : Request) : Action Outcome := do
  match ← admitAdmin s.signer r with
  | .error e => return .error e
  | .ok () =>
    match readId segment with
    | .error e => return .error e
    | .ok id =>
      match ← Service.delete id with
      | .error e => return .error (.ofService e)
      | .ok () => return .ok (.plain 204)

def tokenResponse (status : Nat) (r : Except AuthError String) : Outcome :=
  match r with
  | .ok token => .ok (.json status (Json.writeRecord (Api.IssuedToken.fields ⟨token⟩)))
  | .error e => .error (.ofAuth e)

def login (s : Context) (r : Request) : Action Outcome :=
  match readBody s.bodyLimit Api.Credentials.reader r with
  | .error e => return .error e
  | .ok c => do return tokenResponse 200 (← Service.login s.signer c.username c.password)

def withToken (a : Service.AccountRequest) (r : Request) : Service.AccountRequest :=
  { a with token := a.token <|> r.token? }

def createAccount (s : Context) (r : Request) : Action Outcome :=
  match readBody s.bodyLimit Service.AccountRequest.reader r with
  | .error e => return .error e
  | .ok a => do return tokenResponse 201 (← Service.register s.signer (withToken a r))

def failed (e : ApiError) : Response := .json e.status e.body

def settled (a : Action Outcome) : Action Response := do
  match ← a with
  | .ok response => return response
  | .error e => return failed e

def handle (s : Context) (r : Request) (resource : Resource) : Action Response :=
  if resource.takes r.method then
    match resource with
    | .health => return health
    | .readiness => readiness
    | .userBanner => settled (userBanner s r)
    | .banners => settled (if r.method = .post then createBanner s r else listBanners s r)
    | .banner segment =>
      settled (if r.method = .patch then updateBanner s segment r else deleteBanner s segment r)
    | .tokens => settled (login s r)
    | .accounts => settled (createAccount s r)
  else return .plain 405

end Billboard.Http
