import Billboard.Log
import Billboard.Service.Accounts
import Billboard.Settings

/-! What the service does before it takes requests: its store, its cache and the first admin, in
order. -/

namespace Billboard.Service

def bootstrap (b : Settings.Bootstrap) : Action (Except AuthError Bool) :=
  match b.adminUser with
  | none => return .ok false
  | some admin => ensureAdmin admin.username admin.password

inductive StartupError where
  | database (e : StoreError)
  | sharedCache (e : CacheError)
  | admin (e : AuthError)
deriving DecidableEq, Repr

namespace StartupError

def step : StartupError → String
  | .database _ => "PostgreSQL initialization failed"
  | .sharedCache _ => "Redis initialization failed"
  | .admin _ => "admin bootstrap failed"

def cause : StartupError → String
  | .database e => e.message
  | .sharedCache e => e.message
  | .admin e => e.message

def message (e : StartupError) : String := e.step ++ ": " ++ e.cause

end StartupError

structure Connections where
  database : Except StoreError Unit
  sharedCache : Except CacheError Unit

def openStore (s : Settings) (c : Connections) : Except StartupError (List Log.Line) :=
  match s.storage.backend with
  | .postgres => (c.database.mapError .database).map fun () => []
  | .memory =>
    .ok [⟨.warn, "banners_server::server", "Using in-memory storage, data is lost on restart"⟩]

def openCache (s : Settings) (c : Connections) : Except StartupError (List Log.Line) :=
  if s.redis.enabled then
    (c.sharedCache.mapError .sharedCache).map fun () =>
      [⟨.info, "banners_server::cache::redis", "Connected to Redis"⟩]
  else .ok [⟨.info, "banners_server::cache", "Redis disabled, using local banner cache"⟩]

def adminLines (b : Settings.Bootstrap) (created : Bool) : List Log.Line :=
  match b.adminUser with
  | none => []
  | some _ =>
    [⟨.info, "banners_server::bootstrap",
      if created then "Admin user created" else "Admin user already exists, skipping"⟩]

def start (s : Settings) (c : Connections) :
    Action (List Log.Line × Except StartupError Unit) := do
  match openStore s c with
  | .error e => return ([], .error e)
  | .ok told =>
    match openCache s c with
    | .error e => return (told, .error e)
    | .ok more =>
      match ← bootstrap s.bootstrap with
      | .error e => return (told ++ more, .error (.admin e))
      | .ok created =>
        return (told ++ more ++ adminLines s.bootstrap created
          ++ [⟨.info, "banners_server::server", "Storage initialized"⟩], .ok ())

end Billboard.Service
