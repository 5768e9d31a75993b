import Billboard.Command
import Billboard.Deployment
import Std.Async
import Std.Http
import Std.Internal.UV.System
import Std.Time

/-! The command as a program. It has no client for a database or a shared cache, and answers
settings that want one as if it could not be reached. -/

namespace Billboard.Main

open Std.Async

def present : IO Clock.Timestamp := do
  let d := (← Std.Time.Timestamp.now).toDurationSinceUnixEpoch
  return ⟨d.second.val, d.nano.val.toNat⟩

def randomNat (size : Nat) : IO Nat := do
  let bytes ← IO.getRandomBytes size.toUSize
  return bytes.data.foldl (fun n b => n * 256 + b.toNat) 0

def randomSalt : IO (Vector UInt8 16) := do
  let bytes ← IO.getRandomBytes 16
  return Vector.ofFn fun i => bytes.data.getD i.val 0

def readFile? (name : String) : IO (Option String) := do
  match ← (IO.FS.readFile name).toBaseIO with
  | .ok text => return some text
  | .error (.noFileOrDirectory ..) => return none
  | .error e => throw e

def write (filter : Log.Filter) (lines : List Log.Line) : IO Unit := do
  for l in lines.filter filter.admits do
    let time := (← present).toMicros.text
    IO.println (time ++ " " ++ l.level.name ++ " " ++ l.part ++ ": " ++ l.message)

def complain (complaints : List Command.Complaint) : IO Unit :=
  complaints.forM fun c => IO.eprintln c.line

structure Host where
  context : Http.Context
  timeout : Nat
  beginning : Nat
  deployment : Std.Mutex Deployment

def Host.update (h : Host) (d : Deployment) : IO Deployment := do
  let now := (← IO.monoMsNow) - h.beginning
  return { (d.sleepUntil now) with
    present := ← present, salt := ← randomSalt, turn := ← randomNat 16 }

def Host.answer (h : Host) (r : Http.Request) : IO Http.Response :=
  h.deployment.atomically do
    let d ← h.update (← get)
    let (response, d) := d.request h.context h.timeout r
    set d
    return response

partial def readBody (limit : Nat) (stream : Std.Http.Body.Stream) (read : ByteArray) :
    Async ByteArray := do
  if limit < read.size then return read
  match ← stream.recv with
  | none => return read
  | some chunk => readBody limit stream (read ++ chunk.data)

def requestOf (limit : Nat) (r : Std.Http.Request Std.Http.Body.Stream) : Async Http.Request := do
  let (path, query) := Http.splitTarget (toString r.line.uri).toList
  return {
    method := .ofName (toString r.line.method)
    path := path
    query := query
    headers := r.line.headers.toList.map fun (name, value) => (name.value, value.value)
    body := ← readBody limit r.body .empty }

def responseOf (r : Http.Response) : Async (Std.Http.Response Std.Http.Body.Any) := do
  let status := (Std.Http.Status.ofCode none r.status.toUInt16).getD .internalServerError
  let builder := r.headers.foldl (fun (b : Std.Http.Response.Builder) (name, value) =>
    (b.header? name value).getD b) (Std.Http.Response.withStatus status)
  return builder.body (.ofBody (← Std.Http.Body.Full.ofString r.body))

def Host.handler (h : Host) : Std.Http.Server.StatelessHandler :=
  Std.Http.Server.Handler.ofFn fun r => do
    let request ← requestOf h.context.bodyLimit r
    responseOf (← h.answer request)

def socketAddress (s : Settings) : Std.Net.SocketAddress :=
  let port := s.server.port.toUInt16
  match s.address with
  | .v4 bytes =>
    let b (i : Nat) : UInt8 := (bytes.getD i 0).toUInt8
    .v4 ⟨.ofParts (b 0) (b 1) (b 2) (b 3), port⟩
  | .v6 groups =>
    let g (i : Nat) : UInt16 := (groups.getD i 0).toUInt16
    .v6 ⟨.ofParts (g 0) (g 1) (g 2) (g 3) (g 4) (g 5) (g 6) (g 7), port⟩

def waitForSignal : Async Unit := do
  let interrupt ← Signal.Waiter.mk .sigint false
  let terminate ← Signal.Waiter.mk .sigterm false
  Selectable.one #[.case interrupt.selector pure, .case terminate.selector pure]

def drain (server : Std.Http.Server) (grace : Nat) : Async Lifecycle.Event := do
  server.shutdown
  Selectable.one #[
    .case server.waitShutdownSelector fun () => pure (.servingEnds .finished),
    .case (← Selector.sleep (.ofNat grace)) fun () => pure .graceEnds]

def note (filter : Log.Filter) (s : Lifecycle) (e : Lifecycle.Event) : IO Lifecycle := do
  let (s, lines) := s.run [e]
  write filter lines
  return s

def serve (p : Command.Prepared) (h : Host) : Async UInt32 := do
  let config : Std.Http.Config := { maxBodySize := h.context.bodyLimit + 65536, serverName := none }
  let server ← try Std.Http.Server.serve (socketAddress p.settings) h.handler config catch e =>
    complain [Command.bindFailure p.settings (toString e)]
    return 1
  write p.filter [Lifecycle.serverLine .info ("listening on " ++ p.settings.addressText)]
  let s ← note p.filter p.lifecycle (.refresh (.tick 0))
  h.deployment.atomically (modify fun d => d.startRefresh (p.settings.cache.ttl * 1000))
  waitForSignal
  let s ← note p.filter s .signal
  let s ← note p.filter s (← drain server p.settings.server.shutdownGrace)
  h.deployment.atomically (modify fun d => d.stopRefresh.2)
  let s ← note p.filter s (.refresh .notice)
  h.deployment.atomically (modify fun d => (Deployment.run Service.shutdown d).2)
  let s ← note p.filter s .storeCloses
  match s.outcome? with
  | some (.error reason) =>
    complain [Command.servingFailure reason]
    return 1
  | _ => return 0

def connections : Service.Connections where
  database := .error (.connection "no client for a database")
  sharedCache := .error (.backend "no client for a shared cache")

def runPrepared (p : Command.Prepared) : IO UInt32 := do
  complain p.errors
  write [{ limit := Log.Level.trace.rank }] p.log
  let beginning ← IO.monoMsNow
  let d : Deployment :=
    { present := ← present, salt := ← randomSalt, cache := { ttl := p.settings.cache.ttl * 1000 } }
  let ((told, started), d) := Deployment.run (Service.start p.settings connections) d
  write p.filter told
  match started with
  | .error e =>
    complain [Command.startFailure e]
    return 2
  | .ok () =>
    let auth := p.settings.auth
    let server := p.settings.server
    let h : Host := ⟨⟨.new auth.secret auth.tokenTtl, server.bodyLimit⟩, server.requestTimeout,
      beginning, ← Std.Mutex.new d⟩
    (serve p h).block

end Billboard.Main

open Billboard Billboard.Main in
def main (args : List String) : IO UInt32 := do
  let env := (← Std.Internal.UV.System.osEnviron).toList
  let dotenv ← readFile? ".env"
  let known : Command.Invocation := ⟨args, env, fun name => if name = ".env" then dotenv else none⟩
  let (path, _) := Command.settingsFile args known.variables.1
  let file ← readFile? path
  let whole := { known with file? := fun name => if name = path then file else known.file? name }
  match Command.prepare whole with
  | .error report =>
    complain report.errors
    return report.exit.toUInt32
  | .ok p => runPrepared p
