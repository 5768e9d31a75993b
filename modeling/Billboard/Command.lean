import Billboard.Lifecycle
import Billboard.Service.Startup
import Billboard.Settings.Dotenv
import Billboard.Settings.Load

/-! The command that runs the server. Its exit code says which of its steps went wrong. -/

namespace Billboard.Command

inductive Source where
  | argument
  | variable
  | default
deriving DecidableEq, Repr

def Source.name : Source → String
  | .argument => "CLI argument (--config)"
  | .variable => "environment variable (BANNERS_CONFIG)"
  | .default => "default"

def configArgument? : List String → Option String
  | [] => none
  | [_] => none
  | a :: b :: rest => if a = "--config" then some b else configArgument? (b :: rest)

def settingsFile (args : List String) (env : List (String × String)) : String × Source :=
  match configArgument? args with
  | some path => (path, .argument)
  | none =>
    match env.lookup "BANNERS_CONFIG" with
    | some path => if path = "" then ("banners.toml", .default) else (path, .variable)
    | none => ("banners.toml", .default)

structure Invocation where
  args : List String := []
  env : List (String × String) := []
  file? : String → Option String := fun _ => none

def Invocation.variables (i : Invocation) : List (String × String) × Bool :=
  match i.file? ".env" with
  | none => (i.env, true)
  | some text => Settings.Dotenv.extend i.env text

def filterVariable : String := "RUST_LOG"

def earlyFilter (env : List (String × String)) : Log.Filter :=
  ((env.lookup filterVariable).bind Log.Filter.read?).getD (.upTo "info")

def lateFilter (env : List (String × String)) (s : Settings) : Log.Filter :=
  if (env.lookup filterVariable).isSome then earlyFilter env else .upTo s.logging.levelName

structure Complaint where
  text : String
  detail : Option String := none
deriving DecidableEq, Repr

def Complaint.line (c : Complaint) : String :=
  match c.detail with
  | none => c.text
  | some detail => c.text ++ ": " ++ detail

structure Report where
  exit : Nat
  log : List Log.Line
  errors : List Complaint
deriving DecidableEq, Repr

structure Prepared where
  settings : Settings
  filter : Log.Filter
  log : List Log.Line
  errors : List Complaint

def dotenvWarning : Complaint := ⟨"Warning: Failed to load .env file", some "a line is malformed"⟩

def loadFailure (e : Settings.LoadError) : Complaint :=
  let text := "Configuration error: "
  match e with
  | .build => ⟨text ++ "config build error", some "the file cannot be read"⟩
  | .misfit path =>
    ⟨text ++ "config deserialize error", some ("the value of " ++ Json.pathText path ++ " is unfit")⟩
  | .invalid reason => ⟨text ++ reason, none⟩

def startFailure (e : Service.StartupError) : Complaint :=
  ⟨"Server initialization failed: " ++ e.step, some e.cause⟩

def bindFailure (s : Settings) (cause : String) : Complaint :=
  ⟨"Server error: failed to bind " ++ s.addressText, some cause⟩

def servingFailure (reason : String) : Complaint := ⟨"Server error: " ++ reason, none⟩

def prepare (i : Invocation) : Except Report Prepared :=
  let (env, sound) := i.variables
  let warnings := if sound then [] else [dotenvWarning]
  let (path, source) := settingsFile i.args env
  match Settings.load ((i.file? path).map fun text => ⟨path, text⟩) env with
  | .error e => .error ⟨2, [], warnings ++ [loadFailure e]⟩
  | .ok s =>
    let line : Log.Line := ⟨.info, "banners_server",
      "Configuration loaded path=" ++ path ++ " source=" ++ source.name⟩
    .ok ⟨s, lateFilter env s, [line].filter (earlyFilter env).admits, warnings⟩

namespace Prepared

def tell (p : Prepared) (lines : List Log.Line) : Prepared :=
  { p with log := p.log ++ lines.filter p.filter.admits }

def fail (p : Prepared) (exit : Nat) (complaint : Complaint) : Report :=
  ⟨exit, p.log, p.errors ++ [complaint]⟩

def report (p : Prepared) (outcome : Except String Unit) : Report :=
  match outcome with
  | .ok () => ⟨0, p.log, p.errors⟩
  | .error reason => p.fail 1 (servingFailure reason)

def lifecycle (p : Prepared) : Lifecycle := { refresh := { period := p.settings.cache.ttl * 1000 } }

def serve (p : Prepared) (bind : Option String) (events : List Lifecycle.Event) : Option Report :=
  match bind with
  | some cause => some (p.fail 1 (bindFailure p.settings cause))
  | none =>
    let (last, lines) := p.lifecycle.run events
    last.outcome?.map (p.tell lines).report

def run (p : Prepared) (c : Service.Connections) (bind : Option String)
    (events : List Lifecycle.Event) : Action (Option Report) := do
  let (told, started) ← Service.start p.settings c
  match started with
  | .error e => return some ((p.tell told).fail 2 (startFailure e))
  | .ok () => return (p.tell told).serve bind events

end Prepared

end Billboard.Command
