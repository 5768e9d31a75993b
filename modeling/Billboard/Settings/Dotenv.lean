import Billboard.Text.Split

/-! Files of variables. What stands before the first faulty line counts all the same. -/

namespace Billboard.Settings.Dotenv

open Text

inductive LineState where
  | plain
  | blank
  | escaped
  | single
  | singleEscaped
  | double
  | doubleEscaped
deriving DecidableEq, Repr

namespace LineState

def opened : Char → LineState
  | '\\' => .escaped
  | '"' => .double
  | '\'' => .single
  | _ => .plain

def next? : LineState → Char → Option LineState
  | .plain, c => some (if isBlank c && c != '\n' && c != '\r' then .blank else opened c)
  | .blank, c => if c = '#' then none else some (opened c)
  | .escaped, _ => some .plain
  | .single, c => some (if c = '\\' then .singleEscaped else if c = '\'' then .plain else .single)
  | .singleEscaped, _ => some .single
  | .double, c => some (if c = '\\' then .doubleEscaped else if c = '"' then .plain else .double)
  | .doubleEscaped, _ => some .double

def scan : LineState → List Char → List Char × Option LineState
  | s, [] => ([], some s)
  | s, c :: cs =>
    match s.next? c with
    | none => ([], none)
    | some t =>
      let (read, last) := scan t cs
      (c :: read, last)

end LineState

def pieces : List Char → List (List Char)
  | [] => []
  | '\n' :: cs => ['\n'] :: pieces cs
  | c :: cs =>
    match pieces cs with
    | [] => [[c]]
    | p :: rest => (c :: p) :: rest

def join : LineState → List Char → List (List Char) → List (List Char) × Bool
  | s, _, [] => ([], s = .plain)
  | s, begun, p :: rest =>
    if (dropBlank (begun ++ p)).head? = some '#' then join .plain [] rest
    else
      let (read, last) := s.scan p
      match last with
      | some .plain =>
        let (lines, ended) := join .plain [] rest
        ((begun ++ read) :: lines, ended)
      | none =>
        let (lines, ended) := join .plain [] rest
        ((begun ++ read) :: lines, ended)
      | some t => join t (begun ++ read) rest

abbrev Variables := List (String × String)

def valueOf (env : Variables) (name : List Char) : List Char :=
  ((env.lookup (String.ofList name)).getD "").toList

inductive ValueState where
  | bare (double : Bool)
  | single
  | escaped (double : Bool)
  | name (double : Bool) (cs : List Char)
  | braced (double : Bool) (cs : List Char)
  | ended
deriving DecidableEq, Repr

def readFrom (env : Variables) : ValueState → List Char → Option (List Char)
  | .bare false, [] => some []
  | .escaped false, [] => some []
  | .name false cs, [] => some (valueOf env cs)
  | .ended, [] => some []
  | _, [] => none
  | .ended, c :: rest =>
    if c = ' ' ∨ c = '\t' then readFrom env .ended rest
    else if c = '#' then some []
    else none
  | .escaped d, c :: rest =>
    if c = 'n' then (readFrom env (.bare d) rest).map ('\n' :: ·)
    else if c ∈ ['\\', '\'', '"', '$', ' '] then (readFrom env (.bare d) rest).map (c :: ·)
    else none
  | .single, c :: rest =>
    if c = '\'' then readFrom env (.bare false) rest
    else (readFrom env .single rest).map (c :: ·)
  | .name d cs, c :: rest =>
    if c.isAlphanum then readFrom env (.name d (cs ++ [c])) rest
    else if c = '{' ∧ cs = [] then readFrom env (.braced d []) rest
    else if c = '$' then (readFrom env (.name d []) rest).map (valueOf env cs ++ ·)
    else (readFrom env (.bare d) rest).map fun v => valueOf env cs ++ c :: v
  | .braced d cs, c :: rest =>
    if c = '}' then (readFrom env (.bare d) rest).map (valueOf env cs ++ ·)
    else readFrom env (.braced d (cs ++ [c])) rest
  | .bare d, c :: rest =>
    if c = '$' then readFrom env (.name d []) rest
    else if c = '\\' then readFrom env (.escaped d) rest
    else if c = '"' then readFrom env (.bare (!d)) rest
    else if d then (readFrom env (.bare d) rest).map (c :: ·)
    else if c = '\'' then readFrom env .single rest
    else if c = ' ' ∨ c = '\t' then readFrom env .ended rest
    else (readFrom env (.bare d) rest).map (c :: ·)

def readValue (env : Variables) (cs : List Char) : Option (List Char) :=
  readFrom env (.bare false) cs

def isNameStart (c : Char) : Bool := c.isAlpha || c == '_'

def isNameChar (c : Char) : Bool := c.isAlphanum || c == '_' || c == '.'

def readName (cs : List Char) : Option (List Char × List Char) :=
  match cs with
  | c :: _ =>
    if isNameStart c then
      let name := cs.takeWhile isNameChar
      some (name, dropBlank (cs.drop name.length))
    else none
  | [] => none

def readTarget (cs : List Char) : Option (List Char × List Char) := do
  let (name, rest) ← readName cs
  match rest with
  | '=' :: value => return (name, value)
  | _ =>
    if name = "export".toList then
      let (name, rest) ← readName rest
      match rest with
      | '=' :: value => return (name, value)
      | _ => none
    else none

def readLine (env : Variables) (line : List Char) : Option (Option (String × String)) := do
  let cs := trimChars line
  if cs = [] ∨ cs.head? = some '#' then return none
  let (name, rest) ← readTarget cs
  let rest := dropBlank rest
  if rest = [] ∨ rest.head? = some '#' then return some (String.ofList name, "")
  let value ← readValue env rest
  return some (String.ofList name, String.ofList value)

def define (env : Variables) (name value : String) : Variables :=
  if (env.lookup name).isSome then env else env ++ [(name, value)]

def defineAll (env : Variables) : List (List Char) → Variables × Bool
  | [] => (env, true)
  | l :: rest =>
    match readLine env l with
    | none => (env, false)
    | some none => defineAll env rest
    | some (some (name, value)) => defineAll (define env name value) rest

def extend (env : Variables) (file : String) : Variables × Bool :=
  let text := match file.toList with
    | '\uFEFF' :: cs => cs
    | cs => cs
  let (lines, ended) := join .plain [] (pieces text)
  let (env, sound) := defineAll env lines
  (env, sound && ended)

end Billboard.Settings.Dotenv
