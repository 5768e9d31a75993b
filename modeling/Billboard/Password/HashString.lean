import Billboard.Text.Base64
import Billboard.Text.Numeral
import Billboard.Text.Split

/-! Hash strings: algorithm, version, parameters, salt and hash, each but the first optional from
the back. -/

namespace Billboard.Password

open Text

structure HashString where
  algorithm : List Char
  version : Option Nat := none
  params : List (List Char × List Char) := []
  salt : Option (List Char) := none
  hash : Option (List UInt8) := none
deriving DecidableEq, Repr

namespace HashString

def isNameChar (c : Char) : Bool :=
  ('a' ≤ c && c ≤ 'z') || ('0' ≤ c && c ≤ '9') || c == '-'

def isValueChar (c : Char) : Bool :=
  ('A' ≤ c && c ≤ 'Z') || ('a' ≤ c && c ≤ 'z') || ('0' ≤ c && c ≤ '9')
    || c == '/' || c == '+' || c == '.' || c == '-'

def isName (cs : List Char) : Bool := 1 ≤ cs.length && cs.length ≤ 32 && cs.all isNameChar

def isValue (cs : List Char) : Bool := cs.length ≤ 64 && cs.all isValueChar

def decimal? (cs : List Char) : Option Nat :=
  if cs = [] ∨ !cs.all isDigit ∨ (cs.head? = some '0' ∧ 1 < cs.length) then none
  else
    let n := valueOfDigits 0 cs
    if n < 0x100000000 then some n else none

def readParam (cs : List Char) : Option (List Char × List Char) :=
  match splitAt '=' cs with
  | [name, value] => if isName name && isValue value then some (name, value) else none
  | _ => none

def readParams (cs : List Char) : Option (List (List Char × List Char)) :=
  if 127 < (String.ofList cs).utf8ByteSize then none else (splitAt ',' cs).mapM readParam

def readSalt (cs : List Char) : Option (List Char) :=
  if 4 ≤ cs.length && isValue cs then some cs else none

def readHash (cs : List Char) : Option (List UInt8) := do
  let bytes ← Base64.standard.decode? cs
  if 10 ≤ bytes.length ∧ bytes.length ≤ 64 then some bytes else none

def takeVersion : List (List Char) → Option (Option Nat × List (List Char))
  | ('v' :: '=' :: digits) :: rest =>
    if ',' ∈ digits then some (none, ('v' :: '=' :: digits) :: rest)
    else (decimal? digits).map fun v => (some v, rest)
  | fields => some (none, fields)

def takeParams : List (List Char) → Option (List (List Char × List Char) × List (List Char))
  | field :: rest =>
    if '=' ∈ field then (readParams field).map fun ps => (ps, rest) else some ([], field :: rest)
  | [] => some ([], [])

def readEnd : List (List Char) → Option (Option (List Char) × Option (List UInt8))
  | [] => some (none, none)
  | [salt] => (readSalt salt).map fun salt => (some salt, none)
  | [salt, hash] => do
    let salt ← readSalt salt
    let hash ← readHash hash
    some (some salt, some hash)
  | _ => none

def read? (cs : List Char) : Option HashString :=
  match splitAt '$' cs with
  | [] :: algorithm :: fields => do
    if !isName algorithm then none
    let (version, fields) ← takeVersion fields
    let (params, fields) ← takeParams fields
    let (salt, hash) ← readEnd fields
    some ⟨algorithm, version, params, salt, hash⟩
  | _ => none

def writeParam (p : List Char × List Char) : List Char := p.1 ++ '=' :: p.2

def write (h : HashString) : List Char :=
  '$' :: h.algorithm
    ++ (match h.version with
        | some v => ['$', 'v', '='] ++ natDigits v
        | none => [])
    ++ (if h.params = [] then []
        else '$' :: List.intercalate [','] (h.params.map writeParam))
    ++ (match h.salt with
        | some s => '$' :: s
        | none => [])
    ++ (match h.hash with
        | some b => '$' :: Base64.standard.encode b
        | none => [])

end HashString

end Billboard.Password
