import Billboard.Settings.Merge
import Billboard.Text.Split

namespace Billboard.Ini

open Text
open Settings (Tree Members)

def letterEscape : Char → Char
  | '0' => '\x00'
  | 'a' => '\x07'
  | 'b' => '\x08'
  | 't' => '\t'
  | 'r' => '\r'
  | 'n' => '\n'
  | c => c

def readUntil (marks : List Char) (orEnd : Bool) : List Char → Option (List Char × List Char)
  | [] => if orEnd then some ([], []) else none
  | ['\\'] => none
  | '\\' :: 'x' :: a :: b :: c :: d :: rest => do
    let char ← numberedChar? [a, b, c, d]
    let (s, rest) ← readUntil marks orEnd rest
    return (char :: s, rest)
  | '\\' :: '\n' :: rest => readUntil marks orEnd rest
  | '\\' :: e :: rest =>
    if e = 'x' then none
    else (readUntil marks orEnd rest).map fun (s, rest) => (letterEscape e :: s, rest)
  | c :: rest =>
    if c ∈ marks then some ([], c :: rest)
    else (readUntil marks orEnd rest).map fun (s, rest) => (c :: s, rest)

def readText : Nat → Bool → List Char → Option (List Char × List Char)
  | 0, _, _ => none
  | fuel + 1, atFront, cs =>
    let quoted (quote : Char) (rest : List Char) : Option (List Char × List Char) := do
      let (piece, rest) ← readUntil [quote] false rest
      let (more, rest) ← readText fuel false (rest.drop 1)
      return (piece ++ more, rest)
    match cs with
    | '"' :: rest => quoted '"' rest
    | '\'' :: rest => quoted '\'' rest
    | _ => (readUntil ['\n', '\r'] true cs).map fun (s, rest) =>
      (if atFront then trimChars s else (dropBlank s.reverse).reverse, rest)

def skipSpace (cs : List Char) : List Char :=
  cs.dropWhile fun c => isBlank c && c != '\n' && c != '\r'

def skipBlank : Bool → List Char → Bool × List Char
  | begins, [] => (begins, [])
  | begins, c :: rest => if isBlank c then skipBlank (c == '\n') rest else (begins, c :: rest)

inductive Entry where
  | header (name : List Char)
  | setting (key text : List Char)
deriving DecidableEq, Repr

def entries : Nat → Bool → List Char → Option (List Entry)
  | 0, _, _ => none
  | fuel + 1, begins, cs =>
    match skipBlank begins cs with
    | (_, []) => some []
    | (begins, c :: rest) =>
      if c = ';' || c = '#' then
        if begins then entries fuel true ((rest.dropWhile (· != '\n')).drop 1) else none
      else if c = '[' then do
        let (name, rest) ← readUntil ['\r', '\n', ']'] false rest
        if rest.head? ≠ some ']' then none
        let more ← entries fuel false (rest.drop 1)
        return .header (trimChars name) :: more
      else do
        let (key, rest) ← readUntil ['=', ':'] false (c :: rest)
        let key := trimChars key
        if key = [] then none
        let (text, rest) ← readText (cs.length + 1) true (skipSpace (rest.drop 1))
        let more ← entries fuel false rest
        return .setting key text :: more

def gather (top : Members) : Option (String × Members) → List Entry → Members
  | none, [] => top
  | some (name, ms), [] => top.set name (.table ms)
  | none, .setting key text :: rest =>
    gather (top.set (String.ofList key) (.text (String.ofList text))) none rest
  | some (name, ms), .setting key text :: rest =>
    gather top (some (name, ms.set (String.ofList key) (.text (String.ofList text)))) rest
  | none, .header name :: rest => gather top (some (String.ofList name, [])) rest
  | some (old, ms), .header name :: rest =>
    gather (top.set old (.table ms)) (some (String.ofList name, [])) rest

def read? (s : String) : Option Members :=
  (entries (s.length + 1) true s.toList).map (gather [] none)

end Billboard.Ini
