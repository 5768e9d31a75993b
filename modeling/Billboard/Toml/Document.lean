import Billboard.Toml.Quoted
import Billboard.Toml.Table
import Billboard.Toml.Token

namespace Billboard.Toml

open Text
open Settings (Tree)

def isSpace (c : Char) : Bool := c = ' ' || c = '\t'

def skipSpace (cs : List Char) : List Char := cs.dropWhile isSpace

def skipLines : Bool → List Char → Option (List Char)
  | _, [] => some []
  | true, c :: r =>
    if c = '\n' then skipLines false r else if isPlainChar c then skipLines true r else none
  | false, c :: r =>
    if isSpace c || c = '\n' then skipLines false r
    else if c = '#' then skipLines true r
    else some (c :: r)

def endLine : Bool → List Char → Option (List Char)
  | _, [] => some []
  | comment, c :: r =>
    if c = '\n' then some r
    else if comment then (if isPlainChar c then endLine true r else none)
    else if isSpace c then endLine false r
    else if c = '#' then endLine true r
    else none

def isBareChar (c : Char) : Bool := c.isAlphanum || c = '_' || c = '-'

def readKey (cs : List Char) : Option (String × List Char) :=
  match cs with
  | '"' :: r => basicTail [] r
  | '\x27' :: r => literalTail [] r
  | _ =>
    let key := cs.takeWhile isBareChar
    if key.isEmpty then none else some (String.ofList key, cs.dropWhile isBareChar)

def readPath : Nat → List Char → Option (List String × List Char)
  | 0, _ => none
  | fuel + 1, cs => do
    let (key, r) ← readKey (skipSpace cs)
    match skipSpace r with
    | '.' :: r =>
      let (path, r) ← readPath fuel r
      return (key :: path, r)
    | r => return ([key], r)

def isWordChar (c : Char) : Bool := isBareChar c || c = '+' || c = '.' || c = ':'

def splitWord (cs : List Char) : List Char × List Char :=
  let word := cs.takeWhile isWordChar
  let rest := cs.dropWhile isWordChar
  match (readDate word).isSome, rest with
  | true, ' ' :: c :: r =>
    if isDigit c then (word ++ ' ' :: (c :: r).takeWhile isWordChar, (c :: r).dropWhile isWordChar)
    else (word, rest)
  | _, _ => (word, rest)

def wordValue (word : List Char) : Option Tree :=
  if word = "true".toList then some (.bool true)
  else if word = "false".toList then some (.bool false)
  else
    match readInteger word with
    | some i => some (.int i)
    | none =>
      match readFloat word with
      | some x => some (.float x)
      | none => (readMoment word).map fun cs => .text (String.ofList cs)

mutual

def readValue : Nat → List Char → Option (Tree × List Char)
  | 0, _ => none
  | fuel + 1, cs =>
    match cs with
    | '[' :: r => do
      let r ← skipLines false r
      readItems fuel [] r
    | '{' :: r =>
      match skipSpace r with
      | '}' :: r => some (.table [], r)
      | r => readPairs fuel [] r
    | _ =>
      match readString cs with
      | some (s, r) => some (.text s, r)
      | none =>
        let (word, r) := splitWord cs
        (wordValue word).map (·, r)

def readItems : Nat → List Tree → List Char → Option (Tree × List Char)
  | 0, _, _ => none
  | fuel + 1, acc, cs =>
    match cs with
    | ']' :: r => some (.list acc.reverse, r)
    | _ => do
      let (t, r) ← readValue fuel cs
      match ← skipLines false r with
      | ']' :: r => some (.list (t :: acc).reverse, r)
      | ',' :: r =>
        let r ← skipLines false r
        readItems fuel (t :: acc) r
      | _ => none

def readPairs : Nat → Members → List Char → Option (Tree × List Char)
  | 0, _, _ => none
  | fuel + 1, ms, cs => do
    let (path, r) ← readPath fuel cs
    let '=' :: r := r | none
    let (t, r) ← readValue fuel (skipSpace r)
    let ms ← putValue path t false ms
    match skipSpace r with
    | '}' :: r => some (.table (membersToTree ms), r)
    | ',' :: r => readPairs fuel ms r
    | _ => none

end

def readLines : Nat → List String → Members → List Char → Option Members
  | 0, _, _, _ => none
  | fuel + 1, way, root, cs => do
    match ← skipLines false cs with
    | [] => some root
    | '[' :: '[' :: r =>
      let (path, r) ← readPath fuel r
      let ']' :: ']' :: r := r | none
      readLines fuel path (← openNext path root) (← endLine false r)
    | '[' :: r =>
      let (path, r) ← readPath fuel r
      let ']' :: r := r | none
      readLines fuel path (← openTable path root) (← endLine false r)
    | cs =>
      let (path, r) ← readPath fuel cs
      let '=' :: r := r | none
      let (t, r) ← readValue fuel (skipSpace r)
      let root ← changeAt false (fun _ ms => putValue path t false ms) way false root
      readLines fuel way root (← endLine false r)

def lineFeeds : List Char → List Char
  | '\r' :: '\n' :: r => '\n' :: lineFeeds r
  | c :: r => c :: lineFeeds r
  | [] => []

def read? (s : String) : Option (List (String × Tree)) :=
  let cs := match lineFeeds s.toList with
    | '\ufeff' :: r => r
    | cs => cs
  (readLines (2 * cs.length + 2) [] [] cs).map membersToTree

end Billboard.Toml
