import Billboard.Decimal.Reading
import Billboard.Settings.Tree

namespace Billboard.Yaml

open Text
open Settings (Tree)

def singleTail : List Char → Option (List Char × List Char)
  | [] => none
  | '\'' :: '\'' :: rest => (singleTail rest).map fun (s, r) => ('\'' :: s, r)
  | '\'' :: rest => some ([], rest)
  | c :: rest => (singleTail rest).map fun (s, r) => (c :: s, r)

def letterEscape? : Char → Option Char
  | '0' => some '\x00'
  | 'a' => some '\x07'
  | 'b' => some '\x08'
  | 't' => some '\t'
  | 'n' => some '\n'
  | 'v' => some '\x0b'
  | 'f' => some '\x0c'
  | 'r' => some '\r'
  | 'e' => some '\x1b'
  | ' ' => some ' '
  | '"' => some '"'
  | '/' => some '/'
  | '\\' => some '\\'
  | 'N' => some '\u0085'
  | '_' => some '\u00a0'
  | 'L' => some '\u2028'
  | 'P' => some '\u2029'
  | _ => none

def escapeWidth : Char → Nat
  | 'x' => 2
  | 'u' => 4
  | 'U' => 8
  | _ => 0

def doubleTail : Nat → List Char → Option (List Char × List Char)
  | 0, _ => none
  | _, [] => none
  | fuel + 1, '\\' :: e :: rest =>
    match escapeWidth e with
    | 0 => do
      let c ← letterEscape? e
      let (s, r) ← doubleTail fuel rest
      return (c :: s, r)
    | width => do
      if rest.length < width then none
      else
        let c ← numberedChar? (rest.take width)
        let (s, r) ← doubleTail fuel (rest.drop width)
        return (c :: s, r)
  | fuel + 1, c :: rest =>
    if c = '"' then some ([], rest) else (doubleTail fuel rest).map fun (s, r) => (c :: s, r)

def valueInBase (base : Nat) (cs : List Char) : Option Nat :=
  if cs = [] then none
  else
    cs.foldl (fun n c => n.bind fun n =>
      (hexValue? c).bind fun d => if d < base then some (n * base + d) else none) (some 0)

def integer? (cs : List Char) : Option Int :=
  let based (base : Nat) (ds : List Char) : Option Int :=
    (valueInBase base ds).bind fun n => if IntRange.i64.contains n then some (n : Int) else none
  match cs with
  | '0' :: 'x' :: ds => based 16 ds
  | '0' :: 'o' :: ds => based 8 ds
  | _ => (readInt .i64 cs).toOption

def float? (cs : List Char) : Option Decimal.Binary64 :=
  match String.ofList cs with
  | ".inf" | ".Inf" | ".INF" | "+.inf" | "+.Inf" | "+.INF" => some .infinity
  | "-.inf" | "-.Inf" | "-.INF" => some (Decimal.Binary64.infinity.withSign true)
  | ".nan" | ".NaN" | ".NAN" => some Decimal.notANumber
  | _ => if cs.any isDigit then Decimal.readNumber cs else none

def plainValue (cs : List Char) : Tree :=
  let s := String.ofList cs
  if ["", "~", "null"].contains s then .nil
  else if ["true", "True", "TRUE"].contains s then .bool true
  else if ["false", "False", "FALSE"].contains s then .bool false
  else
    match integer? cs with
    | some i => .int i
    | none =>
      match float? cs with
      | some x => .float x
      | none => .text s

def indicators : List Char := "[]\x7b\x7d,&*#!|>@%\x60\"'".toList

def startsPlain (c : Char) (rest : List Char) : Bool :=
  if c ∈ ['-', '?', ':'] then
    match rest with
    | [] => false
    | d :: _ => d != ' '
  else !indicators.contains c

end Billboard.Yaml
