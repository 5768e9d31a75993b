import Billboard.Text.Numeral
import Billboard.Text.Split

namespace Billboard.Net

open Text

inductive Address where
  | v4 (bytes : List Nat)
  | v6 (groups : List Nat)
deriving DecidableEq, Repr

namespace Address

def any : Address := .v4 [0, 0, 0, 0]

def octet? (cs : List Char) : Option Nat :=
  if cs = [] ∨ 3 < cs.length ∨ !cs.all isDigit ∨ (cs.head? = some '0' ∧ 1 < cs.length) then none
  else
    let n := valueOfDigits 0 cs
    if n < 256 then some n else none

def readV4 (cs : List Char) : Option (List Nat) :=
  match splitAt '.' cs with
  | [a, b, c, d] => [a, b, c, d].mapM octet?
  | _ => none

def group? (cs : List Char) : Option Nat :=
  if cs = [] ∨ 4 < cs.length then none
  else (cs.mapM hexValue?).map fun ds => ds.foldl (fun n d => n * 16 + d) 0

def readGroups : List (List Char) → Option (List Nat)
  | [] => some []
  | [last] =>
    match group? last with
    | some g => some [g]
    | none =>
      match readV4 last with
      | some [a, b, c, d] => some [a * 256 + b, c * 256 + d]
      | _ => none
  | piece :: rest => do
    let g ← group? piece
    let gs ← readGroups rest
    return g :: gs

def readPart (cs : List Char) : Option (List Nat) :=
  if cs = [] then some [] else readGroups (splitAt ':' cs)

def cutDouble : List Char → Option (List Char × List Char)
  | ':' :: ':' :: rest => some ([], rest)
  | c :: rest => (cutDouble rest).map fun (l, r) => (c :: l, r)
  | [] => none

def readV6 (cs : List Char) : Option (List Nat) :=
  match cutDouble cs with
  | none => do
    let gs ← readGroups (splitAt ':' cs)
    if gs.length = 8 then some gs else none
  | some (l, r) => do
    -- decimal numbers end an address, so they do not stand before the double colon
    if '.' ∈ l then none
    let left ← readPart l
    let right ← readPart r
    let n := left.length + right.length
    if n < 8 then some (left ++ List.replicate (8 - n) 0 ++ right) else none

def read? (s : String) : Option Address :=
  match readV4 s.toList with
  | some bytes => some (.v4 bytes)
  | none => (readV6 s.toList).map .v6

def hexText (n : Nat) : String := String.ofList (Nat.toDigits 16 n)

def longestZeros (gs : List Nat) : Nat × Nat :=
  (List.range gs.length).foldl (fun best i =>
    let n := ((gs.drop i).takeWhile (· == 0)).length
    if best.2 < n then (i, n) else best) (0, 0)

def colonText (gs : List Nat) : String := String.intercalate ":" (gs.map hexText)

def text : Address → String
  | .v4 bytes => String.intercalate "." (bytes.map natText)
  | .v6 gs =>
    match gs with
    | [0, 0, 0, 0, 0, 0xFFFF, p, q] =>
      "::ffff:" ++ String.intercalate "." ([p / 256, p % 256, q / 256, q % 256].map natText)
    | _ =>
      let (start, n) := longestZeros gs
      if 1 < n then colonText (gs.take start) ++ "::" ++ colonText (gs.drop (start + n))
      else colonText gs

def textWithPort (a : Address) (port : Nat) : String :=
  match a with
  | .v4 _ => a.text ++ ":" ++ natText port
  | .v6 _ => "[" ++ a.text ++ "]:" ++ natText port

end Address

end Billboard.Net
