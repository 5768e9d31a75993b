import Billboard.Clock.Calendar
import Billboard.Decimal.Reading
import Billboard.Text.Split

namespace Billboard.Toml

open Text
open Decimal (Binary64 DecimalText splitSign)

def ungroup (digit : Char → Bool) (cs : List Char) : Option (List Char) :=
  let pieces := splitAt '_' cs
  if pieces.all fun piece => !piece.isEmpty && piece.all digit then some pieces.flatten else none

def wholeDigits (cs : List Char) : Option (List Char) :=
  match ungroup isDigit cs with
  | some ('0' :: _ :: _) => none
  | r => r

def valueInBase (base : Nat) (cs : List Char) : Nat :=
  cs.foldl (fun n c => n * base + (hexValue? c).getD 0) 0

def isDigitBelow (base : Nat) (c : Char) : Bool :=
  match hexValue? c with
  | some d => d < base
  | none => false

def readBased (base : Nat) (cs : List Char) : Option Int :=
  (ungroup (isDigitBelow base) cs).map fun ds => (valueInBase base ds : Int)

def readInteger (cs : List Char) : Option Int :=
  let value : Option Int := match cs with
    | '0' :: 'x' :: rest => readBased 16 rest
    | '0' :: 'o' :: rest => readBased 8 rest
    | '0' :: 'b' :: rest => readBased 2 rest
    | _ =>
      let (negative, body) := splitSign cs
      (wholeDigits body).map fun ds =>
        let n : Int := valueOfDigits 0 ds
        if negative then -n else n
  value.bind fun i => if IntRange.i64.contains i then some i else none

def exponentValue (cs : List Char) : Option Int :=
  let (negative, body) := splitSign cs
  (ungroup isDigit body).map fun ds =>
    let n : Int := valueOfDigits 0 ds
    if negative then -n else n

def readFloat (cs : List Char) : Option Binary64 :=
  let (negative, body) := splitSign cs
  if body = "inf".toList then some (Binary64.infinity.withSign negative)
  else if body = "nan".toList then some (Decimal.notANumber.withSign negative)
  else
    let mantissa := body.takeWhile fun c => c != 'e' && c != 'E'
    let tail := body.dropWhile fun c => c != 'e' && c != 'E'
    let exponent := match tail with
      | [] => some 0
      | _ :: e => exponentValue e
    let parts := match cutAt '.' mantissa with
      | none => if tail = [] then none else (wholeDigits mantissa).map fun ds => (ds, [])
      | some (whole, decimals) =>
        match wholeDigits whole, ungroup isDigit decimals with
        | some w, some d => some (w, d)
        | _, _ => none
    match parts, exponent with
    | some (whole, decimals), some e =>
      let x := (DecimalText.mk negative whole decimals e).value
      if x.isInfinite then none else some x
    | _, _ => none

def fixedNumber (width lo hi : Nat) (cs : List Char) : Option Nat :=
  if cs.length = width && cs.all isDigit then
    let n := valueOfDigits 0 cs
    if lo ≤ n ∧ n ≤ hi then some n else none
  else none

def readDate (cs : List Char) : Option (List Char) := do
  let [y, m, d] := splitAt '-' cs | none
  let year ← fixedNumber 4 0 9999 y
  let month ← fixedNumber 2 1 12 m
  let day ← fixedNumber 2 1 31 d
  if (Clock.Date.mk year month day).valid then some cs else none

def trimFraction (cs : List Char) : List Char :=
  match ((cs.take 9).reverse.dropWhile (· == '0')).reverse with
  | [] => []
  | ds => '.' :: ds

def readTime (cs : List Char) : Option (List Char) := do
  let [h, m, s] := splitAt ':' cs | none
  let _ ← fixedNumber 2 0 23 h
  let _ ← fixedNumber 2 0 59 m
  let _ ← fixedNumber 2 0 60 (s.takeWhile (· != '.'))
  let whole := h ++ ':' :: m ++ ':' :: s.takeWhile (· != '.')
  match s.dropWhile (· != '.') with
  | [] => some whole
  | _ :: fraction =>
    if fraction.isEmpty || !fraction.all isDigit then none else some (whole ++ trimFraction fraction)

def readOffset (cs : List Char) : Option (List Char) := do
  let [h, m] := splitAt ':' cs | none
  let _ ← fixedNumber 2 0 24 h
  let _ ← fixedNumber 2 0 59 m
  some cs

def readZoned (cs : List Char) : Option (List Char) :=
  let time := cs.takeWhile fun c => c != 'Z' && c != 'z' && c != '+' && c != '-'
  match cs.dropWhile fun c => c != 'Z' && c != 'z' && c != '+' && c != '-' with
  | [] => readTime time
  | ['Z'] | ['z'] => (readTime time).map (· ++ ['Z'])
  | sign :: offset =>
    match readTime time, readOffset offset with
    | some t, some o => if sign = '+' ∨ sign = '-' then some (t ++ sign :: o) else none
    | _, _ => none

def readMoment (cs : List Char) : Option (List Char) :=
  match readDate cs with
  | some d => some d
  | none =>
    match readTime cs with
    | some t => some t
    | none =>
      match cs.drop 10 with
      | mark :: time =>
        if mark = 'T' ∨ mark = 't' ∨ mark = ' ' then
          match readDate (cs.take 10), readZoned time with
          | some d, some t => some (d ++ 'T' :: t)
          | _, _ => none
        else none
      | [] => none

end Billboard.Toml
