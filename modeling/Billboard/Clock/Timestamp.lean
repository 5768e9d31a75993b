import Billboard.Clock.Calendar
import Billboard.Json.Shape
import Billboard.Text.Split
import Billboard.Text.Numeral

/-! Points in time with their RFC 3339 text, which is read more freely than it is written. -/

namespace Billboard.Clock

open Text

/-- A point in time: whole seconds since 1970 in UTC, and nanoseconds. A leap second counts as the
second before it with `10^9` nanoseconds and more. -/
structure Timestamp where
  seconds : Int
  nanos : Nat
deriving DecidableEq, Repr, Inhabited

namespace Timestamp

def toMicros (t : Timestamp) : Timestamp := ⟨t.seconds, t.nanos / 1000 * 1000⟩

def writeYear (y : Int) : List Char :=
  if 0 ≤ y ∧ y ≤ 9999 then padded 4 y.toNat
  else if y < 0 then '-' :: padded 4 y.natAbs
  else '+' :: padded 4 y.natAbs

def writeFraction (nanos : Nat) : List Char :=
  if nanos = 0 then []
  else if nanos % 1000000 = 0 then '.' :: padded 3 (nanos / 1000000)
  else if nanos % 1000 = 0 then '.' :: padded 6 (nanos / 1000)
  else '.' :: padded 9 nanos

def write (t : Timestamp) : List Char :=
  let date := dateOfDay (t.seconds / 86400)
  let time := (t.seconds % 86400).toNat
  let leap := 1000000000 ≤ t.nanos
  let second := if leap then time % 60 + 1 else time % 60
  let nanos := if leap then t.nanos - 1000000000 else t.nanos
  writeYear date.year ++ '-' :: padded 2 date.month ++ '-' :: padded 2 date.day
    ++ 'T' :: padded 2 (time / 3600) ++ ':' :: padded 2 (time / 60 % 60)
    ++ ':' :: padded 2 second ++ writeFraction nanos ++ ['Z']

def text (t : Timestamp) : String := String.ofList t.write

def readDigits (width : Nat) (cs : List Char) : Option (Nat × List Char) :=
  let ds := (cs.takeWhile isDigit).take width
  if ds = [] then none else some (valueOfDigits 0 ds, cs.drop ds.length)

def readField (width : Nat) (cs : List Char) : Option (Nat × List Char) :=
  Timestamp.readDigits width (dropBlank cs)

def readYear (cs : List Char) : Option (Int × List Char) :=
  match dropBlank cs with
  | '-' :: r => (Timestamp.readDigits 19 r).map fun (n, r) => (-(n : Int), r)
  | '+' :: r => (Timestamp.readDigits 19 r).map fun (n, r) => ((n : Int), r)
  | r => (Timestamp.readDigits 4 r).map fun (n, r) => ((n : Int), r)

def readMark (c : Char) (cs : List Char) : Option (List Char) :=
  match dropBlank cs with
  | d :: r => if c = d then some r else none
  | [] => none

def readFraction (cs : List Char) : Option (Nat × List Char) :=
  match cs with
  | '.' :: r =>
    let ds := (r.takeWhile isDigit).take 9
    if ds = [] then none
    else some (valueOfDigits 0 ds * Nat.pow 10 (9 - ds.length), r.dropWhile isDigit)
  | r => some (0, r)

def readOffset (cs : List Char) : Option (Int × List Char) :=
  match cs with
  | 'Z' :: r | 'z' :: r => some (0, r)
  | sign :: h :: k :: r =>
    if sign = '+' ∨ sign = '-' ∨ sign = '−' then
      match digitValue? h, digitValue? k with
      | some h, some k =>
        match r.dropWhile (fun c => c = ':' || isBlank c) with
        | m :: n :: r =>
          match digitValue? m, digitValue? n with
          | some m, some n =>
            if m ≤ 5 then
              let minutes : Int := (h * 10 + k) * 60 + (m * 10 + n)
              some (if sign = '+' then minutes else -minutes, r)
            else none
          | _, _ => none
        | _ => none
      | _, _ => none
    else none
  | _ => none

def readZone (cs : List Char) : Option (Int × List Char) :=
  match cs with
  | a :: b :: c :: r =>
    if a.toUpper = 'U' ∧ b.toUpper = 'T' ∧ c.toUpper = 'C' then some (0, r) else readOffset cs
  | _ => readOffset cs

def yearLimit : Int := 262142

def ofFields (date : Date) (hour minute second nanos : Nat) (offset : Int) : Option Timestamp :=
  if -yearLimit - 1 ≤ date.year ∧ date.year ≤ yearLimit ∧ date.valid
      ∧ hour < 24 ∧ minute < 60 ∧ second ≤ 60 ∧ -1440 < offset ∧ offset < 1440 then
    let whole := if second = 60 then 59 else second
    let part := if second = 60 then nanos + 1000000000 else nanos
    let clock : Int := ((hour * 60 + minute) * 60 + whole : Nat)
    some ⟨date.dayNumber * 86400 + clock - offset * 60, part⟩
  else none

def read? (cs : List Char) : Option Timestamp := do
  let (year, r) ← readYear cs
  let r ← readMark '-' r
  let (month, r) ← readField 2 r
  let r ← readMark '-' r
  let (day, r) ← readField 2 r
  let r ← match r with
    | c :: r => if c = 'T' ∨ c = 't' ∨ c = ' ' then some r else none
    | [] => none
  let (hour, r) ← readField 2 r
  let r ← readMark ':' r
  let (minute, r) ← readField 2 r
  let r ← readMark ':' r
  let (second, r) ← readField 2 r
  let (nanos, r) ← readFraction r
  let (offset, r) ← readZone (dropBlank r)
  if dropBlank r = [] then ofFields ⟨year, month, day⟩ hour minute second nanos offset else none

def ofText? (s : String) : Option Timestamp := read? s.toList

def toJson (t : Timestamp) : Json := .str t.text

def reader : Json.Reader Timestamp := fun b cs =>
  match Json.stringAs "an RFC 3339 formatted date and time string" b cs with
  | .error e => .error e
  | .ok (s, r) =>
    match ofText? s with
    | some t => .ok (t, r)
    | none => .error (.data [] .badTimestamp)

end Timestamp

end Billboard.Clock
