import Billboard.Decimal.Binary64
import Billboard.Text.Numeral

namespace Billboard.Settings

open Decimal (Binary64)
open Text

inductive Tree where
  | nil
  | bool (b : Bool)
  | int (i : Int)
  | float (x : Binary64)
  | text (s : String)
  | list (items : List Tree)
  | table (members : List (String × Tree))
deriving Repr, Inhabited

namespace Tree

def lowerAscii (s : String) : String := String.ofList (s.toList.map Char.toLower)

def floatText (x : Binary64) : String :=
  if x.isNaN then "NaN"
  else if x.isInfinite then (if x.negative then "-inf" else "inf")
  else String.ofList (x.render Binary64.plainLayout)

def toBool? : Tree → Option Bool
  | .bool b => some b
  | .int i => some (i != 0)
  | .float x => some (!x.isZero)
  | .text s =>
    let s := lowerAscii s
    if ["1", "true", "on", "yes"].contains s then some true
    else if ["0", "false", "off", "no"].contains s then some false
    else none
  | _ => none

def toText? : Tree → Option String
  | .bool b => some (if b then "true" else "false")
  | .int i => some (intText i)
  | .float x => some (floatText x)
  | .text s => some s
  | _ => none

/-- The nearest whole number in a range, a half going away from zero. What is out of the range is
moved to its end, and what is no number is zero. -/
def roundInto (r : IntRange) (x : Binary64) : Int :=
  if x.isNaN then 0
  else if x.isInfinite then (if x.negative then r.lo else r.hi)
  else
    let n : Int := ((2 * x.numerator + x.denominator) / (2 * x.denominator) : Nat)
    max r.lo (min r.hi (if x.negative then -n else n))

def toNat? (r : IntRange) (t : Tree) : Option Nat :=
  let word : Option Int := match t with
    | .bool b => some (if b then 1 else 0)
    | .int i => if 0 ≤ i then some i else none
    | .float x => some (roundInto .u64 x)
    | .text s =>
      let l := lowerAscii s
      if ["true", "on", "yes"].contains l then some 1
      else if ["false", "off", "no"].contains l then some 0
      else (readInt .u64 s.toList).toOption
    | _ => none
  word.bind fun i => if r.contains i then some i.toNat else none

end Tree

end Billboard.Settings
