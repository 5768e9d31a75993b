import Billboard.Text.Numeral

/-! Binary64 numbers by their bits, read and written exactly over the natural numbers. -/

namespace Billboard.Decimal

open Billboard.Text

structure Binary64 where
  bits : UInt64
deriving DecidableEq, Repr

def roundDiv (num den : Nat) : Nat :=
  let q := num / den
  let r := num % den
  if 2 * r < den then q
  else if den < 2 * r then q + 1
  else q + q % 2

def bitLength (n : Nat) : Nat := if n = 0 then 0 else n.log2 + 1

def scaled (n base : Nat) (exp : Int) : Nat := n * Nat.pow base exp.toNat

namespace Binary64

def signPlace : Nat := 0x8000000000000000

def exponentPlace : Nat := 0x10000000000000

def negative (x : Binary64) : Bool := x.bits.toNat / signPlace == 1

def exponentField (x : Binary64) : Nat := x.bits.toNat / exponentPlace % 2048

def fraction (x : Binary64) : Nat := x.bits.toNat % exponentPlace

def significand (x : Binary64) : Nat :=
  if x.exponentField = 0 then x.fraction else x.fraction + exponentPlace

def exponent (x : Binary64) : Int :=
  if x.exponentField = 0 then -1074 else (x.exponentField : Int) - 1075

def isInfinite (x : Binary64) : Bool := x.exponentField == 2047 && x.fraction == 0

def isNaN (x : Binary64) : Bool := x.exponentField == 2047 && x.fraction != 0

def isZero (x : Binary64) : Bool := x.exponentField == 0 && x.fraction == 0

def infinity : Binary64 := ⟨0x7FF0000000000000⟩

def withSign (neg : Bool) (x : Binary64) : Binary64 :=
  ⟨UInt64.ofNat (x.bits.toNat % signPlace + (if neg then signPlace else 0))⟩

def neg (x : Binary64) : Binary64 := x.withSign (!x.negative)

def numerator (x : Binary64) : Nat :=
  scaled x.significand 2 x.exponent

def denominator (x : Binary64) : Nat :=
  scaled 1 2 (-x.exponent)

def ofQuotient (num den : Nat) : Binary64 :=
  if num = 0 then ⟨0⟩
  else
    -- the quotient lies between 2^(e-1) and 2^(e+1)
    let e : Int := (bitLength num : Int) - (bitLength den : Int)
    let inUnits (q : Int) : Nat := roundDiv (scaled num 2 (-q)) (scaled den 2 q)
    let fine := max (e - 53) (-1074)
    let q := if inUnits fine ≤ 2 * exponentPlace then fine else fine + 1
    let m := inUnits q
    -- a significand that rounds up to 2^53 has its fraction carried into the exponent field
    let field := if m < exponentPlace then m else ((q + 1074).toNat) * exponentPlace + m
    if field < 2047 * exponentPlace then ⟨UInt64.ofNat field⟩ else infinity

def ofNat (n : Nat) : Binary64 := ofQuotient n 1

def mul (x y : Binary64) : Binary64 :=
  (ofQuotient (x.numerator * y.numerator) (x.denominator * y.denominator)).withSign
    (x.negative != y.negative)

def div (x y : Binary64) : Binary64 :=
  (ofQuotient (x.numerator * y.denominator) (x.denominator * y.numerator)).withSign
    (x.negative != y.negative)

def ofDecimal (digits : Nat) (exp : Int) : Binary64 :=
  if digits = 0 then ⟨0⟩
  else
    let size : Int := ((natDigits digits).length : Int) + exp
    if size > 310 then infinity
    else if size < -330 then ⟨0⟩
    else ofQuotient (scaled digits 10 exp) (scaled 1 10 (-exp))

def admits (x : Binary64) (num den : Nat) : Bool :=
  let m := x.significand
  -- in quarters of the unit of the significand
  let upper := 4 * m + 2
  let lower := if m = exponentPlace ∧ 1 < x.exponentField then 4 * m - 1 else 4 * m - 2
  let n := scaled (4 * num) 2 (-x.exponent)
  let d := scaled den 2 x.exponent
  if m % 2 = 0 then lower * d ≤ n && n ≤ upper * d else lower * d < n && n < upper * d

structure Shortest where
  digits : Nat
  exp : Int
deriving DecidableEq, Repr

def onGrid (x : Binary64) (k : Int) : Option Nat :=
  let num := x.numerator
  let den := x.denominator
  let n := scaled num 10 (-k)
  let d := scaled den 10 k
  let lo := n / d
  let fits (c : Nat) : Bool := x.admits (scaled c 10 k) (scaled 1 10 (-k))
  let near := roundDiv n d
  let far := if near = lo then lo + 1 else lo
  if 0 < near ∧ fits near then some near else if 0 < far ∧ fits far then some far else none

def shortestFrom (x : Binary64) : Nat → Int → Shortest
  | 0, k => ⟨x.numerator, k⟩
  | steps + 1, k =>
    match x.onGrid k with
    | some c => ⟨c, k⟩
    | none => shortestFrom x steps (k - 1)

def shortest (x : Binary64) : Shortest :=
  if x.isZero then ⟨0, 0⟩
  else
    -- a power of ten above the number: 1233/4096 is close to the decimal logarithm of two
    let top : Int := ((bitLength x.significand : Int) + x.exponent) * 1233 / 4096 + 1
    shortestFrom x 22 top

structure Layout where
  least : Int
  most : Int
  point : Bool
  plus : Bool

def positional (l : Layout) (ds : List Char) (exp : Int) : List Char :=
  if 0 ≤ exp then
    ds ++ List.replicate exp.toNat '0' ++ (if l.point then ['.', '0'] else [])
  else
    let places := (-exp).toNat
    if places < ds.length then
      ds.take (ds.length - places) ++ '.' :: ds.drop (ds.length - places)
    else
      '0' :: '.' :: (List.replicate (places - ds.length) '0' ++ ds)

def scientific (l : Layout) (ds : List Char) (lead : Int) : List Char :=
  let mantissa := match ds with
    | [] => []
    | [d] => [d]
    | d :: rest => d :: '.' :: rest
  let e := if 0 ≤ lead then (if l.plus then '+' :: intDigits lead else intDigits lead)
    else intDigits lead
  mantissa ++ 'e' :: e

def render (l : Layout) (x : Binary64) : List Char :=
  let s := x.shortest
  let ds := natDigits s.digits
  let lead : Int := s.exp + (ds.length : Int) - 1
  let body := if l.least ≤ lead ∧ lead < l.most then positional l ds s.exp else scientific l ds lead
  if x.negative then '-' :: body else body

def jsonLayout : Layout := ⟨-5, 16, true, true⟩

def plainLayout : Layout := ⟨-400, 400, false, false⟩

end Binary64

end Billboard.Decimal
