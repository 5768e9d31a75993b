import Billboard.Decimal.Binary64

namespace Billboard.Decimal

open Text

structure DecimalText where
  negative : Bool := false
  whole : List Char
  decimals : List Char := []
  exponent : Int := 0
deriving DecidableEq, Repr

def DecimalText.value (t : DecimalText) : Binary64 :=
  (Binary64.ofDecimal (valueOfDigits 0 (t.whole ++ t.decimals))
    (t.exponent - t.decimals.length)).withSign t.negative

def splitSign : List Char → Bool × List Char
  | '-' :: rest => (true, rest)
  | '+' :: rest => (false, rest)
  | cs => (false, cs)

def readExponent (cs : List Char) : Option Int :=
  let (negative, ds) := splitSign cs
  if ds.isEmpty || !ds.all isDigit then none
  else
    let n : Int := valueOfDigits 0 ds
    some (if negative then -n else n)

def readScale : List Char → Option Int
  | [] => some 0
  | 'e' :: rest | 'E' :: rest => readExponent rest
  | _ => none

def notANumber : Binary64 := ⟨0x7FF8000000000000⟩

def readNumber (cs : List Char) : Option Binary64 :=
  let (negative, body) := splitSign cs
  let name := String.ofList (body.map Char.toLower)
  if name = "inf" ∨ name = "infinity" then some (Binary64.infinity.withSign negative)
  else if name = "nan" then some notANumber
  else
    let whole := body.takeWhile isDigit
    let rest := body.dropWhile isDigit
    let (decimals, rest) := match rest with
      | '.' :: r => (r.takeWhile isDigit, r.dropWhile isDigit)
      | r => ([], r)
    if whole.isEmpty && decimals.isEmpty then none
    else (readScale rest).map fun e => (DecimalText.mk negative whole decimals e).value

end Billboard.Decimal
