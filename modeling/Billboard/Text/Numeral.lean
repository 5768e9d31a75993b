namespace Billboard.Text

def digit (d : Nat) : Char := Char.ofNat (48 + d)

def digitValue? (c : Char) : Option Nat :=
  if '0' ≤ c ∧ c ≤ '9' then some (c.toNat - 48) else none

def isDigit (c : Char) : Bool := (digitValue? c).isSome

def hexValue? (c : Char) : Option Nat :=
  if '0' ≤ c ∧ c ≤ '9' then some (c.toNat - 48)
  else if 'a' ≤ c ∧ c ≤ 'f' then some (c.toNat - 87)
  else if 'A' ≤ c ∧ c ≤ 'F' then some (c.toNat - 55)
  else none

def numberedChar? (digits : List Char) : Option Char := do
  let ds ← digits.mapM hexValue?
  let n := ds.foldl (fun n d => n * 16 + d) 0
  if n < 0xD800 ∨ (0xDFFF < n ∧ n < 0x110000) then some (Char.ofNat n) else none

def natDigits (n : Nat) : List Char :=
  if n < 10 then [digit n] else natDigits (n / 10) ++ [digit (n % 10)]
termination_by n

def intDigits : Int → List Char
  | .ofNat n => natDigits n
  | .negSucc n => '-' :: natDigits (n + 1)

def natText (n : Nat) : String := String.ofList (natDigits n)

def intText (i : Int) : String := String.ofList (intDigits i)

def valueOfDigits (acc : Nat) (cs : List Char) : Nat :=
  cs.foldl (fun n c => n * 10 + (digitValue? c).getD 0) acc

def padded (width n : Nat) : List Char :=
  let ds := natDigits n
  List.replicate (width - ds.length) '0' ++ ds

inductive NumeralError where
  | empty
  | invalidDigit
  | tooLarge
  | tooSmall
deriving DecidableEq, Repr

def NumeralError.message : NumeralError → String
  | .empty => "cannot parse integer from empty string"
  | .invalidDigit => "invalid digit found in string"
  | .tooLarge => "number too large to fit in target type"
  | .tooSmall => "number too small to fit in target type"

structure IntRange where
  lo : Int
  hi : Int
deriving DecidableEq, Repr

namespace IntRange

def i32 : IntRange := ⟨-2147483648, 2147483647⟩
def i64 : IntRange := ⟨-9223372036854775808, 9223372036854775807⟩
def u16 : IntRange := ⟨0, 65535⟩
def u32 : IntRange := ⟨0, 4294967295⟩
def u64 : IntRange := ⟨0, 18446744073709551615⟩

def contains (r : IntRange) (i : Int) : Bool := r.lo ≤ i && i ≤ r.hi

end IntRange

/-- A fault is reported where it is first met, so a letter after too many digits goes unseen. -/
def readDigits (r : IntRange) (negative : Bool) : Int → List Char → Except NumeralError Int
  | acc, [] => .ok acc
  | acc, c :: cs =>
    match digitValue? c with
    | none => .error .invalidDigit
    | some d =>
      let next := if negative then acc * 10 - d else acc * 10 + d
      if next > r.hi then .error .tooLarge
      else if next < r.lo then .error .tooSmall
      else readDigits r negative next cs

def readInt (r : IntRange) (cs : List Char) : Except NumeralError Int :=
  match cs with
  | [] => .error .empty
  | ['+'] => .error .invalidDigit
  | ['-'] => .error .invalidDigit
  | '+' :: ds => readDigits r false 0 ds
  | '-' :: ds => if r.lo < 0 then readDigits r true 0 ds else .error .invalidDigit
  | ds => readDigits r false 0 ds

end Billboard.Text
