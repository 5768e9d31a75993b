import Billboard.Json.Fault

/-! JSON text read from the left. A value that is skipped is only checked for its outline, so it may
nest to any depth and escape half a surrogate pair. -/

namespace Billboard.Json

open Text
open Decimal (Binary64)

/-- `steps` bounds the loops, two for each character left, and `room` is the number of containers
that may still be opened inside each other. -/
structure Budget where
  steps : Nat
  room : Nat

def maxDepth : Nat := 127

def Budget.whole (cs : List Char) : Budget := ⟨2 * cs.length + 2, maxDepth⟩

abbrev Reader (α : Type) := Budget → List Char → Except ReadError (α × List Char)

def isSpace (c : Char) : Bool := c == ' ' || c == '\n' || c == '\t' || c == '\r'

def skipSpace (cs : List Char) : List Char := cs.dropWhile isSpace

def expectWord : List Char → List Char → Except ReadError (List Char)
  | [], cs => .ok cs
  | _ :: _, [] => .error .malformed
  | w :: ws, c :: cs => if w = c then expectWord ws cs else .error .malformed

def hexUnit (a b c d : Char) : Option Nat := do
  return (((← hexValue? a) * 16 + (← hexValue? b)) * 16 + (← hexValue? c)) * 16 + (← hexValue? d)

def letterEscape : Char → Option Char
  | '"' => some '"'
  | '\\' => some '\\'
  | '/' => some '/'
  | 'b' => some '\x08'
  | 'f' => some '\x0c'
  | 'n' => some '\n'
  | 'r' => some '\r'
  | 't' => some '\t'
  | _ => none

def joinSurrogates (hi lo : Nat) : Char :=
  Char.ofNat ((hi - 0xD800) * 1024 + (lo - 0xDC00) + 0x10000)

def stringTail (acc : List Char) : List Char → Except ReadError (List Char × List Char)
  | [] => .error .malformed
  | '"' :: rest => .ok (acc.reverse, rest)
  | '\\' :: 'u' :: a :: b :: c :: d :: rest =>
    match hexUnit a b c d with
    | none => .error .malformed
    | some u =>
      if 0xDC00 ≤ u ∧ u ≤ 0xDFFF then .error .malformed
      else if 0xD800 ≤ u ∧ u ≤ 0xDBFF then
        match rest with
        | '\\' :: 'u' :: e :: f :: g :: h :: rest =>
          match hexUnit e f g h with
          | none => .error .malformed
          | some v =>
            if 0xDC00 ≤ v ∧ v ≤ 0xDFFF then stringTail (joinSurrogates u v :: acc) rest
            else .error .malformed
        | _ => .error .malformed
      else stringTail (Char.ofNat u :: acc) rest
  | '\\' :: e :: rest =>
    match letterEscape e with
    | none => .error .malformed
    | some c => stringTail (c :: acc) rest
  | c :: rest => if c.toNat < 32 then .error .malformed else stringTail (c :: acc) rest

def readStringTail (cs : List Char) : Except ReadError (String × List Char) :=
  match stringTail [] cs with
  | .error e => .error e
  | .ok (s, rest) => .ok (String.ofList s, rest)

def skipString : List Char → Except ReadError (List Char)
  | [] => .error .malformed
  | '"' :: rest => .ok rest
  | '\\' :: 'u' :: a :: b :: c :: d :: rest =>
    if (hexUnit a b c d).isSome then skipString rest else .error .malformed
  | '\\' :: e :: rest => if (letterEscape e).isSome then skipString rest else .error .malformed
  | c :: rest => if c.toNat < 32 then .error .malformed else skipString rest

structure NumberText where
  negative : Bool
  whole : List Char
  decimals : Option (List Char)
  exponent : Option (Bool × List Char)
deriving DecidableEq, Repr

def readNumberText (negative : Bool) (cs : List Char) : Except ReadError (NumberText × List Char) :=
  let whole := cs.takeWhile isDigit
  let rest := cs.dropWhile isDigit
  if whole = [] ∨ (whole.head? = some '0' ∧ 1 < whole.length) then .error .malformed
  else
    let (decimals, rest) := match rest with
      | '.' :: r => (some (r.takeWhile isDigit), r.dropWhile isDigit)
      | r => (none, r)
    if decimals = some [] then .error .malformed
    else
      let (sign, rest) := match rest with
        | 'e' :: '+' :: r | 'E' :: '+' :: r => (some false, r)
        | 'e' :: '-' :: r | 'E' :: '-' :: r => (some true, r)
        | 'e' :: r | 'E' :: r => (some false, r)
        | r => (none, r)
      match sign with
      | none => .ok (⟨negative, whole, decimals, none⟩, rest)
      | some minus =>
        let digits := rest.takeWhile isDigit
        if digits = [] then .error .malformed
        else .ok (⟨negative, whole, decimals, some (minus, digits)⟩, rest.dropWhile isDigit)

def gather (acc : Nat) : List Char → Nat × List Char
  | [] => (acc, [])
  | c :: cs =>
    let next := acc * 10 + (digitValue? c).getD 0
    if next < 0x10000000000000000 then gather next cs else (acc, c :: cs)

def pow10 (n : Nat) : Binary64 := Binary64.ofDecimal 1 n

/-- Scales a number by a power of ten: one multiplication or division by a rounded power, and one by
`10^308` before it as long as the power is out of the format's range. A result that is out of range
is refused. -/
def scale (x : Binary64) (e : Int) : Nat → Option Binary64
  | 0 => some x
  | fuel + 1 =>
    if e.natAbs ≤ 308 then
      if 0 ≤ e then
        let y := x.mul (pow10 e.toNat)
        if y.isInfinite then none else some y
      else some (x.div (pow10 e.natAbs))
    else if x.isZero then some x
    else if 0 ≤ e then none
    else scale (x.div (pow10 308)) (e + 308) fuel

def NumberText.value (t : NumberText) : Option Number :=
  let (digits, excess) := gather 0 t.whole
  if t.decimals = none ∧ t.exponent = none ∧ excess = [] then
    if !t.negative then some (.int digits)
    else if digits = 0 ∨ 0x8000000000000000 < digits then some (.float (Binary64.ofNat digits).neg)
    else some (.int (-digits))
  else
    let decimals := t.decimals.getD []
    let (digits, left) := gather digits decimals
    let e : Int := excess.length - ((decimals.length : Int) - left.length)
    let e := match t.exponent with
      | none => e
      | some (minus, ds) =>
        let n : Int := valueOfDigits 0 ds
        if minus then e - n else e + n
    -- four rounds bring the largest significand down to zero
    (scale (Binary64.ofNat digits) e 4).map fun x => .float (if t.negative then x.neg else x)

def readNumberTail (negative : Bool) (cs : List Char) : Except ReadError (Number × List Char) :=
  match readNumberText negative cs with
  | .error e => .error e
  | .ok (t, rest) =>
    match t.value with
    | none => .error .malformed
    | some n => .ok (n, rest)

mutual

def readValue : Nat → Nat → List Char → Except ReadError (Json × List Char)
  | 0, _, _ => .error .malformed
  | steps + 1, room, cs =>
    match skipSpace cs with
    | 'n' :: r => (expectWord ['u', 'l', 'l'] r).map (.null, ·)
    | 't' :: r => (expectWord ['r', 'u', 'e'] r).map (.bool true, ·)
    | 'f' :: r => (expectWord ['a', 'l', 's', 'e'] r).map (.bool false, ·)
    | '"' :: r => (readStringTail r).map fun (s, r) => (.str s, r)
    | '-' :: r => (readNumberTail true r).map fun (n, r) => (.num n, r)
    | '[' :: r =>
      match room with
      | 0 => .error .malformed
      | room + 1 =>
        match skipSpace r with
        | ']' :: r => .ok (.arr [], r)
        | r => readItems steps room [] r
    | '{' :: r =>
      match room with
      | 0 => .error .malformed
      | room + 1 =>
        match skipSpace r with
        | '}' :: r => .ok (.obj [], r)
        | r => readMembers steps room [] r
    | r => (readNumberTail false r).map fun (n, r) => (.num n, r)

def readItems : Nat → Nat → List Json → List Char → Except ReadError (Json × List Char)
  | 0, _, _, _ => .error .malformed
  | steps + 1, room, acc, cs =>
    match readValue steps room cs with
    | .error e => .error e
    | .ok (v, rest) =>
      match skipSpace rest with
      | ',' :: r => readItems steps room (v :: acc) r
      | ']' :: r => .ok (.arr (v :: acc).reverse, r)
      | _ => .error .malformed

def readMembers : Nat → Nat → List (String × Json) → List Char → Except ReadError (Json × List Char)
  | 0, _, _, _ => .error .malformed
  | steps + 1, room, acc, cs =>
    match skipSpace cs with
    | '"' :: r =>
      match readStringTail r with
      | .error e => .error e
      | .ok (k, r) =>
        match skipSpace r with
        | ':' :: r =>
          match readValue steps room r with
          | .error e => .error e
          | .ok (v, r) =>
            match skipSpace r with
            | ',' :: r => readMembers steps room (insertMember k v acc) r
            | '}' :: r => .ok (.obj (insertMember k v acc), r)
            | _ => .error .malformed
        | _ => .error .malformed
    | _ => .error .malformed

end

inductive Bracket where
  | square
  | curly
deriving DecidableEq, Repr

inductive SkipPhase where
  | value
  | itemOrEnd
  | memberOrEnd
  | member
  | after
deriving DecidableEq, Repr

inductive Skipped where
  | failed
  | finished (rest : List Char)
  | going (phase : SkipPhase) (opened : List Bracket) (rest : List Char)

def afterValue (opened : List Bracket) (rest : List Char) : Skipped :=
  match opened with
  | [] => .finished rest
  | _ => .going .after opened rest

def skipScalar (opened : List Bracket) (r : Except ReadError (List Char)) : Skipped :=
  match r with
  | .ok rest => afterValue opened rest
  | .error _ => .failed

def skipNumber (opened : List Bracket) (cs : List Char) : Skipped :=
  match readNumberText false cs with
  | .ok (_, rest) => afterValue opened rest
  | .error _ => .failed

def skipFromValue (opened : List Bracket) : List Char → Skipped
  | 'n' :: r => skipScalar opened (expectWord ['u', 'l', 'l'] r)
  | 't' :: r => skipScalar opened (expectWord ['r', 'u', 'e'] r)
  | 'f' :: r => skipScalar opened (expectWord ['a', 'l', 's', 'e'] r)
  | '"' :: r => skipScalar opened (skipString r)
  | '[' :: r => .going .itemOrEnd (.square :: opened) r
  | '{' :: r => .going .memberOrEnd (.curly :: opened) r
  | '-' :: r => skipNumber opened r
  | r => skipNumber opened r

def skipMember (opened : List Bracket) : List Char → Skipped
  | '"' :: r =>
    match skipString r with
    | .error _ => .failed
    | .ok r =>
      match skipSpace r with
      | ':' :: r => .going .value opened r
      | _ => .failed
  | _ => .failed

def skipStep (phase : SkipPhase) (opened : List Bracket) (cs : List Char) : Skipped :=
  let cs := skipSpace cs
  match phase, opened, cs with
  | .value, _, _ => skipFromValue opened cs
  | .itemOrEnd, .square :: outer, ']' :: r => afterValue outer r
  | .itemOrEnd, _, _ => skipFromValue opened cs
  | .memberOrEnd, .curly :: outer, '}' :: r => afterValue outer r
  | .memberOrEnd, _, _ => skipMember opened cs
  | .member, _, _ => skipMember opened cs
  | .after, .square :: _, ',' :: r => .going .value opened r
  | .after, .square :: outer, ']' :: r => afterValue outer r
  | .after, .curly :: _, ',' :: r => .going .member opened r
  | .after, .curly :: outer, '}' :: r => afterValue outer r
  | .after, _, _ => .failed

def skipLoop : Nat → SkipPhase → List Bracket → List Char → Except ReadError (List Char)
  | 0, _, _, _ => .error .malformed
  | steps + 1, phase, opened, cs =>
    match skipStep phase opened cs with
    | .failed => .error .malformed
    | .finished rest => .ok rest
    | .going phase opened rest => skipLoop steps phase opened rest

def skipValue (steps : Nat) (cs : List Char) : Except ReadError (List Char) :=
  skipLoop steps .value [] cs

def readAll (read : Reader α) (cs : List Char) : Except ReadError α :=
  match read (.whole cs) cs with
  | .error e => .error e
  | .ok (a, rest) => if skipSpace rest = [] then .ok a else .error .malformed

def parse? (s : String) : Option Json :=
  match readAll (fun b cs => readValue b.steps b.room cs) s.toList with
  | .ok v => some v
  | .error _ => none

end Billboard.Json
