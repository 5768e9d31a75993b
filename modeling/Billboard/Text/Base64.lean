/-! Base64 without padding. A last character whose unused bits are not zero is refused. -/

namespace Billboard.Text

structure Base64 where
  plus : Char
  slash : Char
deriving DecidableEq, Repr

namespace Base64

def standard : Base64 := ⟨'+', '/'⟩

def urlSafe : Base64 := ⟨'-', '_'⟩

def char (a : Base64) (n : Nat) : Char :=
  if n < 26 then Char.ofNat (65 + n)
  else if n < 52 then Char.ofNat (71 + n)
  else if n < 62 then Char.ofNat (n - 4)
  else if n = 62 then a.plus
  else a.slash

def value? (a : Base64) (c : Char) : Option Nat :=
  if 'A' ≤ c ∧ c ≤ 'Z' then some (c.toNat - 65)
  else if 'a' ≤ c ∧ c ≤ 'z' then some (c.toNat - 71)
  else if '0' ≤ c ∧ c ≤ '9' then some (c.toNat + 4)
  else if c = a.plus then some 62
  else if c = a.slash then some 63
  else none

def encode (a : Base64) : List UInt8 → List Char
  | [] => []
  | [x] => [a.char (x.toNat / 4), a.char (x.toNat % 4 * 16)]
  | [x, y] =>
    [a.char (x.toNat / 4), a.char (x.toNat % 4 * 16 + y.toNat / 16), a.char (y.toNat % 16 * 4)]
  | x :: y :: z :: rest =>
    a.char (x.toNat / 4) :: a.char (x.toNat % 4 * 16 + y.toNat / 16)
      :: a.char (y.toNat % 16 * 4 + z.toNat / 64) :: a.char (z.toNat % 64) :: encode a rest

def decode? (a : Base64) : List Char → Option (List UInt8)
  | [] => some []
  | [_] => none
  | [p, q] => do
    let p ← a.value? p
    let q ← a.value? q
    if q % 16 = 0 then some [UInt8.ofNat (p * 4 + q / 16)] else none
  | [p, q, r] => do
    let p ← a.value? p
    let q ← a.value? q
    let r ← a.value? r
    if r % 4 = 0 then
      some [UInt8.ofNat (p * 4 + q / 16), UInt8.ofNat (q % 16 * 16 + r / 4)]
    else none
  | p :: q :: r :: s :: rest => do
    let p ← a.value? p
    let q ← a.value? q
    let r ← a.value? r
    let s ← a.value? s
    let rest ← decode? a rest
    some (UInt8.ofNat (p * 4 + q / 16) :: UInt8.ofNat (q % 16 * 16 + r / 4)
      :: UInt8.ofNat (r % 4 * 64 + s) :: rest)

end Base64

end Billboard.Text
