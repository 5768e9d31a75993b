import Billboard.Password.Argon2
import Billboard.Password.HashString

/-! Passwords. Each is checked with whatever parameters its hash string names. -/

namespace Billboard.Password

open Text

def standard : Argon2.Params := {}

def variantName : Argon2.Variant → List Char
  | .byData => ['a', 'r', 'g', 'o', 'n', '2', 'd']
  | .byCounter => ['a', 'r', 'g', 'o', 'n', '2', 'i']
  | .hybrid => ['a', 'r', 'g', 'o', 'n', '2', 'i', 'd']

def variantOfName? (name : List Char) : Option Argon2.Variant :=
  [Argon2.Variant.byData, .byCounter, .hybrid].find? fun v => variantName v == name

def versionOfNumber? : Nat → Option Argon2.Version
  | 16 => some .v16
  | 19 => some .v19
  | _ => none

def shortBytes? (limit : Nat) (cs : List Char) : Option (List UInt8) := do
  let bytes ← Base64.standard.decode? cs
  if bytes.length ≤ limit then some bytes else none

def setParam (p : Argon2.Params) : List Char × List Char → Option Argon2.Params
  | (['m'], v) => (HashString.decimal? v).map fun n => { p with memory := n }
  | (['t'], v) => (HashString.decimal? v).map fun n => { p with passes := n }
  | (['p'], v) => (HashString.decimal? v).map fun n => { p with lanes := n }
  | (['d', 'a', 't', 'a'], v) => (shortBytes? 32 v).map fun bs => { p with data := bs }
  | (['k', 'e', 'y', 'i', 'd'], v) => (shortBytes? 8 v).map fun _ => p
  | _ => none

def possible (p : Argon2.Params) : Bool :=
  8 ≤ p.memory && 1 ≤ p.passes && 1 ≤ p.lanes && p.lanes ≤ 0xFFFFFF && 8 * p.lanes ≤ p.memory

def paramsOf? (h : HashString) (size : Nat) : Option Argon2.Params := do
  let variant ← variantOfName? h.algorithm
  let version ← match h.version with
    | none => some .v19
    | some v => versionOfNumber? v
  let p ← h.params.foldlM setParam { standard with variant := variant, version := version }
  if possible p then some { p with size := size } else none

def bytesOf (s : String) : List UInt8 := s.toUTF8.toList

def matches? (h : HashString) (password : String) : Bool :=
  match h.salt, h.hash with
  | some salt, some hash =>
    match paramsOf? h hash.length, Base64.standard.decode? salt with
    | some p, some salt => Argon2.output? p (bytesOf password) salt == some hash
    | _, _ => false
  | _, _ => false

def verify (password stored : String) : Option Bool :=
  (HashString.read? stored.toList).map fun h => matches? h password

def hashString (password : String) (salt : List UInt8) : HashString where
  algorithm := variantName standard.variant
  version := some standard.version.number
  params := [(['m'], natDigits standard.memory), (['t'], natDigits standard.passes),
    (['p'], natDigits standard.lanes)]
  salt := some (Base64.standard.encode salt)
  hash := some (Argon2.hash standard (bytesOf password) salt)

def hash (password : String) (salt : List UInt8) : String :=
  String.ofList (hashString password salt).write

end Billboard.Password
