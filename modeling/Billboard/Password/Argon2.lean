import Billboard.Digest.Blake2b

/-! The password hash Argon2 in its three variants and two versions. -/

namespace Billboard.Password

open Digest

namespace Argon2

inductive Variant where
  | byData
  | byCounter
  | hybrid
deriving DecidableEq, Repr

def Variant.number : Variant → Nat
  | .byData => 0
  | .byCounter => 1
  | .hybrid => 2

/-- In the first version a later pass overwrites a block, in the second it mixes with it. -/
inductive Version where
  | v16
  | v19
deriving DecidableEq, Repr

def Version.number : Version → Nat
  | .v16 => 16
  | .v19 => 19

structure Params where
  variant : Variant := .hybrid
  version : Version := .v19
  memory : Nat := 19456
  passes : Nat := 2
  lanes : Nat := 1
  size : Nat := 32
  data : List UInt8 := []
deriving DecidableEq, Repr

structure Block where
  r0 : Square
  r1 : Square
  r2 : Square
  r3 : Square
  r4 : Square
  r5 : Square
  r6 : Square
  r7 : Square

namespace Block

def zero : Block :=
  ⟨.zero, .zero, .zero, .zero, .zero, .zero, .zero, .zero⟩

instance : Inhabited Block := ⟨zero⟩

def toList (b : Block) : List UInt64 :=
  [b.r0, b.r1, b.r2, b.r3, b.r4, b.r5, b.r6, b.r7].flatMap Square.toList

def ofList (ws : List UInt64) : Block :=
  ⟨.ofList ws, .ofList (ws.drop 16), .ofList (ws.drop 32), .ofList (ws.drop 48),
   .ofList (ws.drop 64), .ofList (ws.drop 80), .ofList (ws.drop 96), .ofList (ws.drop 112)⟩

def xor (x y : Block) : Block :=
  ⟨x.r0.xor y.r0, x.r1.xor y.r1, x.r2.xor y.r2, x.r3.xor y.r3,
   x.r4.xor y.r4, x.r5.xor y.r5, x.r6.xor y.r6, x.r7.xor y.r7⟩

end Block

@[inline] def blend (x y : UInt64) : UInt64 :=
  x + y + 2 * (x &&& 0xffffffff) * (y &&& 0xffffffff)

@[inline] def quarter (_ : Nat) (a b c d : UInt64)
    (k : UInt64 → UInt64 → UInt64 → UInt64 → Square) : Square :=
  let a := blend a b
  let d := rotateRight (d ^^^ a) 32
  let c := blend c d
  let b := rotateRight (b ^^^ c) 24
  let a := blend a b
  let d := rotateRight (d ^^^ a) 16
  let c := blend c d
  let b := rotateRight (b ^^^ c) 63
  k a b c d

@[noinline] def permute (x : Square) : Square := x.mix quarter

@[inline] def transpose (b : Block) : Block :=
  ⟨⟨b.r0.w0, b.r0.w1, b.r1.w0, b.r1.w1, b.r2.w0, b.r2.w1, b.r3.w0, b.r3.w1,
    b.r4.w0, b.r4.w1, b.r5.w0, b.r5.w1, b.r6.w0, b.r6.w1, b.r7.w0, b.r7.w1⟩,
   ⟨b.r0.w2, b.r0.w3, b.r1.w2, b.r1.w3, b.r2.w2, b.r2.w3, b.r3.w2, b.r3.w3,
    b.r4.w2, b.r4.w3, b.r5.w2, b.r5.w3, b.r6.w2, b.r6.w3, b.r7.w2, b.r7.w3⟩,
   ⟨b.r0.w4, b.r0.w5, b.r1.w4, b.r1.w5, b.r2.w4, b.r2.w5, b.r3.w4, b.r3.w5,
    b.r4.w4, b.r4.w5, b.r5.w4, b.r5.w5, b.r6.w4, b.r6.w5, b.r7.w4, b.r7.w5⟩,
   ⟨b.r0.w6, b.r0.w7, b.r1.w6, b.r1.w7, b.r2.w6, b.r2.w7, b.r3.w6, b.r3.w7,
    b.r4.w6, b.r4.w7, b.r5.w6, b.r5.w7, b.r6.w6, b.r6.w7, b.r7.w6, b.r7.w7⟩,
   ⟨b.r0.w8, b.r0.w9, b.r1.w8, b.r1.w9, b.r2.w8, b.r2.w9, b.r3.w8, b.r3.w9,
    b.r4.w8, b.r4.w9, b.r5.w8, b.r5.w9, b.r6.w8, b.r6.w9, b.r7.w8, b.r7.w9⟩,
   ⟨b.r0.w10, b.r0.w11, b.r1.w10, b.r1.w11, b.r2.w10, b.r2.w11, b.r3.w10, b.r3.w11,
    b.r4.w10, b.r4.w11, b.r5.w10, b.r5.w11, b.r6.w10, b.r6.w11, b.r7.w10, b.r7.w11⟩,
   ⟨b.r0.w12, b.r0.w13, b.r1.w12, b.r1.w13, b.r2.w12, b.r2.w13, b.r3.w12, b.r3.w13,
    b.r4.w12, b.r4.w13, b.r5.w12, b.r5.w13, b.r6.w12, b.r6.w13, b.r7.w12, b.r7.w13⟩,
   ⟨b.r0.w14, b.r0.w15, b.r1.w14, b.r1.w15, b.r2.w14, b.r2.w15, b.r3.w14, b.r3.w15,
    b.r4.w14, b.r4.w15, b.r5.w14, b.r5.w15, b.r6.w14, b.r6.w15, b.r7.w14, b.r7.w15⟩⟩

def permuteAll (b : Block) : Block :=
  ⟨permute b.r0, permute b.r1, permute b.r2, permute b.r3,
   permute b.r4, permute b.r5, permute b.r6, permute b.r7⟩

def compress (x y : Block) : Block :=
  let r := x.xor y
  (transpose (permuteAll (transpose (permuteAll r)))).xor r

def chain (size : Nat) : Nat → List UInt8 → List UInt8
  | 0, link => blake2b size link
  | n + 1, link =>
    let next := blake2b 64 link
    next.take 32 ++ chain size n next

def longDigest (size : Nat) (message : List UInt8) : List UInt8 :=
  let first := littleEndian 4 size ++ message
  if size ≤ 64 then blake2b size first
  else
    let links := (size + 31) / 32 - 2
    chain (size - 32 * links) links first

def number (n : Nat) : List UInt8 := littleEndian 4 n

def counted (bytes : List UInt8) : List UInt8 := number bytes.length ++ bytes

def seed (p : Params) (password salt : List UInt8) : List UInt8 :=
  blake2b 64 (number p.lanes ++ number p.size ++ number p.memory ++ number p.passes
    ++ number p.version.number ++ number p.variant.number
    ++ counted password ++ counted salt ++ counted [] ++ counted p.data)

def Params.segment (p : Params) : Nat := p.memory / (4 * p.lanes)

def Params.laneLength (p : Params) : Nat := 4 * p.segment

structure Place where
  pass : Nat
  slice : Nat
  lane : Nat
deriving DecidableEq, Repr

def Params.counts (p : Params) (at_ : Place) : Bool :=
  match p.variant with
  | .byData => false
  | .byCounter => true
  | .hybrid => at_.pass == 0 && at_.slice < 2

def picks (p : Params) (at_ : Place) (n : Nat) : Array UInt64 :=
  let input := Block.ofList ([at_.pass, at_.lane, at_.slice, p.laneLength * p.lanes, p.passes,
    p.variant.number, n].map UInt64.ofNat)
  (compress .zero (compress .zero input)).toList.toArray

def reference (p : Params) (at_ : Place) (i : Nat) (pick : UInt64) : Nat :=
  let lane := if at_.pass = 0 ∧ at_.slice = 0 then at_.lane else (pick >>> 32).toNat % p.lanes
  let filled := if at_.pass = 0 then at_.slice * p.segment else p.laneLength - p.segment
  let area := if lane = at_.lane then filled + i - 1 else if i = 0 then filled - 1 else filled
  let x := (pick &&& 0xffffffff).toNat
  let back := area * (x * x / 0x100000000) / 0x100000000
  let start := if at_.pass = 0 ∨ at_.slice = 3 then 0 else (at_.slice + 1) * p.segment
  lane * p.laneLength + (start + (area - 1 - back)) % p.laneLength

def fillSegment (p : Params) (at_ : Place) (counts : Bool) :
    Nat → Array UInt64 → Array Block → Array Block
  | 0, _, memory => memory
  | n + 1, picked, memory =>
    let i := p.segment - (n + 1)
    let column := at_.slice * p.segment + i
    let here := at_.lane * p.laneLength + column
    let before := if column = 0 then here + p.laneLength - 1 else here - 1
    let picked := if counts && i % 128 == 0 then picks p at_ (i / 128 + 1) else picked
    if at_.pass = 0 ∧ column < 2 then fillSegment p at_ counts n picked memory
    else
      let previous := memory.getD before .zero
      let pick := if counts then picked.getD (i % 128) 0 else previous.r0.w0
      let mixed := compress previous (memory.getD (reference p at_ i pick) .zero)
      let mixed :=
        if at_.pass = 0 ∨ p.version = .v16 then mixed else mixed.xor (memory.getD here .zero)
      fillSegment p at_ counts n picked (memory.setIfInBounds here mixed)

def places (p : Params) : List Place :=
  (List.range p.passes).flatMap fun pass =>
    (List.range 4).flatMap fun slice => (List.range p.lanes).map fun lane => ⟨pass, slice, lane⟩

def blockOfBytes (bytes : List UInt8) : Block := .ofList (wordsOfBytes bytes)

def prepare (p : Params) (seed : List UInt8) : Array Block :=
  (List.range p.lanes).foldl (fun memory lane =>
    let first (i : Nat) := blockOfBytes (longDigest 1024 (seed ++ number i ++ number lane))
    (memory.setIfInBounds (lane * p.laneLength) (first 0)).setIfInBounds
      (lane * p.laneLength + 1) (first 1))
    (Array.replicate (p.lanes * p.laneLength) .zero)

def gather (p : Params) (memory : Array Block) : Block :=
  (List.range p.lanes).foldl
    (fun b lane => b.xor (memory.getD (lane * p.laneLength + p.laneLength - 1) .zero)) .zero

def hash (p : Params) (password salt : List UInt8) : List UInt8 :=
  let memory := (places p).foldl
    (fun memory at_ => fillSegment p at_ (p.counts at_) p.segment #[] memory)
    (prepare p (seed p password salt))
  longDigest p.size ((gather p memory).toList.flatMap wordBytes)

def output? (p : Params) (password salt : List UInt8) : Option (List UInt8) :=
  if password.length ≤ 0xFFFFFFFF ∧ 8 ≤ salt.length then some (hash p password salt) else none

end Argon2

end Billboard.Password
