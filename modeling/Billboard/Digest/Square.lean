/-! The state on which BLAKE2b and Argon2 work: sixteen words in four rows. -/

namespace Billboard.Digest

structure Square where
  w0 : UInt64
  w1 : UInt64
  w2 : UInt64
  w3 : UInt64
  w4 : UInt64
  w5 : UInt64
  w6 : UInt64
  w7 : UInt64
  w8 : UInt64
  w9 : UInt64
  w10 : UInt64
  w11 : UInt64
  w12 : UInt64
  w13 : UInt64
  w14 : UInt64
  w15 : UInt64
deriving DecidableEq, Repr

namespace Square

def zero : Square := ⟨0, 0, 0, 0, 0, 0, 0, 0, 0, 0, 0, 0, 0, 0, 0, 0⟩

@[inline] def xor (x y : Square) : Square :=
  ⟨x.w0 ^^^ y.w0, x.w1 ^^^ y.w1, x.w2 ^^^ y.w2, x.w3 ^^^ y.w3,
   x.w4 ^^^ y.w4, x.w5 ^^^ y.w5, x.w6 ^^^ y.w6, x.w7 ^^^ y.w7,
   x.w8 ^^^ y.w8, x.w9 ^^^ y.w9, x.w10 ^^^ y.w10, x.w11 ^^^ y.w11,
   x.w12 ^^^ y.w12, x.w13 ^^^ y.w13, x.w14 ^^^ y.w14, x.w15 ^^^ y.w15⟩

def toList (x : Square) : List UInt64 :=
  [x.w0, x.w1, x.w2, x.w3, x.w4, x.w5, x.w6, x.w7,
   x.w8, x.w9, x.w10, x.w11, x.w12, x.w13, x.w14, x.w15]

def ofList (ws : List UInt64) : Square :=
  ⟨ws.getD 0 0, ws.getD 1 0, ws.getD 2 0, ws.getD 3 0,
   ws.getD 4 0, ws.getD 5 0, ws.getD 6 0, ws.getD 7 0,
   ws.getD 8 0, ws.getD 9 0, ws.getD 10 0, ws.getD 11 0,
   ws.getD 12 0, ws.getD 13 0, ws.getD 14 0, ws.getD 15 0⟩

@[inline] def mix (g : Nat → UInt64 → UInt64 → UInt64 → UInt64 → (UInt64 → UInt64 → UInt64 →
    UInt64 → Square) → Square) (x : Square) : Square :=
  g 0 x.w0 x.w4 x.w8 x.w12 fun a0 b0 c0 d0 =>
  g 1 x.w1 x.w5 x.w9 x.w13 fun a1 b1 c1 d1 =>
  g 2 x.w2 x.w6 x.w10 x.w14 fun a2 b2 c2 d2 =>
  g 3 x.w3 x.w7 x.w11 x.w15 fun a3 b3 c3 d3 =>
  g 4 a0 b1 c2 d3 fun a4 b4 c4 d4 =>
  g 5 a1 b2 c3 d0 fun a5 b5 c5 d5 =>
  g 6 a2 b3 c0 d1 fun a6 b6 c6 d6 =>
  g 7 a3 b0 c1 d2 fun a7 b7 c7 d7 =>
  ⟨a4, a5, a6, a7, b7, b4, b5, b6,
   c6, c7, c4, c5, d5, d6, d7, d4⟩

end Square

def littleEndian : Nat → Nat → List UInt8
  | 0, _ => []
  | n + 1, x => UInt8.ofNat x :: littleEndian n (x / 256)

def wordBytes (w : UInt64) : List UInt8 := littleEndian 8 w.toNat

def wordsOfBytes : List UInt8 → List UInt64
  | [] => []
  | a :: b :: c :: d :: e :: f :: g :: h :: rest =>
    (a.toUInt64 ||| b.toUInt64 <<< 8 ||| c.toUInt64 <<< 16 ||| d.toUInt64 <<< 24
      ||| e.toUInt64 <<< 32 ||| f.toUInt64 <<< 40 ||| g.toUInt64 <<< 48 ||| h.toUInt64 <<< 56)
      :: wordsOfBytes rest
  | rest => [UInt64.ofNat (rest.foldr (fun b n => b.toNat + 256 * n) 0)]

@[inline] def rotateRight (x n : UInt64) : UInt64 := (x >>> n) ||| (x <<< (64 - n))

end Billboard.Digest
