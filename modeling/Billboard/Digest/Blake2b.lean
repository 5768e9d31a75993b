import Billboard.Digest.Square

namespace Billboard.Digest

structure Blake2b where
  h0 : UInt64
  h1 : UInt64
  h2 : UInt64
  h3 : UInt64
  h4 : UInt64
  h5 : UInt64
  h6 : UInt64
  h7 : UInt64
deriving DecidableEq, Repr

namespace Blake2b

def constants : Blake2b :=
  ⟨0x6a09e667f3bcc908, 0xbb67ae8584caa73b, 0x3c6ef372fe94f82b, 0xa54ff53a5f1d36f1,
   0x510e527fade682d1, 0x9b05688c2b3e6c1f, 0x1f83d9abfb41bd6b, 0x5be0cd19137e2179⟩

def orders : List (List Nat) := [
  [0, 1, 2, 3, 4, 5, 6, 7, 8, 9, 10, 11, 12, 13, 14, 15],
  [14, 10, 4, 8, 9, 15, 13, 6, 1, 12, 0, 2, 11, 7, 5, 3],
  [11, 8, 12, 0, 5, 2, 15, 13, 10, 14, 3, 6, 7, 1, 9, 4],
  [7, 9, 3, 1, 13, 12, 11, 14, 2, 6, 5, 10, 4, 0, 15, 8],
  [9, 0, 5, 7, 2, 4, 10, 15, 14, 1, 11, 12, 6, 8, 3, 13],
  [2, 12, 6, 10, 0, 11, 8, 3, 4, 13, 7, 5, 15, 14, 1, 9],
  [12, 5, 1, 15, 14, 13, 4, 10, 0, 7, 6, 3, 9, 2, 8, 11],
  [13, 11, 7, 14, 12, 1, 3, 9, 5, 0, 15, 4, 8, 6, 2, 10],
  [6, 15, 14, 9, 11, 3, 0, 8, 12, 2, 13, 7, 1, 4, 10, 5],
  [10, 2, 8, 4, 7, 6, 1, 5, 15, 11, 9, 14, 3, 12, 13, 0],
  [0, 1, 2, 3, 4, 5, 6, 7, 8, 9, 10, 11, 12, 13, 14, 15],
  [14, 10, 4, 8, 9, 15, 13, 6, 1, 12, 0, 2, 11, 7, 5, 3]]

@[inline] def quarter (m : Array UInt64) (t : Nat) (a b c d : UInt64)
    (k : UInt64 → UInt64 → UInt64 → UInt64 → Square) : Square :=
  let a := a + b + m.getD (2 * t) 0
  let d := rotateRight (d ^^^ a) 32
  let c := c + d
  let b := rotateRight (b ^^^ c) 24
  let a := a + b + m.getD (2 * t + 1) 0
  let d := rotateRight (d ^^^ a) 16
  let c := c + d
  let b := rotateRight (b ^^^ c) 63
  k a b c d

def absorb (h : Blake2b) (block : List UInt8) (count : Nat) (last : Bool) : Blake2b :=
  let m := (wordsOfBytes block).toArray
  let v : Square :=
    ⟨h.h0, h.h1, h.h2, h.h3, h.h4, h.h5, h.h6, h.h7,
     constants.h0, constants.h1, constants.h2, constants.h3,
     constants.h4 ^^^ UInt64.ofNat count, constants.h5 ^^^ UInt64.ofNat (count / 0x10000000000000000),
     if last then constants.h6 ^^^ 0xffffffffffffffff else constants.h6, constants.h7⟩
  let v := orders.foldl
    (fun v order => v.mix (quarter (order.map fun i => m.getD i 0).toArray)) v
  ⟨h.h0 ^^^ v.w0 ^^^ v.w8, h.h1 ^^^ v.w1 ^^^ v.w9, h.h2 ^^^ v.w2 ^^^ v.w10,
   h.h3 ^^^ v.w3 ^^^ v.w11, h.h4 ^^^ v.w4 ^^^ v.w12, h.h5 ^^^ v.w5 ^^^ v.w13,
   h.h6 ^^^ v.w6 ^^^ v.w14, h.h7 ^^^ v.w7 ^^^ v.w15⟩

def absorbAll : Nat → Nat → Blake2b → List UInt8 → Blake2b
  | 0, done, h, rest =>
    h.absorb (rest ++ List.replicate (128 - rest.length) 0) (done + rest.length) true
  | blocks + 1, done, h, rest =>
    absorbAll blocks (done + 128) (h.absorb (rest.take 128) (done + 128) false) (rest.drop 128)

def bytes (h : Blake2b) : List UInt8 :=
  [h.h0, h.h1, h.h2, h.h3, h.h4, h.h5, h.h6, h.h7].flatMap wordBytes

end Blake2b

def blake2b (size : Nat) (message : List UInt8) : List UInt8 :=
  let c := Blake2b.constants
  let h := { c with h0 := c.h0 ^^^ 0x01010000 ^^^ UInt64.ofNat size }
  (Blake2b.absorbAll ((message.length - 1) / 128) 0 h message).bytes.take size

end Billboard.Digest
