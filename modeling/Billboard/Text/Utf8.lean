import Billboard.Text.Numeral

/-! UTF-8 and percent encoding. A run of bytes that begins no character is set apart. -/

namespace Billboard.Text

def continues (b lo hi : UInt8) : Bool := lo ≤ b && b ≤ hi

def tailBits (b : UInt8) : Nat := b.toNat % 64

def secondBounds (lead : UInt8) : UInt8 × UInt8 :=
  if lead = 0xE0 then (0xA0, 0xBF)
  else if lead = 0xED then (0x80, 0x9F)
  else if lead = 0xF0 then (0x90, 0xBF)
  else if lead = 0xF4 then (0x80, 0x8F)
  else (0x80, 0xBF)

/-- The characters of the bytes; `none` stands for a run that makes up no character. -/
def utf8Chars : List UInt8 → List (Option Char)
  | [] => []
  | a :: r =>
    if a < 0x80 then some (Char.ofNat a.toNat) :: utf8Chars r
    else if 0xC2 ≤ a && a ≤ 0xDF then
      match r with
      | [] => [none]
      | b :: r' =>
        if continues b 0x80 0xBF then
          some (Char.ofNat (a.toNat % 32 * 64 + tailBits b)) :: utf8Chars r'
        else none :: utf8Chars (b :: r')
    else if 0xE0 ≤ a && a ≤ 0xF4 then
      match r with
      | [] => [none]
      | b :: r' =>
        if continues b (secondBounds a).1 (secondBounds a).2 then
          match r' with
          | [] => [none]
          | c :: r'' =>
            if continues c 0x80 0xBF then
              if a < 0xF0 then
                some (Char.ofNat ((a.toNat % 16 * 64 + tailBits b) * 64 + tailBits c))
                  :: utf8Chars r''
              else
                match r'' with
                | [] => [none]
                | d :: r''' =>
                  if continues d 0x80 0xBF then
                    some (Char.ofNat
                        (((a.toNat % 8 * 64 + tailBits b) * 64 + tailBits c) * 64 + tailBits d))
                      :: utf8Chars r'''
                  else none :: utf8Chars (d :: r''')
            else none :: utf8Chars (c :: r'')
        else none :: utf8Chars (b :: r')
    else none :: utf8Chars r

def readableText (bytes : List UInt8) : String :=
  String.ofList ((utf8Chars bytes).map (·.getD '\ufffd'))

def exactText? (bytes : List UInt8) : Option String :=
  ((utf8Chars bytes).mapM id).map String.ofList

def percent : UInt8 := 37

def hexByte? (b : UInt8) : Option Nat := hexValue? (Char.ofNat b.toNat)

def percentDecode : List UInt8 → List UInt8
  | a :: b :: c :: rest =>
    if a = percent then
      match hexByte? b, hexByte? c with
      | some hi, some lo => UInt8.ofNat (hi * 16 + lo) :: percentDecode rest
      | _, _ => a :: percentDecode (b :: c :: rest)
    else a :: percentDecode (b :: c :: rest)
  | bytes => bytes

end Billboard.Text
