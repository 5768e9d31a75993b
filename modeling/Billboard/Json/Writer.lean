import Billboard.Json.Value

namespace Billboard.Json

open Text

def hexDigit (d : Nat) : Char := if d < 10 then digit d else Char.ofNat (87 + d)

def escape (c : Char) : List Char :=
  if c = '"' then ['\\', '"']
  else if c = '\\' then ['\\', '\\']
  else if 32 ≤ c.toNat then [c]
  else if c = '\n' then ['\\', 'n']
  else if c = '\t' then ['\\', 't']
  else if c = '\r' then ['\\', 'r']
  else if c.toNat = 8 then ['\\', 'b']
  else if c.toNat = 12 then ['\\', 'f']
  else ['\\', 'u', '0', '0', hexDigit (c.toNat / 16), hexDigit (c.toNat % 16)]

def writeString (s : String) : List Char := '"' :: (s.toList.flatMap escape ++ ['"'])

def Number.write : Number → List Char
  | .int i => intDigits i
  | .float x => x.render Decimal.Binary64.jsonLayout

mutual

def write : Json → List Char
  | .null => ['n', 'u', 'l', 'l']
  | .bool true => ['t', 'r', 'u', 'e']
  | .bool false => ['f', 'a', 'l', 's', 'e']
  | .num n => n.write
  | .str s => writeString s
  | .arr items => '[' :: writeItems items
  | .obj members => '{' :: writeMembers members

def writeItems : List Json → List Char
  | [] => [']']
  | [v] => write v ++ [']']
  | v :: rest => write v ++ ',' :: writeItems rest

def writeMembers : List (String × Json) → List Char
  | [] => ['}']
  | [(k, v)] => writeString k ++ ':' :: write v ++ ['}']
  | (k, v) :: rest => writeString k ++ ':' :: write v ++ ',' :: writeMembers rest

end

def text (v : Json) : String := String.ofList v.write

def writeRecord (fields : List (String × Json)) : String := (Json.obj fields).text

end Billboard.Json
