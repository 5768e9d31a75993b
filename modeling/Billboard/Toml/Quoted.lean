import Billboard.Text.Numeral

namespace Billboard.Toml

open Text

def isPlainChar (c : Char) : Bool := c = '\t' || (32 ≤ c.toNat && c.toNat != 127)

def apostrophe : Char := '\x27'

def letterEscape : Char → Option Char
  | 'b' => some '\x08'
  | 't' => some '\t'
  | 'n' => some '\n'
  | 'f' => some '\x0c'
  | 'r' => some '\r'
  | '"' => some '"'
  | '\\' => some '\\'
  | _ => none

def basicTail (acc : List Char) : List Char → Option (String × List Char)
  | [] => none
  | '"' :: r => some (String.ofList acc.reverse, r)
  | '\\' :: 'u' :: a :: b :: c :: d :: r =>
    (numberedChar? [a, b, c, d]).bind fun x => basicTail (x :: acc) r
  | '\\' :: 'U' :: a :: b :: c :: d :: e :: f :: g :: h :: r =>
    (numberedChar? [a, b, c, d, e, f, g, h]).bind fun x => basicTail (x :: acc) r
  | '\\' :: e :: r => (letterEscape e).bind fun x => basicTail (x :: acc) r
  | c :: r => if isPlainChar c then basicTail (c :: acc) r else none

def literalTail (acc : List Char) : List Char → Option (String × List Char)
  | [] => none
  | c :: r =>
    if c = apostrophe then some (String.ofList acc.reverse, r)
    else if isPlainChar c then literalTail (c :: acc) r
    else none

def closeMulti (quote : Char) (acc : List Char) (r : List Char) : String × List Char :=
  match r with
  | a :: b :: r' =>
    if a = quote && b = quote then (String.ofList (quote :: quote :: acc).reverse, r')
    else if a = quote then (String.ofList (quote :: acc).reverse, b :: r')
    else (String.ofList acc.reverse, r)
  | [a] => if a = quote then (String.ofList (quote :: acc).reverse, []) else
      (String.ofList acc.reverse, r)
  | [] => (String.ofList acc.reverse, [])

inductive Joining where
  | no
  | sameLine
  | nextLines
deriving DecidableEq, Repr

def multiBasicTail : Joining → List Char → List Char → Option (String × List Char)
  | _, _, [] => none
  | .sameLine, acc, c :: r =>
    if c = '\n' then multiBasicTail .nextLines acc r
    else if c = ' ' || c = '\t' then multiBasicTail .sameLine acc r
    else none
  | _, acc, '"' :: '"' :: '"' :: r => some (closeMulti '"' acc r)
  | _, acc, '\\' :: 'u' :: a :: b :: c :: d :: r =>
    (numberedChar? [a, b, c, d]).bind fun x => multiBasicTail .no (x :: acc) r
  | _, acc, '\\' :: 'U' :: a :: b :: c :: d :: e :: f :: g :: h :: r =>
    (numberedChar? [a, b, c, d, e, f, g, h]).bind fun x => multiBasicTail .no (x :: acc) r
  | _, acc, '\\' :: e :: r =>
    if e = '\n' then multiBasicTail .nextLines acc r
    else if e = ' ' || e = '\t' then multiBasicTail .sameLine acc r
    else (letterEscape e).bind fun x => multiBasicTail .no (x :: acc) r
  | joining, acc, c :: r =>
    if joining = .nextLines && (c = '\n' || c = ' ' || c = '\t') then
      multiBasicTail .nextLines acc r
    else if isPlainChar c || c = '\n' then multiBasicTail .no (c :: acc) r
    else none

def multiLiteralTail (acc : List Char) : List Char → Option (String × List Char)
  | [] => none
  | c :: r =>
    match c, r with
    | a, b :: d :: r' =>
      if a = apostrophe && b = apostrophe && d = apostrophe then
        some (closeMulti apostrophe acc r')
      else if isPlainChar a || a = '\n' then multiLiteralTail (a :: acc) r
      else none
    | a, _ => if isPlainChar a || a = '\n' then multiLiteralTail (a :: acc) r else none

def dropLineBreak : List Char → List Char
  | '\n' :: r => r
  | r => r

def readString : List Char → Option (String × List Char)
  | '"' :: '"' :: '"' :: r => multiBasicTail .no [] (dropLineBreak r)
  | '"' :: r => basicTail [] r
  | '\x27' :: '\x27' :: '\x27' :: r => multiLiteralTail [] (dropLineBreak r)
  | '\x27' :: r => literalTail [] r
  | _ => none

end Billboard.Toml
