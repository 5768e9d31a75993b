namespace Billboard.Text

def isBlank (c : Char) : Bool :=
  let n := c.toNat
  (9 ≤ n && n ≤ 13) || n == 32 || n == 0x85 || n == 0xA0 || n == 0x1680
    || (0x2000 ≤ n && n ≤ 0x200A) || n == 0x2028 || n == 0x2029 || n == 0x202F || n == 0x205F
    || n == 0x3000

def dropBlank (cs : List Char) : List Char := cs.dropWhile isBlank

def trimChars (cs : List Char) : List Char := (dropBlank (dropBlank cs).reverse).reverse

def trim (s : String) : String := String.ofList (trimChars s.toList)

variable {α : Type} [DecidableEq α]

def splitAt (mark : α) : List α → List (List α)
  | [] => [[]]
  | a :: rest =>
    if a = mark then [] :: splitAt mark rest
    else
      match splitAt mark rest with
      | [] => [[a]]
      | piece :: more => (a :: piece) :: more

def cutAt (mark : α) : List α → Option (List α × List α)
  | [] => none
  | a :: rest =>
    if a = mark then some ([], rest) else (cutAt mark rest).map fun (l, r) => (a :: l, r)

def cutAtLast (mark : α) : List α → Option (List α × List α)
  | [] => none
  | a :: rest =>
    match cutAtLast mark rest with
    | some (l, r) => some (a :: l, r)
    | none => if a = mark then some ([], rest) else none

def dropFront? : List α → List α → Option (List α)
  | [], l => some l
  | _ :: _, [] => none
  | b :: front, a :: l => if a = b then dropFront? front l else none

end Billboard.Text
