import Billboard.Settings.Tree
import Billboard.Text.Split

/-! Settings put together. A table that is put where there is one already is merged with it. -/

namespace Billboard.Settings

open Text

inductive PathStep where
  | key (name : String)
  | position (i : Int)
deriving DecidableEq, Repr

def isKeyChar (c : Char) : Bool := c.isAlphanum || c = '_' || c = '-'

def readPosition (cs : List Char) : Option Int :=
  let cs := (cs.dropWhile (· == ' ')).reverse.dropWhile (· == ' ') |>.reverse
  match cs with
  | '+' :: _ => none
  | _ => (readInt .i64 cs).toOption

def readSteps : Nat → List Char → Option (List PathStep)
  | _, [] => some []
  | 0, _ => none
  | fuel + 1, '.' :: rest =>
    let key := rest.takeWhile isKeyChar
    if key.isEmpty then none
    else (readSteps fuel (rest.dropWhile isKeyChar)).map (.key (String.ofList key) :: ·)
  | fuel + 1, '[' :: rest => do
    let (inner, rest) ← cutAt ']' rest
    let i ← readPosition inner
    let steps ← readSteps fuel rest
    return .position i :: steps
  | _, _ => none

def pathOf (name : String) : List PathStep :=
  let cs := name.toList
  let key := cs.takeWhile isKeyChar
  match readSteps cs.length (cs.dropWhile isKeyChar) with
  | some steps => if key.isEmpty then [.key name] else .key (String.ofList key) :: steps
  | none => [.key name]

abbrev Members := List (String × Tree)

namespace Members

def get? (ms : Members) (k : String) : Option Tree := (ms.find? (·.1 == k)).map (·.2)

def set : Members → String → Tree → Members
  | [], k, t => [(k, t)]
  | (j, u) :: rest, k, t => if j = k then (k, t) :: rest else (j, u) :: set rest k t

end Members

namespace Tree

def members : Tree → Members
  | .table ms => ms
  | _ => []

def items : Tree → List Tree
  | .list ts => ts
  | _ => []

mutual

def merge (old : Tree) : Tree → Tree
  | .table ms => .table (mergeMembers old.members ms)
  | t => t

def mergeMembers (old : Members) : Members → Members
  | [] => old
  | (k, t) :: rest => mergeMembers (old.set k (merge ((old.get? k).getD .nil) t)) rest

end

def reach (ts : List Tree) (i : Int) : List Tree × Nat :=
  if 0 ≤ i then (ts ++ List.replicate (i.toNat + 1 - ts.length) .nil, i.toNat)
  else
    let missing := i.natAbs - ts.length
    (List.replicate missing .nil ++ ts, ts.length + missing - i.natAbs)

def put (t : Tree) : List PathStep → Tree → Tree
  | [], old => merge old t
  | .key k :: path, old =>
    .table (old.members.set k (put t path ((old.members.get? k).getD .nil)))
  | .position i :: path, old =>
    let (ts, n) := reach old.items i
    .list (ts.set n (put t path (ts.getD n .nil)))

def putAll (named : List (String × Tree)) (t : Tree) : Tree :=
  named.foldl (fun t (name, v) => put v (pathOf name) t) t

end Tree

end Billboard.Settings
