import Billboard.Settings.Tree

/-! Tables of TOML. One remembers how it came to be, because it is defined once. -/

namespace Billboard.Toml

open Settings (Tree)

inductive Node where
  | value (t : Tree)
  | table (passing dotted : Bool) (members : List (String × Node))
  | tables (items : List (List (String × Node)))
deriving Inhabited

abbrev Members := List (String × Node)

namespace Members

def get? (ms : Members) (k : String) : Option Node := (ms.find? (·.1 == k)).map (·.2)

def set : Members → String → Node → Members
  | [], k, n => [(k, n)]
  | (j, m) :: rest, k, n => if j = k then (k, n) :: rest else (j, m) :: set rest k n

end Members

def changeAt (dotted : Bool) (f : Bool → Members → Option Members) :
    List String → Bool → Members → Option Members
  | [], isDotted, ms => f isDotted ms
  | k :: path, _, ms =>
    match ms.get? k with
    | none => (changeAt dotted f path dotted []).map fun inner =>
        ms.set k (.table true dotted inner)
    | some (.value _) => none
    | some (.table passing isDotted inner) =>
      if dotted && !passing then none
      else (changeAt dotted f path isDotted inner).map fun inner =>
        ms.set k (.table passing isDotted inner)
    | some (.tables items) =>
      match items.getLast? with
      | none => none
      | some last => (changeAt dotted f path false last).map fun last =>
          ms.set k (.tables (items.dropLast ++ [last]))

def splitPath (path : List String) : Option (List String × String) :=
  path.getLast?.map fun k => (path.dropLast, k)

def putValue (path : List String) (t : Tree) (isDotted : Bool) (ms : Members) : Option Members := do
  let (way, key) ← splitPath path
  changeAt true (fun isDotted ms =>
    if isDotted = way.isEmpty then none
    else
      match ms.get? key with
      | none => some (ms.set key (.value t))
      | some _ => none) way isDotted ms

def openTable (path : List String) (root : Members) : Option Members := do
  let (way, key) ← splitPath path
  changeAt false (fun _ ms =>
    match ms.get? key with
    | none => some (ms.set key (.table false false []))
    | some (.table true false inner) => some (ms.set key (.table false false inner))
    | some _ => none) way false root

def openNext (path : List String) (root : Members) : Option Members := do
  let (way, key) ← splitPath path
  changeAt false (fun _ ms =>
    match ms.get? key with
    | none => some (ms.set key (.tables [[]]))
    | some (.tables items) => some (ms.set key (.tables (items ++ [[]])))
    | some _ => none) way false root

mutual

def Node.toTree : Node → Tree
  | .value t => t
  | .table _ _ ms => .table (membersToTree ms)
  | .tables items => .list (tablesToTree items)

def membersToTree : List (String × Node) → List (String × Tree)
  | [] => []
  | (k, n) :: rest => (k, n.toTree) :: membersToTree rest

def tablesToTree : List (List (String × Node)) → List Tree
  | [] => []
  | ms :: rest => .table (membersToTree ms) :: tablesToTree rest

end

end Billboard.Toml
