import Billboard.Json.Shape
import Billboard.Settings.Tree

/-! Shapes of settings. JSON text has to have values of their own type; in a tree values are taken
for one another. -/

namespace Billboard.Settings

open Json (Reader Slot Step)
open Text (IntRange)

structure Shape (α : Type) where
  json : Reader α
  tree : Tree → Except (List Step) α

def misfit : Option α → Except (List Step) α
  | some a => .ok a
  | none => .error []

namespace Shape

def text : Shape String := ⟨Json.string, fun t => misfit t.toText?⟩

def flag : Shape Bool := ⟨Json.boolean, fun t => misfit t.toBool?⟩

def u16 : Shape Nat := ⟨Json.u16, fun t => misfit (t.toNat? .u16)⟩

def u32 : Shape Nat := ⟨Json.u32, fun t => misfit (t.toNat? .u32)⟩

def u64 : Shape Nat := ⟨Json.u64, fun t => misfit (t.toNat? .u64)⟩

def usize : Shape Nat := ⟨Json.usize, fun t => misfit (t.toNat? .u64)⟩

def optional (s : Shape α) : Shape (Option α) where
  json := Json.optional s.json
  tree
    | .nil => .ok none
    | t => (s.tree t).map some

def variant (names : List (String × α)) : Shape α where
  json := Json.variant names
  tree t :=
    let named (k : String) : Option α := (names.find? (·.1 == k)).map (·.2)
    match t with
    | .text s => misfit (named s)
    | .table [(k, _)] => misfit (named k)
    | _ => .error []

end Shape

structure Field (σ : Type) where
  slot : Slot σ
  tree : Tree → Except (List Step) (σ → σ)

namespace Field

def defaulted (name : String) (s : Shape α) (put : α → σ → σ) : Field σ :=
  ⟨.defaulted name s.json put, fun t => (s.tree t).map put⟩

def required (name : String) (s : Shape α) (put : α → σ → σ) : Field σ :=
  ⟨.required name s.json put, fun t => (s.tree t).map put⟩

def put (f : Field σ) (step : Step) (t : Tree) (draft : σ) : Except (List Step) σ :=
  match f.tree t with
  | .ok g => .ok (g draft)
  | .error path => .error (step :: path)

end Field

def readMembers (fields : List (Field σ)) : List (String × Tree) → σ → Except (List Step) σ
  | [], draft => .ok draft
  | (k, t) :: rest, draft =>
    match fields.find? (·.slot.name == k) with
    | none => readMembers fields rest draft
    | some f =>
      match f.put (.field k) t draft with
      | .ok draft => readMembers fields rest draft
      | .error path => .error path

def readItems : Nat → List (Field σ) → List Tree → σ → Except (List Step) σ
  | _, [], _, draft => .ok draft
  | _, fields, [], draft => if fields.any (·.slot.needed) then .error [] else .ok draft
  | i, f :: fields, t :: rest, draft =>
    match f.put (.index i) t draft with
    | .ok draft => readItems (i + 1) fields rest draft
    | .error path => .error path

def Shape.record (title : String) (fields : List (Field σ)) (start : σ) : Shape σ where
  json := Json.record title (fields.map (·.slot)) start
  tree
    | .table members =>
      match Json.firstMissing (fields.map (·.slot)) (members.map (·.1)) with
      | none => readMembers fields members start
      | some name =>
        match readMembers fields members start with
        | .ok _ => .error [.field name]
        | .error path => .error path
    | .list items => readItems 0 fields items start
    | _ => .error []

end Billboard.Settings
