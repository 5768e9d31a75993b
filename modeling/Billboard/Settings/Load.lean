import Billboard.Ini
import Billboard.Settings
import Billboard.Settings.Environment
import Billboard.Toml.Document
import Billboard.Yaml.Document

/-! The settings: what the file says, then what the environment says, then the check. -/

namespace Billboard.Settings

open Text

inductive LoadError where
  | build
  | misfit (path : List Json.Step)
  | invalid (reason : String)
deriving DecidableEq, Repr

structure File where
  name : String
  text : String
deriving DecidableEq, Repr

def extension (name : String) : String :=
  let base := ((name.toList.reverse.takeWhile (· != '/'))).reverse
  match cutAtLast '.' base with
  | some (_ :: _, ext) => String.ofList ext
  | _ => ""

mutual

def treeOfJson : Json → Tree
  | .null => .nil
  | .bool b => .bool b
  | .num (.int i) => .int i
  | .num (.float x) => .float x
  | .str s => .text s
  | .arr items => .list (treesOfJson items)
  | .obj ms => .table (membersOfJson ms)

def treesOfJson : List Json → List Tree
  | [] => []
  | v :: rest => treeOfJson v :: treesOfJson rest

def membersOfJson : List (String × Json) → Members
  | [] => []
  | (k, v) :: rest => (k, treeOfJson v) :: membersOfJson rest

end

def readJson (s : String) : Option Members :=
  match Json.parse? s with
  | some (.obj ms) => some (membersOfJson ms)
  | _ => none

def File.read? (f : File) : Option Members :=
  match extension f.name with
  | "toml" => Toml.read? f.text
  | "json" | "json5" => readJson f.text
  | "yaml" | "yml" => Yaml.read? f.text
  | "ini" => Ini.read? f.text
  | _ => none

def load (file : Option File) (env : List (String × String)) : Except LoadError Settings :=
  let members := match file with
    | none => some []
    | some f => f.read?
  match members with
  | none => .error .build
  | some ms =>
    let tree := Tree.putAll (Environment.settings env) (Tree.putAll ms (.table []))
    match shape.tree tree with
    | .error path => .error (.misfit path)
    | .ok s =>
      match s.flaw? with
      | some reason => .error (.invalid reason)
      | none => .ok s

end Billboard.Settings
