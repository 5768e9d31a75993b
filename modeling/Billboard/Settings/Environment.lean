import Billboard.Decimal.Reading
import Billboard.Settings.Merge

/-! Settings in variables, with two underscores between the keys of a path. -/

namespace Billboard.Settings.Environment

open Text

def mark : List Char := "banners__".toList

def dotted : List Char → List Char
  | '_' :: '_' :: rest => '.' :: dotted rest
  | c :: rest => c :: dotted rest
  | [] => []

def settingName? (varName : String) : Option String :=
  (dropFront? mark (varName.toList.map Char.toLower)).map fun rest => String.ofList (dotted rest)

def valueOf (s : String) : Tree :=
  match Tree.lowerAscii s with
  | "true" => .bool true
  | "false" => .bool false
  | _ =>
    match readInt .i64 s.toList with
    | .ok i => .int i
    | .error _ =>
      match Decimal.readNumber s.toList with
      | some x => .float x
      | none => .text s

def settings (env : List (String × String)) : List (String × Tree) :=
  env.filterMap fun (varName, value) => (settingName? varName).map fun name => (name, valueOf value)

end Billboard.Settings.Environment
