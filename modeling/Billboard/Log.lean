import Billboard.Text.Split
import Billboard.Text.Numeral

/-! The log. The directive that names the most of a line's part decides about the line. -/

namespace Billboard.Log

open Text

inductive Level where
  | error
  | warn
  | info
  | debug
  | trace
deriving DecidableEq, Repr

namespace Level

def rank : Level → Nat
  | .error => 1
  | .warn => 2
  | .info => 3
  | .debug => 4
  | .trace => 5

def name : Level → String
  | .error => "ERROR"
  | .warn => "WARN"
  | .info => "INFO"
  | .debug => "DEBUG"
  | .trace => "TRACE"

end Level

structure Line where
  level : Level
  part : String
  message : String
deriving DecidableEq, Repr

structure Directive where
  part : Option String := none
  limit : Nat
deriving DecidableEq, Repr

def limit? (cs : List Char) : Option Nat :=
  match String.ofList (cs.map Char.toLower) with
  | "off" => some 0
  | "error" => some 1
  | "warn" => some 2
  | "info" => some 3
  | "debug" => some 4
  | "trace" => some 5
  | _ =>
    match cs with
    | [c] => (digitValue? c).bind fun n => if n ≤ 5 then some n else none
    | _ => none

def isPartChar (c : Char) : Bool := c.isAlphanum || c == '_' || c == ':' || c == '-'

namespace Directive

def read? (cs : List Char) : Option Directive :=
  match limit? cs with
  | some n => some { limit := n }
  | none =>
    let name := cs.takeWhile isPartChar
    if name = [] then none
    else
      match cs.drop name.length with
      | [] => some ⟨some (String.ofList name), Level.trace.rank⟩
      | ['='] => some ⟨some (String.ofList name), Level.trace.rank⟩
      | '=' :: level => (limit? level).map fun n => ⟨some (String.ofList name), n⟩
      | _ => none

def weight? (d : Directive) (part : String) : Option Nat :=
  match d.part with
  | none => some 0
  | some name => (dropFront? name.toList part.toList).map fun _ => name.length + 1

end Directive

abbrev Filter := List Directive

namespace Filter

def upTo (level : String) : Filter := [{ limit := (limit? level.toList).getD Level.error.rank }]

def read? (s : String) : Option Filter :=
  match ((splitAt ',' s.toList).filter (· != [])).mapM fun cs => Directive.read? (trimChars cs) with
  | some [] => some [{ limit := Level.error.rank }]
  | r => r

def limit (f : Filter) (part : String) : Nat :=
  (f.foldl (fun (best : Nat × Nat) d =>
    match d.weight? part with
    | some w => if best.1 ≤ w then (w, d.limit) else best
    | none => best) (0, 0)).2

def admits (f : Filter) (l : Line) : Bool := l.level.rank ≤ f.limit l.part

end Filter

end Billboard.Log
