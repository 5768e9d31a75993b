import Billboard.Clock.Timestamp

/-! Conditions on rows. One may be neither true nor false, because a missing value compares to
nothing. -/

namespace Billboard.Postgres

open Clock (Timestamp)

inductive Value where
  | null
  | int (i : Int)
  | bool (b : Bool)
  | ints (is : List Int)
  | text (s : String)
  | json (s : String)
  | time (t : Timestamp)
  | bytes (bs : List UInt8)
deriving DecidableEq, Repr

abbrev Row := String → Value

def param (ps : List Value) (n : Nat) : Value := (ps[n - 1]?).getD .null

inductive Term where
  | column (name : String)
  | param (n : Nat)
  | typed (n : Nat) (type : String)
  | number (i : Nat)
  | cardinality (t : Term)
deriving DecidableEq, Repr

inductive Condition where
  | isNull (t : Term)
  | equal (a b : Term)
  | overlap (a b : Term)
  | holds (t : Term)
  | not (c : Condition)
  | either (a b : Condition)
  | both (a b : Condition)
deriving DecidableEq, Repr

namespace Term

def text : Term → String
  | .column name => name
  | .param n => "$" ++ Text.natText n
  | .typed n type => "$" ++ Text.natText n ++ "::" ++ type
  | .number i => Text.natText i
  | .cardinality t => "cardinality(" ++ t.text ++ ")"

def value (row : Row) (ps : List Value) : Term → Value
  | .column name => row name
  | .param n => Postgres.param ps n
  | .typed n _ => Postgres.param ps n
  | .number i => .int i
  | .cardinality t =>
    match t.value row ps with
    | .ints is => .int is.length
    | _ => .null

end Term

/-- What is known of a condition that need not be true or false. -/
abbrev Truth := Option Bool

namespace Truth

def neg : Truth → Truth
  | some b => some (!b)
  | none => none

def or : Truth → Truth → Truth
  | some true, _ => some true
  | _, some true => some true
  | some false, some false => some false
  | _, _ => none

def and : Truth → Truth → Truth
  | some false, _ => some false
  | _, some false => some false
  | some true, some true => some true
  | _, _ => none

end Truth

namespace Condition

def text : Condition → String
  | .isNull t => t.text ++ " IS NULL"
  | .equal a b => a.text ++ " = " ++ b.text
  | .overlap a b => a.text ++ " && " ++ b.text
  | .holds t => t.text
  | .not c => "NOT " ++ c.text
  | .either a b => "(" ++ a.text ++ " OR " ++ b.text ++ ")"
  | .both a b => a.text ++ " AND " ++ b.text

def truth (row : Row) (ps : List Value) : Condition → Truth
  | .isNull t => some (t.value row ps == .null)
  | .equal a b =>
    match a.value row ps, b.value row ps with
    | .null, _ => none
    | _, .null => none
    | v, w => some (v == w)
  | .overlap a b =>
    match a.value row ps, b.value row ps with
    | .ints is, .ints js => some (is.any js.contains)
    | _, _ => none
  | .holds t =>
    match t.value row ps with
    | .bool b => some b
    | _ => none
  | .not c => (c.truth row ps).neg
  | .either a b => (a.truth row ps).or (b.truth row ps)
  | .both a b => (a.truth row ps).and (b.truth row ps)

def selects (c : Condition) (ps : List Value) (row : Row) : Bool := c.truth row ps == some true

end Condition

end Billboard.Postgres
