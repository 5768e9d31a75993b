import Billboard.Json.Value
import Billboard.Text.Quoted

namespace Billboard.Json

open Decimal (Binary64)
open Text

inductive Found where
  | null
  | bool (b : Bool)
  | num (n : Number)
  | str (s : String)
  | sequence
  | map
deriving DecidableEq, Repr

inductive Fault where
  | missingField (name : String)
  | duplicateField (name : String)
  | unknownVariant (name : String) (known : List String)
  | wrongType (found : Found) (expected : String)
  | outOfRange (value : Int) (expected : String)
  | wrongLength (length : Nat) (expected : String)
  | badTimestamp
deriving DecidableEq, Repr

inductive Step where
  | field (name : String)
  | index (i : Nat)
deriving DecidableEq, Repr

inductive ReadError where
  | malformed
  | data (path : List Step) (fault : Fault)
deriving DecidableEq, Repr

def Found.describe : Found → String
  | .null => "null"
  | .bool true => "boolean `true`"
  | .bool false => "boolean `false`"
  | .num (.int i) => "integer `" ++ intText i ++ "`"
  | .num (.float x) => "floating point `" ++ String.ofList (x.render Binary64.jsonLayout) ++ "`"
  | .str s => "string " ++ Text.quote s
  | .sequence => "sequence"
  | .map => "map"

def listNames : List String → String
  | [] => "there are no variants"
  | [a] => "expected `" ++ a ++ "`"
  | [a, b] => "expected `" ++ a ++ "` or `" ++ b ++ "`"
  | names => "expected one of " ++ String.intercalate ", " (names.map (fun n => "`" ++ n ++ "`"))

def Fault.message : Fault → String
  | .missingField name => "missing field `" ++ name ++ "`"
  | .duplicateField name => "duplicate field `" ++ name ++ "`"
  | .unknownVariant name known => "unknown variant `" ++ name ++ "`, " ++ listNames known
  | .wrongType found expected => "invalid type: " ++ found.describe ++ ", expected " ++ expected
  | .outOfRange i expected =>
    "invalid value: integer `" ++ intText i ++ "`, expected " ++ expected
  | .wrongLength n expected => "invalid length " ++ natText n ++ ", expected " ++ expected
  | .badTimestamp => "invalid timestamp"

def pathText : List Step → String
  | [] => ""
  | .field name :: rest => name ++ more rest
  | .index i :: rest => "[" ++ natText i ++ "]" ++ more rest
where
  more : List Step → String
    | [] => ""
    | .field name :: rest => "." ++ name ++ more rest
    | .index i :: rest => "[" ++ natText i ++ "]" ++ more rest

def ReadError.within (step : Step) : ReadError → ReadError
  | .malformed => .malformed
  | .data path fault => .data (step :: path) fault

end Billboard.Json
