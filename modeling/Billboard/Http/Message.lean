import Billboard.Text.Split

namespace Billboard.Http

open Text

inductive Method where
  | get
  | head
  | post
  | patch
  | delete
  | options
  | other (name : String)
deriving DecidableEq, Repr

def Method.ofName : String → Method
  | "GET" => .get
  | "HEAD" => .head
  | "POST" => .post
  | "PATCH" => .patch
  | "DELETE" => .delete
  | "OPTIONS" => .options
  | name => .other name

abbrev Headers := List (String × String)

structure Request where
  method : Method := .get
  path : List Char
  query : List Char := []
  headers : Headers := []
  body : ByteArray := .empty

def pathOf (cs : List Char) : List Char :=
  match cs with
  | '/' :: _ => cs
  | [] => ['/']
  | _ =>
    match dropFront? "http://".toList cs with
    | none => cs
    | some rest =>
      match rest.dropWhile (· != '/') with
      | [] => ['/']
      | path => path

def splitTarget (target : List Char) : List Char × List Char :=
  let target := target.takeWhile (· != '#')
  (pathOf (target.takeWhile (· != '?')), (target.dropWhile (· != '?')).drop 1)

def Request.header? (r : Request) (name : String) : Option String :=
  (r.headers.find? (·.1 == name)).map (·.2)

def isPlainValue (s : String) : Bool :=
  s.toList.all fun c => c = '\t' || (32 ≤ c.toNat && c.toNat < 127)

def Request.token? (r : Request) : Option String :=
  match r.header? "token" with
  | none => none
  | some value =>
    let token := trim value
    if isPlainValue value && token != "" then some token else none

structure Response where
  status : Nat
  headers : Headers := []
  body : String := ""
deriving DecidableEq, Repr

namespace Response

def withHeaders (r : Response) (headers : Headers) : Response :=
  { r with headers := r.headers ++ headers }

def plain (status : Nat) : Response := { status := status }

def json (status : Nat) (body : String) : Response :=
  ⟨status, [("content-type", "application/json")], body⟩

end Response

end Billboard.Http
