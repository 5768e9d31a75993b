import Billboard.Text.Split

namespace Billboard.Http

def isTokenChar (c : Char) : Bool :=
  c.isAlphanum || "!#$%&'*+-.^_`|~".toList.contains c

def isQuotedChar (c : Char) : Bool := 31 < c.toNat && c.toNat != 127

def afterQuoted : List Char → Option (List Char)
  | [] => some []
  | ';' :: rest => some rest
  | ' ' :: rest => afterQuoted rest
  | _ => none

def quotedValue : Bool → List Char → Option (List Char)
  | _, [] => none
  | first, c :: rest =>
    if c = '"' && !first then afterQuoted rest
    else if isQuotedChar c then quotedValue false rest
    else none

def paramValue (cs : List Char) : Option (List Char) :=
  match cs with
  | '"' :: rest => quotedValue true rest
  | _ =>
    match cs.dropWhile isTokenChar with
    | [] => some []
    | ';' :: rest => if (cs.takeWhile isTokenChar).isEmpty then none else some rest
    | _ => none

def param (cs : List Char) : Option (List Char) :=
  let cs := cs.dropWhile (· == ' ')
  if cs.isEmpty then some []
  else
    match cs.dropWhile isTokenChar with
    | '=' :: rest => if (cs.takeWhile isTokenChar).isEmpty then none else paramValue rest
    | _ => none

def areParams : Nat → List Char → Bool
  | 0, cs => cs.isEmpty
  | fuel + 1, cs =>
    if cs.isEmpty then true
    else
      match param cs with
      | none => false
      | some rest => areParams fuel rest

structure MediaType where
  kind : String
  subtype : String
  suffix : Option String := none
deriving DecidableEq, Repr

namespace MediaType

def lower (cs : List Char) : String := String.ofList (cs.map Char.toLower)

def ofText? (s : String) : Option MediaType :=
  let cs := s.toList
  let kind := cs.takeWhile isTokenChar
  match cs.dropWhile isTokenChar with
  | '/' :: rest =>
    let sub := rest.takeWhile isTokenChar
    let params := rest.dropWhile isTokenChar
    let tailOk := match params with
      | [] => true
      | ';' :: ps => !sub.isEmpty && areParams ps.length ps
      | _ => false
    if kind.isEmpty || !tailOk then none
    else
      match Text.cutAtLast '+' sub with
      | some (c :: name, suffix) => some ⟨lower kind, lower (c :: name), some (lower suffix)⟩
      | _ => some ⟨lower kind, lower sub, none⟩
  | _ => none

def isJson (m : MediaType) : Bool :=
  m.kind == "application" && (m.subtype == "json" || m.suffix == some "json")

end MediaType

end Billboard.Http
