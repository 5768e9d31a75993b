import Billboard.Settings.Merge
import Billboard.Yaml.Scalar

/-! Documents of YAML as settings are written in them. Anchors, tags and scalars of several lines
are refused. -/

namespace Billboard.Yaml

open Text
open Settings (Tree Members)

def skipSpace (cs : List Char) : List Char := cs.dropWhile fun c => c == ' ' || c == '\t'

def isDone (cs : List Char) : Bool :=
  match skipSpace cs with
  | [] => true
  | c :: _ => c == '#'

def splitPlain (bracketed : Bool) : List Char → List Char × List Char
  | [] => ([], [])
  | ' ' :: '#' :: rest => ([], ' ' :: '#' :: rest)
  | ':' :: rest =>
    let ends := match rest with
      | [] => true
      | c :: _ => c == ' ' || (bracketed && [',', ']', '\x7d'].contains c)
    if ends then ([], ':' :: rest)
    else
      let (s, r) := splitPlain bracketed rest
      (':' :: s, r)
  | c :: rest =>
    if bracketed && [',', '[', ']', '\x7b', '\x7d'].contains c then ([], c :: rest)
    else
      let (s, r) := splitPlain bracketed rest
      (c :: s, r)

def trimEnd (cs : List Char) : List Char :=
  (cs.reverse.dropWhile fun c => c == ' ' || c == '\t').reverse

def readScalar (bracketed : Bool) (cs : List Char) : Option (Tree × List Char) :=
  match cs with
  | [] => some (.nil, [])
  | '\'' :: rest => (singleTail rest).map fun (s, r) => (.text (String.ofList s), r)
  | '"' :: rest => (doubleTail (rest.length + 1) rest).map fun (s, r) => (.text (String.ofList s), r)
  | c :: rest =>
    if startsPlain c rest then
      let (s, r) := splitPlain bracketed cs
      some (plainValue (trimEnd s), r)
    else none

def keyOf? : Tree → Option String
  | .text s => some s
  | .int i => some (intText i)
  | _ => none

def addMember (ms : Members) (key : String) (t : Tree) : Option Members :=
  if (ms.get? key).isSome then none else some (ms ++ [(key, t)])

mutual

def readFlow : Nat → List Char → Option (Tree × List Char)
  | 0, _ => none
  | fuel + 1, cs =>
    match skipSpace cs with
    | '[' :: rest => (readFlowItems fuel [] rest).map fun (ts, r) => (.list ts, r)
    | '\x7b' :: rest => (readFlowMembers fuel [] rest).map fun (ms, r) => (.table ms, r)
    | rest => readScalar true rest

def readFlowItems : Nat → List Tree → List Char → Option (List Tree × List Char)
  | 0, _, _ => none
  | fuel + 1, ts, cs =>
    match skipSpace cs with
    | ']' :: rest => some (ts, rest)
    | cs => do
      let (t, rest) ← readFlow fuel cs
      match skipSpace rest with
      | ',' :: rest => readFlowItems fuel (ts ++ [t]) rest
      | ']' :: rest => return (ts ++ [t], rest)
      | _ => none

def readFlowMembers : Nat → Members → List Char → Option (Members × List Char)
  | 0, _, _ => none
  | fuel + 1, ms, cs =>
    match skipSpace cs with
    | '\x7d' :: rest => some (ms, rest)
    | cs => do
      let (k, rest) ← readScalar true cs
      let key ← keyOf? k
      let (t, rest) ← match skipSpace rest with
        | ':' :: rest => readFlow fuel rest
        | rest => some (.nil, rest)
      let ms ← addMember ms key t
      match skipSpace rest with
      | ',' :: rest => readFlowMembers fuel ms rest
      | '\x7d' :: rest => return (ms, rest)
      | _ => none

end

def readLineValue (cs : List Char) : Option Tree := do
  let (t, rest) ← match cs with
    | '[' :: _ | '\x7b' :: _ => readFlow (2 * cs.length + 2) cs
    | _ => readScalar false cs
  if isDone rest then return t else none

structure Line where
  indent : Nat
  text : List Char

def linesOf (text : List Char) : Option (List Line) :=
  ((splitAt '\n' (text.filter (· != '\r'))).filter fun l => !isDone l).mapM fun l =>
    let body := l.dropWhile (· == ' ')
    if body.head? = some '\t' then none else some ⟨l.length - body.length, body⟩

def itemOf? : List Char → Option (List Char)
  | ['-'] => some []
  | '-' :: ' ' :: rest => some rest
  | _ => none

def keyLine? (cs : List Char) : Option (String × List Char) := do
  let (k, rest) ← readScalar false cs
  let key ← keyOf? k
  match skipSpace rest with
  | [':'] => return (key, [])
  | ':' :: ' ' :: rest => return (key, skipSpace rest)
  | _ => none

mutual

def readBlock : Nat → List Line → Option (Tree × List Line)
  | 0, _ => none
  | _, [] => some (.nil, [])
  | fuel + 1, l :: ls =>
    if (itemOf? l.text).isSome then (readItems fuel l.indent [] (l :: ls)).map fun (ts, r) =>
      (.list ts, r)
    else if (keyLine? l.text).isSome then
      (readMembers fuel l.indent [] (l :: ls)).map fun (ms, r) => (.table ms, r)
    else (readLineValue l.text).map fun t => (t, ls)

def readItems : Nat → Nat → List Tree → List Line → Option (List Tree × List Line)
  | 0, _, _, _ => none
  | _, _, ts, [] => some (ts, [])
  | fuel + 1, indent, ts, l :: ls =>
    if l.indent < indent then some (ts, l :: ls)
    else if indent < l.indent then none
    else
      match itemOf? l.text with
      | none => some (ts, l :: ls)
      | some rest => do
        let body := skipSpace rest
        let (t, ls) ←
          if isDone body then readNested fuel (indent + 1) ls
          else readBlock fuel (⟨indent + (l.text.length - body.length), body⟩ :: ls)
        readItems fuel indent (ts ++ [t]) ls

def readMembers : Nat → Nat → Members → List Line → Option (Members × List Line)
  | 0, _, _, _ => none
  | _, _, ms, [] => some (ms, [])
  | fuel + 1, indent, ms, l :: ls =>
    if l.indent < indent then some (ms, l :: ls)
    else if indent < l.indent then none
    else do
      let (key, rest) ← keyLine? l.text
      let (t, ls) ←
        if isDone rest then
          match ls with
          | next :: _ =>
            if next.indent = indent && (itemOf? next.text).isSome then readBlock fuel ls
            else readNested fuel (indent + 1) ls
          | [] => some (.nil, [])
        else (readLineValue rest).map fun t => (t, ls)
      let ms ← addMember ms key t
      readMembers fuel indent ms ls

def readNested : Nat → Nat → List Line → Option (Tree × List Line)
  | 0, _, _ => none
  | _, _, [] => some (.nil, [])
  | fuel + 1, indent, l :: ls =>
    if l.indent < indent then some (.nil, l :: ls) else readBlock fuel (l :: ls)

end

def documentLines (ls : List Line) : Option (List Line) :=
  let isMark (mark : String) (l : Line) : Bool := l.indent == 0 && trimEnd l.text == mark.toList
  let ls := match ls with
    | l :: rest => if isMark "---" l then rest else l :: rest
    | [] => []
  let body := ls.takeWhile fun l => !isMark "..." l
  if body.any (isMark "---") || 1 < (ls.drop body.length).length then none else some body

def read? (text : String) : Option Members := do
  let ls ← linesOf text.toList
  let ls ← documentLines ls
  if ls.isEmpty then return []
  let (t, rest) ← readBlock (4 * text.length + 4) ls
  match t, rest with
  | .table ms, [] => return ms
  | _, _ => none

end Billboard.Yaml
