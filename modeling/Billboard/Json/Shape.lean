import Billboard.Json.Reader
import Billboard.Text.Utf8

/-! Readers for values of a known shape. The first fault met from the left is reported; that a field
is missing is seen at the end of the object. -/

namespace Billboard.Json

open Text

def wrongType (expected : String) (cs : List Char) : ReadError :=
  let fault (found : Found) : ReadError := .data [] (.wrongType found expected)
  match cs with
  | 'n' :: r => match expectWord ['u', 'l', 'l'] r with
    | .ok _ => fault .null
    | .error e => e
  | 't' :: r => match expectWord ['r', 'u', 'e'] r with
    | .ok _ => fault (.bool true)
    | .error e => e
  | 'f' :: r => match expectWord ['a', 'l', 's', 'e'] r with
    | .ok _ => fault (.bool false)
    | .error e => e
  | '"' :: r => match readStringTail r with
    | .ok (s, _) => fault (.str s)
    | .error e => e
  | '[' :: _ => fault .sequence
  | '{' :: _ => fault .map
  | '-' :: r => match readNumberTail true r with
    | .ok (n, _) => fault (.num n)
    | .error e => e
  | r => match readNumberTail false r with
    | .ok (n, _) => fault (.num n)
    | .error e => e

def takeInt (range : IntRange) (label : String) (n : Number) : Except ReadError Int :=
  match n with
  | .int i => if range.contains i then .ok i else .error (.data [] (.outOfRange i label))
  | .float x => .error (.data [] (.wrongType (.num (.float x)) label))

def integer (range : IntRange) (label : String) : Reader Int := fun _ cs =>
  match skipSpace cs with
  | '-' :: r =>
    match readNumberTail true r with
    | .error e => .error e
    | .ok (n, r) => (takeInt range label n).map (·, r)
  | c :: r =>
    if isDigit c then
      match readNumberTail false (c :: r) with
      | .error e => .error e
      | .ok (n, r) => (takeInt range label n).map (·, r)
    else .error (wrongType label (c :: r))
  | [] => .error .malformed

def natural (range : IntRange) (label : String) : Reader Nat := fun b cs =>
  (integer range label b cs).map fun (i, r) => (i.toNat, r)

def i32 : Reader Int := integer .i32 "i32"
def i64 : Reader Int := integer .i64 "i64"
def u16 : Reader Nat := natural .u16 "u16"
def u32 : Reader Nat := natural .u32 "u32"
def u64 : Reader Nat := natural .u64 "u64"
def usize : Reader Nat := natural .u64 "usize"

def stringAs (label : String) : Reader String := fun _ cs =>
  match skipSpace cs with
  | '"' :: r => readStringTail r
  | [] => .error .malformed
  | r => .error (wrongType label r)

def string : Reader String := stringAs "a string"

def boolean : Reader Bool := fun _ cs =>
  match skipSpace cs with
  | 't' :: r => (expectWord ['r', 'u', 'e'] r).map (true, ·)
  | 'f' :: r => (expectWord ['a', 'l', 's', 'e'] r).map (false, ·)
  | [] => .error .malformed
  | r => .error (wrongType "a boolean" r)

def optional (read : Reader α) : Reader (Option α) := fun b cs =>
  match skipSpace cs with
  | 'n' :: r => (expectWord ['u', 'l', 'l'] r).map (none, ·)
  | r => (read b r).map fun (a, r) => (some a, r)

def any : Reader Json := fun b cs => readValue b.steps b.room cs

def object : Reader (List (String × Json)) := fun b cs =>
  match skipSpace cs with
  | '{' :: r =>
    match readValue b.steps b.room ('{' :: r) with
    | .ok (.obj members, r) => .ok (members, r)
    | .ok _ => .error .malformed
    | .error e => .error e
  | [] => .error .malformed
  | r => .error (wrongType "a map" r)

def within (step : Step) (read : Reader α) : Reader α := fun b cs =>
  match read b cs with
  | .ok a => .ok a
  | .error e => .error (e.within step)

def sequenceTail (read : Reader α) (room : Nat) : Nat → List α → List Char →
    Except ReadError (List α × List Char)
  | 0, _, _ => .error .malformed
  | steps + 1, acc, cs =>
    match within (.index acc.length) read ⟨steps, room⟩ cs with
    | .error e => .error e
    | .ok (a, rest) =>
      match skipSpace rest with
      | ']' :: r => .ok ((a :: acc).reverse, r)
      | ',' :: r =>
        match skipSpace r with
        | ']' :: _ => .error .malformed
        | r => sequenceTail read room steps (a :: acc) r
      | _ => .error .malformed

def sequence (read : Reader α) : Reader (List α) := fun b cs =>
  match skipSpace cs with
  | '[' :: r =>
    match b.room with
    | 0 => .error .malformed
    | room + 1 =>
      match skipSpace r with
      | ']' :: r => .ok ([], r)
      | [] => .error .malformed
      | r => sequenceTail read room b.steps [] r
  | [] => .error .malformed
  | r => .error (wrongType "a sequence" r)

def variant (names : List (String × α)) : Reader α := fun b cs =>
  let known (k : String) : Except ReadError α :=
    match names.find? (·.1 == k) with
    | some v => .ok v.2
    | none => .error (.data [] (.unknownVariant k (names.map (·.1))))
  match skipSpace cs with
  | '"' :: r =>
    match readStringTail r with
    | .error e => .error e
    | .ok (k, r) => (known k).map (·, r)
  | '{' :: r =>
    match b.room with
    | 0 => .error .malformed
    | _ + 1 =>
      match stringAs "variant identifier" b r with
      | .error e => .error e
      | .ok (k, r) =>
        match known k with
        | .error e => .error e
        | .ok v =>
          match skipSpace r with
          | ':' :: r =>
            match skipSpace r with
            | 'n' :: r =>
              match expectWord ['u', 'l', 'l'] r with
              | .error e => .error e
              | .ok r =>
                match skipSpace r with
                | '}' :: r => .ok (v, r)
                | _ => .error .malformed
            | r => .error ((wrongType "unit" r).within (.field k))
          | _ => .error .malformed
  | _ => .error .malformed

structure Slot (σ : Type) where
  name : String
  read : Reader (σ → σ)
  needed : Bool
  listed : Bool

def Slot.required (name : String) (read : Reader α) (put : α → σ → σ) : Slot σ :=
  ⟨name, fun b cs => (read b cs).map fun (a, r) => (put a, r), true, true⟩

def Slot.defaulted (name : String) (read : Reader α) (put : α → σ → σ) : Slot σ :=
  ⟨name, fun b cs => (read b cs).map fun (a, r) => (put a, r), false, false⟩

def Slot.nullable (name : String) (read : Reader α) (put : Option α → σ → σ) : Slot σ :=
  ⟨name, fun b cs => (optional read b cs).map fun (a, r) => (put a, r), false, true⟩

def structName (title : String) : String := "struct " ++ title

def structSize (title : String) (n : Nat) : String :=
  structName title ++ " with " ++ natText n ++ (if n = 1 then " element" else " elements")

def firstMissing (slots : List (Slot σ)) (seen : List String) : Option String :=
  (slots.find? fun s => s.needed && !seen.contains s.name).map (·.name)

def recordMembers (slots : List (Slot σ)) (room : Nat) : Nat → List String → σ → List Char →
    Except ReadError (σ × List Char)
  | 0, _, _, _ => .error .malformed
  | steps + 1, seen, draft, cs =>
    match cs with
    | '"' :: r =>
      match readStringTail r with
      | .error e => .error e
      | .ok (k, r) =>
        let next (seen : List String) (draft : σ) (r : List Char) :
            Except ReadError (σ × List Char) :=
          match skipSpace r with
          | '}' :: r =>
            match firstMissing slots seen with
            | some name => .error (.data [] (.missingField name))
            | none => .ok (draft, r)
          | ',' :: r => recordMembers slots room steps seen draft (skipSpace r)
          | _ => .error .malformed
        match slots.find? (·.name == k) with
        | none =>
          match skipSpace r with
          | ':' :: r =>
            match skipValue steps r with
            | .error e => .error e
            | .ok r => next seen draft r
          | _ => .error .malformed
        | some slot =>
          if seen.contains k then .error (.data [] (.duplicateField k))
          else
            match skipSpace r with
            | ':' :: r =>
              match within (.field k) slot.read ⟨steps, room⟩ r with
              | .error e => .error e
              | .ok (put, r) => next (k :: seen) (put draft) r
            | _ => .error .malformed
    | _ => .error .malformed

def recordItems (title : String) (size room steps : Nat) : Nat → List (Slot σ) → σ → List Char →
    Except ReadError (σ × List Char)
  | _, [], draft, cs =>
    match skipSpace cs with
    | ']' :: r => .ok (draft, r)
    | _ => .error .malformed
  | i, slot :: rest, draft, cs =>
    let item (cs : List Char) : Except ReadError (σ × List Char) :=
      match within (.index i) slot.read ⟨steps, room⟩ cs with
      | .error e => .error e
      | .ok (put, r) => recordItems title size room steps (i + 1) rest (put draft) r
    match skipSpace cs with
    | ']' :: r =>
      if (slot :: rest).any (·.listed) then
        -- the first field that an array has to reach
        let at_ := i + ((slot :: rest).takeWhile (!·.listed)).length
        .error (.data [] (.wrongLength at_ (structSize title size)))
      else .ok (draft, r)
    | [] => .error .malformed
    | r =>
      if i = 0 then item r
      else
        match r with
        | ',' :: r =>
          match skipSpace r with
          | ']' :: _ => .error .malformed
          | r => item r
        | _ => .error .malformed

def record (title : String) (slots : List (Slot σ)) (start : σ) : Reader σ := fun b cs =>
  match skipSpace cs with
  | '{' :: r =>
    match b.room with
    | 0 => .error .malformed
    | room + 1 =>
      match skipSpace r with
      | '}' :: r =>
        match firstMissing slots [] with
        | some name => .error (.data [] (.missingField name))
        | none => .ok (start, r)
      | r => recordMembers slots room b.steps [] start r
  | '[' :: r =>
    match b.room with
    | 0 => .error .malformed
    | room + 1 => recordItems title slots.length room b.steps 0 slots start r
  | [] => .error .malformed
  | r => .error (wrongType (structName title) r)

def mapped (f : α → β) (read : Reader α) : Reader β := fun b cs =>
  (read b cs).map fun (a, r) => (f a, r)

def decode (read : Reader α) (s : String) : Except ReadError α := readAll read s.toList

def brokenRun : List Char := ['?', '\\', 'u', 'd', '8', '0', '0', '\\', 'u', 'd', '8', '0', '0']

/-- A run of bytes that is no UTF-8 reads as the escape of half a surrogate pair, which a string
that is kept refuses and one that is skipped lets pass. -/
def charsOfBytes (bytes : ByteArray) : List Char :=
  match String.fromUTF8? bytes with
  | some s => s.toList
  | none => (Text.utf8Chars bytes.data.toList).flatMap fun
    | some c => [c]
    | none => brokenRun

def decodeBytes (read : Reader α) (bytes : ByteArray) : Except ReadError α :=
  readAll read (charsOfBytes bytes)

end Billboard.Json
