import Billboard.Proofs.Json.Numbers
import Billboard.Proofs.Json.Strings

/-! Values without floating point numbers are read back. -/

namespace Billboard.Json

open Text

def SortedKeys (members : List (String × Json)) : Prop := members.Pairwise fun m n => m.1 < n.1

mutual

def Exact : Json → Prop
  | .num n => n.Exact
  | .arr items => ExactItems items
  | .obj members => SortedKeys members ∧ ExactMembers members
  | _ => True

def ExactItems : List Json → Prop
  | [] => True
  | v :: rest => Exact v ∧ ExactItems rest

def ExactMembers : List (String × Json) → Prop
  | [] => True
  | (_, v) :: rest => Exact v ∧ ExactMembers rest

end

mutual

def depth : Json → Nat
  | .arr items => depthItems items + 1
  | .obj members => depthMembers members + 1
  | _ => 0

def depthItems : List Json → Nat
  | [] => 0
  | v :: rest => max (depth v) (depthItems rest)

def depthMembers : List (String × Json) → Nat
  | [] => 0
  | (_, v) :: rest => max (depth v) (depthMembers rest)

end

lemma readValue_digit (steps room : Nat) {c : Char} (r : List Char) (hc : isDigit c = true) :
    readValue (steps + 1) room (c :: r) =
      (readNumberTail false (c :: r)).map fun (n, r) => (.num n, r) := by
  rw [readValue, skipSpace_cons _ (not_space_of_digit hc)]
  split <;> rename_i h <;> first
    | (obtain ⟨rfl, -⟩ := List.cons.inj h; exact (Bool.false_ne_true hc).elim)
    | rfl

lemma readValue_minus (steps room : Nat) (r : List Char) :
    readValue (steps + 1) room ('-' :: r) =
      (readNumberTail true r).map fun p => (.num p.1, p.2) := by
  rw [readValue, skipSpace_cons _ (by decide)]
  rfl

lemma Number.write_eq_cons (n : Number) :
    ∃ c cs, n.write = c :: cs ∧ isSpace c = false ∧ c ≠ ']' := by
  obtain ⟨t, ht, hw⟩ := n.write_eq_signed
  obtain ⟨c, cs, hc, hdigit⟩ := ht.text_eq_cons
  rw [hw, NumberText.signed]
  split_ifs
  · exact ⟨'-', _, rfl, by decide, by decide⟩
  · refine ⟨c, cs, hc, not_space_of_digit hdigit, ?_⟩
    rintro rfl
    exact Bool.false_ne_true hdigit

lemma write_eq_cons (v : Json) : ∃ c cs, write v = c :: cs ∧ isSpace c = false ∧ c ≠ ']' := by
  match v with
  | .null => exact ⟨_, _, rfl, by decide, by decide⟩
  | .bool true => exact ⟨_, _, rfl, by decide, by decide⟩
  | .bool false => exact ⟨_, _, rfl, by decide, by decide⟩
  | .num n => exact n.write_eq_cons
  | .str s => exact ⟨_, _, rfl, by decide, by decide⟩
  | .arr items => exact ⟨_, _, rfl, by decide, by decide⟩
  | .obj members => exact ⟨_, _, rfl, by decide, by decide⟩

lemma writeItems_eq_cons (v : Json) (items : List Json) :
    ∃ c cs, writeItems (v :: items) = c :: cs ∧ isSpace c = false ∧ c ≠ ']' := by
  obtain ⟨c, cs, h, hc⟩ := write_eq_cons v
  cases items with
  | nil => exact ⟨c, _, by simp only [writeItems, h]; rfl, hc⟩
  | cons w items => exact ⟨c, _, by simp only [writeItems, h]; rfl, hc⟩

lemma writeMembers_eq_cons (k : String) (v : Json) (members : List (String × Json)) :
    ∃ cs, writeMembers ((k, v) :: members) = '"' :: cs := by
  cases members <;> exact ⟨_, rfl⟩

lemma write_length_pos (v : Json) : 0 < (write v).length := by
  obtain ⟨c, cs, h, -⟩ := write_eq_cons v
  simp [h]

lemma readValue_int (steps room : Nat) {i : Int} (hi : Number.Exact (.int i)) {rest : List Char}
    (hr : Delimited rest) :
    readValue (steps + 1) room (intDigits i ++ rest) = .ok (.int i, rest) := by
  cases i with
  | ofNat n =>
    have hn : (n : Int) < 0x10000000000000000 := hi.2
    obtain ⟨c, ds, hds, hc⟩ := natDigits_eq_cons n
    have ht := readNumberTail_nat (show n < _ by omega) hr
    simp only [intDigits, hds, List.cons_append] at ht ⊢
    rw [readValue_digit steps room _ hc, ht]
    rfl
  | negSucc n =>
    have hn := hi.1
    rw [intDigits, List.cons_append, readValue_minus,
      readNumberTail_neg (Nat.succ_pos n) (show n + 1 ≤ _ by omega) hr]
    rfl

lemma readValue_string (steps room : Nat) (s : String) (rest : List Char) :
    readValue (steps + 1) room (writeString s ++ rest) = .ok (.str s, rest) := by
  rw [writeString_cons, readValue, skipSpace_cons _ (by decide)]
  simp only [readStringTail_written]
  rfl

lemma insertMember_last {acc : List (String × Json)} {k : String} (v : Json)
    (h : ∀ m ∈ acc, m.1 < k) : insertMember k v acc = acc ++ [(k, v)] := by
  induction acc with
  | nil => rfl
  | cons m acc ih =>
    obtain ⟨j, w⟩ := m
    have hj : j < k := h _ List.mem_cons_self
    rw [insertMember, if_neg (String.lt_asymm hj), if_neg (fun e => String.lt_irrefl _ (e ▸ hj)),
      ih fun m hm => h m (List.mem_cons_of_mem _ hm)]
    rfl

lemma SortedKeys.before {acc rest : List (String × Json)} {k : String} {v : Json}
    (h : SortedKeys (acc ++ (k, v) :: rest)) : ∀ m ∈ acc, m.1 < k := by
  intro m hm
  exact (List.pairwise_append.mp h).2.2 m hm _ List.mem_cons_self

lemma readValue_square (steps room : Nat) {c : Char} (cs : List Char) (hs : isSpace c = false)
    (hc : c ≠ ']') :
    readValue (steps + 1) (room + 1) ('[' :: c :: cs) = readItems steps room [] (c :: cs) := by
  rw [readValue, skipSpace_cons _ (by decide)]
  simp only [skipSpace_cons cs hs]
  split
  · rename_i h
    exact (hc (List.cons.inj h).1).elim
  · rfl

lemma readValue_curly (steps room : Nat) (cs : List Char) :
    readValue (steps + 1) (room + 1) ('{' :: '"' :: cs) = readMembers steps room [] ('"' :: cs) := by
  rw [readValue, skipSpace_cons _ (by decide)]
  simp only [skipSpace_cons cs (show isSpace '"' = false by decide)]
  rfl

mutual

theorem readValue_write (v : Json) (steps room : Nat) (rest : List Char) (hv : Exact v)
    (hd : depth v ≤ room) (hl : (write v).length ≤ steps) (hr : Delimited rest) :
    readValue steps room (write v ++ rest) = .ok (v, rest) := by
  obtain ⟨steps, rfl⟩ : ∃ n, steps = n + 1 :=
    ⟨steps - 1, by have := write_length_pos v; omega⟩
  match v, hv with
  | .null, _ => rfl
  | .bool true, _ => rfl
  | .bool false, _ => rfl
  | .num (.int i), hv => exact readValue_int steps room hv hr
  | .num (.float _), hv => exact hv.elim
  | .str s, _ => exact readValue_string steps room s rest
  | .arr items, hv =>
    obtain ⟨room, rfl⟩ : ∃ n, room = n + 1 := ⟨room - 1, by simp only [depth] at hd; omega⟩
    match items, hv with
    | [], _ => rfl
    | v :: items, hv =>
      have hi := readItems_write (v :: items) (List.cons_ne_nil _ _) steps room [] rest hv
        (by simp only [depth] at hd; omega) (by simp only [write, List.length_cons] at hl; omega)
      obtain ⟨c, cs, hc, hs, hb⟩ := writeItems_eq_cons v items
      simp only [write, hc, List.cons_append] at hi ⊢
      rw [readValue_square steps room _ hs hb, hi]
      rfl
  | .obj members, hv =>
    obtain ⟨room, rfl⟩ : ∃ n, room = n + 1 := ⟨room - 1, by simp only [depth] at hd; omega⟩
    match members, hv with
    | [], _ => rfl
    | (k, v) :: members, hv =>
      have hm := readMembers_write ((k, v) :: members) (List.cons_ne_nil _ _) steps room [] rest
        hv.1 hv.2 (by simp only [depth] at hd; omega)
        (by simp only [write, List.length_cons] at hl; omega)
      obtain ⟨cs, hc⟩ := writeMembers_eq_cons k v members
      simp only [write, hc, List.cons_append] at hm ⊢
      rw [readValue_curly, hm]
      rfl

theorem readItems_write (items : List Json) (hne : items ≠ []) (steps room : Nat)
    (acc : List Json) (rest : List Char) (hv : ExactItems items) (hd : depthItems items ≤ room)
    (hl : (writeItems items).length ≤ steps) :
    readItems steps room acc (writeItems items ++ rest) = .ok (.arr (acc.reverse ++ items), rest) := by
  match items, hne, hv with
  | [v], _, hv =>
    simp only [writeItems, List.length_append, List.length_singleton] at hl
    obtain ⟨steps, rfl⟩ : ∃ n, steps = n + 1 := ⟨steps - 1, by omega⟩
    have hr := readValue_write v steps room (']' :: rest) hv.1
      (by simp only [depthItems] at hd; omega) (by omega) (.square rest)
    simp only [writeItems, List.append_assoc, List.singleton_append]
    rw [readItems, hr]
    simp [skipSpace_cons rest (show isSpace ']' = false by decide)]
  | v :: w :: items, _, hv =>
    simp only [writeItems, List.length_append, List.length_cons] at hl
    obtain ⟨steps, rfl⟩ : ∃ n, steps = n + 1 := ⟨steps - 1, by omega⟩
    have hr := readValue_write v steps room (',' :: (writeItems (w :: items) ++ rest)) hv.1
      (by simp only [depthItems] at hd; omega) (by omega) (.comma _)
    have hi := readItems_write (w :: items) (List.cons_ne_nil _ _) steps room (v :: acc) rest hv.2
      (by simp only [depthItems] at hd ⊢; omega) (by omega)
    simp only [writeItems, List.append_assoc, List.cons_append]
    rw [readItems, hr]
    simp only [skipSpace_cons _ (show isSpace ',' = false by decide)]
    simpa using hi

theorem readMembers_write (members : List (String × Json)) (hne : members ≠ [])
    (steps room : Nat) (acc : List (String × Json)) (rest : List Char)
    (hs : SortedKeys (acc ++ members)) (hv : ExactMembers members)
    (hd : depthMembers members ≤ room) (hl : (writeMembers members).length ≤ steps) :
    readMembers steps room acc (writeMembers members ++ rest) = .ok (.obj (acc ++ members), rest) := by
  match members, hne, hv with
  | [(k, v)], _, hv =>
    simp only [writeMembers, List.length_append, List.length_cons] at hl
    obtain ⟨steps, rfl⟩ : ∃ n, steps = n + 1 := ⟨steps - 1, by omega⟩
    have hr := readValue_write v steps room ('}' :: rest) hv.1
      (by simp only [depthMembers] at hd; omega) (by omega) (.curly rest)
    simp only [writeMembers, List.append_assoc, List.cons_append, List.nil_append, writeString_cons]
    rw [readMembers, skipSpace_cons _ (by decide)]
    simp only [readStringTail_written, skipSpace_cons _ (show isSpace ':' = false by decide), hr,
      skipSpace_cons rest (show isSpace '}' = false by decide), insertMember_last v hs.before]
  | (k, v) :: m :: members, _, hv =>
    simp only [writeMembers, List.length_append, List.length_cons] at hl
    obtain ⟨steps, rfl⟩ : ∃ n, steps = n + 1 := ⟨steps - 1, by omega⟩
    have hr := readValue_write v steps room (',' :: (writeMembers (m :: members) ++ rest)) hv.1
      (by simp only [depthMembers] at hd; omega) (by omega) (.comma _)
    have hm := readMembers_write (m :: members) (List.cons_ne_nil _ _) steps room
      (acc ++ [(k, v)]) rest (by simpa using hs) hv.2
      (by simp only [depthMembers] at hd ⊢; omega) (by omega)
    simp only [writeMembers, List.append_assoc, List.cons_append, writeString_cons]
    rw [readMembers, skipSpace_cons _ (by decide)]
    simp only [readStringTail_written, skipSpace_cons _ (show isSpace ':' = false by decide), hr,
      skipSpace_cons _ (show isSpace ',' = false by decide), insertMember_last v hs.before]
    simpa using hm

end

end Billboard.Json
