import Billboard.Proofs.Json.Accepted

/-! Whatever a reader makes of a written value is that value, but it may fail. -/

namespace Billboard.Json

open Text

variable {α σ γ : Type}

/-- The reader makes nothing but `a` of the written form of `v`, and takes just that form. -/
def ReadsOnly (read : Reader α) (v : Json) (a : α) : Prop :=
  ∀ budget rest x r, Delimited rest → read budget (write v ++ rest) = .ok (x, r) → x = a ∧ r = rest

lemma readsOnly_of_ok {read : Reader α} {v : Json} {a : α}
    (h : ∀ budget rest, read budget (write v ++ rest) = .ok (a, rest)) : ReadsOnly read v a := by
  intro budget rest x r _ hread
  cases (h budget rest).symm.trans hread
  exact ⟨rfl, rfl⟩

lemma readsOnly_int (range : IntRange) (label : String) (i : Int) :
    ReadsOnly (integer range label) (.int i) i := by
  intro budget rest x r hr hread
  obtain ⟨hx, hrest, -⟩ := integer_sound hr hread
  exact ⟨hx, hrest⟩

lemma readsOnly_bool (b : Bool) : ReadsOnly boolean (.bool b) b :=
  readsOnly_of_ok fun _ _ => by cases b <;> rfl

lemma readsOnly_string (s : String) : ReadsOnly string (.str s) s :=
  readsOnly_of_ok fun _ rest => by
    rw [write, writeString_cons, string, stringAs, skipSpace_cons _ (by decide)]
    exact readStringTail_written s rest

lemma readsOnly_variant {names : List (String × α)} {k : String} {a : α}
    (h : names.find? (·.1 == k) = some (k, a)) : ReadsOnly (variant names) (.str k) a :=
  readsOnly_of_ok fun _ rest => by
    rw [write, writeString_cons, variant, skipSpace_cons _ (by decide)]
    simp only [readStringTail_written, h]
    rfl

lemma sequenceTail_only {read : Reader α} {room : Nat} {enc : α → Json} {as : List α}
    (hne : as ≠ []) (hread : ∀ a ∈ as, ReadsOnly read (enc a) a)
    {steps : Nat} {acc xs : List α} {rest r : List Char}
    (h : sequenceTail read room steps acc (writeItems (as.map enc) ++ rest) = .ok (xs, r)) :
    xs = acc.reverse ++ as ∧ r = rest := by
  induction as generalizing steps acc with
  | nil => exact (hne rfl).elim
  | cons a as ih =>
    cases steps with
    | zero => cases h
    | succ steps =>
      have ha := hread a List.mem_cons_self ⟨steps, room⟩
      cases as with
      | nil =>
        simp only [List.map_cons, List.map_nil, writeItems, List.append_assoc,
          List.singleton_append, sequenceTail] at h
        split at h
        · cases h
        · rename_i x r' hx
          obtain ⟨rfl, rfl⟩ := ha _ _ _ (.square rest) (within_ok hx)
          simp only [skipSpace_cons rest (show isSpace ']' = false by decide)] at h
          cases h
          simp
      | cons b bs =>
        obtain ⟨c, cs, hc, hs, hn⟩ := writeItems_eq_cons (enc b) (bs.map enc)
        have hi : sequenceTail read room steps (a :: acc)
            (writeItems ((b :: bs).map enc) ++ rest) = .ok (xs, r) →
              xs = (a :: acc).reverse ++ b :: bs ∧ r = rest :=
          ih (List.cons_ne_nil _ _) fun x hx => hread x (List.mem_cons_of_mem _ hx)
        simp only [List.map_cons, writeItems, List.append_assoc, List.cons_append,
          sequenceTail] at h hi
        split at h
        · cases h
        · rename_i x r' hx
          obtain ⟨rfl, rfl⟩ := ha _ _ _ (.comma _) (within_ok hx)
          simp only [hc, List.cons_append, skipSpace_cons _ (show isSpace ',' = false by decide),
            skipSpace_cons _ hs] at h hi
          split at h
          · rename_i he
            exact (hn (List.cons.inj he).1).elim
          · simpa using hi h

lemma readsOnly_sequence {read : Reader α} {enc : α → Json} {as : List α}
    (hread : ∀ a ∈ as, ReadsOnly read (enc a) a) :
    ReadsOnly (sequence read) (.arr (as.map enc)) as := by
  intro ⟨steps, room⟩ rest x r hr h
  rw [write, List.cons_append, sequence, skipSpace_cons _ (by decide)] at h
  cases room with
  | zero => cases h
  | succ room =>
    cases as with
    | nil =>
      cases h
      exact ⟨rfl, rfl⟩
    | cons a as =>
      obtain ⟨c, cs, hc, hs, hn⟩ := writeItems_eq_cons (enc a) (as.map enc)
      have ht : sequenceTail read room steps [] (writeItems ((a :: as).map enc) ++ rest) =
          .ok (x, r) → x = [].reverse ++ a :: as ∧ r = rest :=
        sequenceTail_only (List.cons_ne_nil a as) hread
      simp only [List.map_cons, hc, List.cons_append, skipSpace_cons _ hs] at h ht
      split at h
      · rename_i he
        exact (hn (List.cons.inj he).1).elim
      · rename_i he
        cases he
      · simpa using ht h

/-- Whatever the reader makes of the written form of `v`, it takes just that form. -/
def Passes (read : Reader α) (v : Json) : Prop :=
  ∀ budget rest x r, Delimited rest → read budget (write v ++ rest) = .ok (x, r) → r = rest

lemma ReadsOnly.passes {read : Reader α} {v : Json} {a : α} (h : ReadsOnly read v a) :
    Passes read v :=
  fun _ _ _ _ hr hread => (h _ _ _ _ hr hread).2

lemma ok_of_map {β : Type} {x : Except ReadError (α × List Char)}
    {f : α × List Char → β × List Char} {b : β} {r : List Char} (h : x.map f = .ok (b, r))
    (hf : ∀ p, (f p).2 = p.2) : ∃ a, x = .ok (a, r) := by
  obtain ⟨⟨a, r'⟩, hx, hb⟩ := exists_of_map h
  have hr : r' = r := (hf (a, r')).symm.trans (congrArg Prod.snd hb)
  exact ⟨a, hr ▸ hx⟩

lemma readValue_number {n : Number} {steps room : Nat} {rest r : List Char} {v : Json}
    (hr : Delimited rest) (h : readValue (steps + 1) room (n.write ++ rest) = .ok (v, r)) :
    r = rest := by
  obtain ⟨t, ht, hw⟩ := n.write_eq_signed
  rw [hw, NumberText.signed] at h
  split_ifs at h with hneg
  · rw [List.cons_append, readValue_minus] at h
    obtain ⟨m, hm⟩ := ok_of_map h fun _ => rfl
    exact readNumberTail_text ht hr (hneg ▸ hm)
  · rw [Bool.not_eq_true] at hneg
    obtain ⟨c, cs, hc, hdigit⟩ := ht.text_eq_cons
    rw [hc, List.cons_append, readValue_digit steps room _ hdigit] at h
    obtain ⟨m, hm⟩ := ok_of_map h fun _ => rfl
    rw [← hneg, ← List.cons_append, ← hc] at hm
    exact readNumberTail_text ht hr hm

-- Floating point numbers may be read as other numbers, so only the rest is compared. The induction is
-- on the written value, whose brackets and commas the reader cannot but follow.
mutual

lemma readValue_rest (v : Json) (steps room : Nat) {rest r : List Char} {w : Json}
    (hr : Delimited rest) (h : readValue steps room (write v ++ rest) = .ok (w, r)) : r = rest := by
  cases steps with
  | zero => cases h
  | succ steps =>
    match v with
    | .null => cases h; rfl
    | .bool true => cases h; rfl
    | .bool false => cases h; rfl
    | .num n => exact readValue_number hr h
    | .str s =>
      rw [write, readValue_string] at h
      cases h
      rfl
    | .arr items =>
      cases room with
      | zero => cases h
      | succ room =>
        match items with
        | [] => cases h; rfl
        | v :: items =>
          obtain ⟨c, cs, hc, hs, hb⟩ := writeItems_eq_cons v items
          rw [write, hc, List.cons_append, List.cons_append, readValue_square steps room _ hs hb,
            ← List.cons_append, ← hc] at h
          exact readItems_rest (v :: items) (List.cons_ne_nil _ _) steps room h
    | .obj members =>
      cases room with
      | zero => cases h
      | succ room =>
        match members with
        | [] => cases h; rfl
        | (k, v) :: members =>
          obtain ⟨cs, hc⟩ := writeMembers_eq_cons k v members
          rw [write, hc, List.cons_append, List.cons_append, readValue_curly, ← List.cons_append,
            ← hc] at h
          exact readMembers_rest ((k, v) :: members) (List.cons_ne_nil _ _) steps room h

lemma readItems_rest (items : List Json) (hne : items ≠ []) (steps room : Nat)
    {acc : List Json} {rest r : List Char} {w : Json}
    (h : readItems steps room acc (writeItems items ++ rest) = .ok (w, r)) : r = rest := by
  cases steps with
  | zero => cases h
  | succ steps =>
    match items, hne with
    | [v], _ =>
      simp only [writeItems, List.append_assoc, List.singleton_append, readItems] at h
      split at h
      · cases h
      · rename_i x r' hx
        rw [readValue_rest v steps room (.square rest) hx,
          skipSpace_cons rest (show isSpace ']' = false by decide)] at h
        cases h
        rfl
    | v :: w' :: items, _ =>
      simp only [writeItems, List.append_assoc, List.cons_append, readItems] at h
      split at h
      · cases h
      · rename_i x r' hx
        rw [readValue_rest v steps room (.comma _) hx,
          skipSpace_cons _ (show isSpace ',' = false by decide)] at h
        exact readItems_rest (w' :: items) (List.cons_ne_nil _ _) steps room h

lemma readMembers_rest (members : List (String × Json)) (hne : members ≠ []) (steps room : Nat)
    {acc : List (String × Json)} {rest r : List Char} {w : Json}
    (h : readMembers steps room acc (writeMembers members ++ rest) = .ok (w, r)) : r = rest := by
  cases steps with
  | zero => cases h
  | succ steps =>
    match members, hne with
    | [(k, v)], _ =>
      simp only [writeMembers, List.append_assoc, List.cons_append, List.nil_append,
        writeString_cons] at h
      rw [readMembers, skipSpace_cons _ (by decide)] at h
      simp only [readStringTail_written, skipSpace_cons _ (show isSpace ':' = false by decide)] at h
      split at h
      · cases h
      · rename_i x r' hx
        rw [readValue_rest v steps room (.curly rest) hx,
          skipSpace_cons rest (show isSpace '}' = false by decide)] at h
        cases h
        rfl
    | (k, v) :: m :: members, _ =>
      simp only [writeMembers, List.append_assoc, List.cons_append, writeString_cons] at h
      rw [readMembers, skipSpace_cons _ (by decide)] at h
      simp only [readStringTail_written, skipSpace_cons _ (show isSpace ':' = false by decide)] at h
      split at h
      · cases h
      · rename_i x r' hx
        rw [readValue_rest v steps room (.comma _) hx,
          skipSpace_cons _ (show isSpace ',' = false by decide)] at h
        exact readMembers_rest (m :: members) (List.cons_ne_nil _ _) steps room h

end

lemma passes_object (members : List (String × Json)) : Passes object (.obj members) := by
  intro ⟨steps, room⟩ rest x r hr h
  have hw : write (.obj members) ++ rest = '{' :: (writeMembers members ++ rest) := rfl
  rw [hw, object, skipSpace_cons _ (by decide)] at h
  simp only at h
  rw [← hw] at h
  split at h
  · rename_i hread
    cases h
    exact readValue_rest _ steps room hr hread
  · cases h
  · cases h

structure WrittenField.FitsOnly (f : WrittenField σ) (slots : List (Slot σ)) : Prop where
  found : slots.find? (·.name == f.slot.name) = some f.slot
  reads : ReadsOnly f.slot.read f.value f.put

lemma required_ok {read : Reader α} {name : String} {put : α → σ → σ} {b : Budget} {f : σ → σ}
    {cs r : List Char} (h : (Slot.required name read put).read b cs = .ok (f, r)) :
    ∃ a, read b cs = .ok (a, r) ∧ f = put a := by
  simp only [Slot.required] at h
  cases hr : read b cs with
  | error e => simp [hr, Except.map] at h
  | ok p =>
    simp only [hr, Except.map, Except.ok.injEq, Prod.mk.injEq] at h
    obtain ⟨rfl, rfl⟩ := h
    exact ⟨p.1, rfl, rfl⟩

lemma ReadsOnly.required {read : Reader α} {v : Json} {a : α} (h : ReadsOnly read v a)
    {slots : List (Slot σ)} {name : String} {put : α → σ → σ}
    (hf : slots.find? (·.name == name) = some (.required name read put)) :
    (⟨.required name read put, v, put a⟩ : WrittenField σ).FitsOnly slots where
  found := hf
  reads budget rest f r hr hread := by
    obtain ⟨a', ha, rfl⟩ := required_ok hread
    obtain ⟨rfl, hrest⟩ := h budget rest a' r hr ha
    exact ⟨rfl, hrest⟩

lemma Passes.required {read : Reader α} {v : Json} (h : Passes read v) (name : String)
    (put : α → σ → σ) : Passes (Slot.required name read put).read v := by
  intro budget rest f r hr hread
  obtain ⟨a, ha, -⟩ := required_ok hread
  exact h budget rest a r hr ha

lemma afterMember_of_recordMembers {slots : List (Slot σ)} {slot : Slot σ}
    (hf : slots.find? (·.name == slot.name) = some slot) {room steps : Nat} {seen : List String}
    {draft d : σ} {cs r : List Char}
    (h : recordMembers slots room (steps + 1) seen draft
      (writeString slot.name ++ ':' :: cs) = .ok (d, r)) :
    slot.name ∉ seen ∧ ∃ put rest, slot.read ⟨steps, room⟩ cs = .ok (put, rest) ∧
      afterMember slots room steps (slot.name :: seen) (put draft) rest = .ok (d, r) := by
  rw [writeString_cons, recordMembers] at h
  simp only [readStringTail_written, hf, skipSpace_cons _ (show isSpace ':' = false by decide)] at h
  split_ifs at h with hs
  refine ⟨by simpa using hs, ?_⟩
  split at h
  · cases h
  · rename_i put rest hread
    exact ⟨put, rest, within_ok hread, h⟩

lemma recordMembers_next {slots : List (Slot σ)} {slot : Slot σ} {v : Json}
    (hf : slots.find? (·.name == slot.name) = some slot) (hv : Passes slot.read v)
    {room steps : Nat} {seen : List String} {draft d : σ} {more : List (String × Json)}
    {rest r : List Char} (h : recordMembers slots room steps seen draft
      (writeMembers ((slot.name, v) :: more) ++ rest) = .ok (d, r)) :
    ∃ budget put after, Delimited after ∧ slot.read budget (write v ++ after) = .ok (put, after) ∧
      ((more = [] ∧ d = put draft) ∨ ∃ steps, recordMembers slots room steps (slot.name :: seen)
        (put draft) (writeMembers more ++ rest) = .ok (d, r)) := by
  cases steps with
  | zero => cases h
  | succ steps =>
    cases more with
    | nil =>
      simp only [writeMembers, List.append_assoc, List.cons_append, List.nil_append] at h
      obtain ⟨-, put, rest', hread, ha⟩ := afterMember_of_recordMembers hf h
      obtain rfl := hv _ _ _ _ (.curly rest) hread
      rw [afterMember, skipSpace_cons _ (by decide)] at ha
      simp only at ha
      split at ha
      · cases ha
      · cases ha
        exact ⟨_, put, _, .curly _, hread, .inl ⟨rfl, rfl⟩⟩
    | cons m more =>
      simp only [writeMembers, List.append_assoc, List.cons_append] at h
      obtain ⟨-, put, rest', hread, ha⟩ := afterMember_of_recordMembers hf h
      obtain rfl := hv _ _ _ _ (.comma _) hread
      obtain ⟨cs, hc⟩ := writeMembers_eq_cons m.1 m.2 more
      rw [afterMember, skipSpace_cons _ (by decide)] at ha
      simp only [hc, List.cons_append, skipSpace_cons _ (show isSpace '"' = false by decide)] at ha
      refine ⟨_, put, _, .comma _, hread, .inr ⟨steps, ?_⟩⟩
      rw [hc, List.cons_append]
      exact ha

lemma WrittenField.FitsOnly.next {f : WrittenField σ} {slots : List (Slot σ)}
    (hf : f.FitsOnly slots) {room steps : Nat} {seen : List String} {draft d : σ}
    {more : List (String × Json)} {rest r : List Char}
    (h : recordMembers slots room steps seen draft
      (writeMembers (f.member :: more) ++ rest) = .ok (d, r)) :
    (more = [] ∧ d = f.put draft) ∨ ∃ steps, recordMembers slots room steps (f.slot.name :: seen)
      (f.put draft) (writeMembers more ++ rest) = .ok (d, r) := by
  obtain ⟨_, put, _, hr, hread, hnext⟩ := recordMembers_next hf.found hf.reads.passes h
  obtain ⟨rfl, -⟩ := hf.reads _ _ _ _ hr hread
  exact hnext

lemma recordMembers_past {slots : List (Slot σ)} {room : Nat} {fs : List (WrittenField σ)}
    (hfit : ∀ f ∈ fs, f.FitsOnly slots) {seen : List String} {m : String × Json}
    {more : List (String × Json)} {steps : Nat} {draft d : σ} {rest r : List Char}
    (h : recordMembers slots room steps seen draft
      (writeMembers (fs.map (·.member) ++ m :: more) ++ rest) = .ok (d, r)) :
    ∃ steps, recordMembers slots room steps ((fs.map (·.slot.name)).reverse ++ seen)
      (fs.foldl (fun d f => f.put d) draft) (writeMembers (m :: more) ++ rest) = .ok (d, r) := by
  induction fs generalizing steps seen draft with
  | nil => exact ⟨steps, h⟩
  | cons f fs ih =>
    obtain ⟨hf, hfs⟩ := List.forall_mem_cons.mp hfit
    rcases hf.next h with ⟨hnil, -⟩ | ⟨steps, h⟩
    · exact (List.append_ne_nil_of_right_ne_nil _ (List.cons_ne_nil m more) hnil).elim
    · obtain ⟨steps, h⟩ := ih hfs h
      exact ⟨steps, by simpa using h⟩

theorem recordMembers_only (view : σ → γ) {slots : List (Slot σ)} {room : Nat}
    {fs : List (WrittenField σ)} {more : List (String × Json)} (hfit : ∀ f ∈ fs, f.FitsOnly slots)
    {seen : List String}
    (hslots : ∀ slot ∈ slots, slot.name ∉ (fs.map (·.slot.name)).reverse ++ seen → ∀ b cs put r,
      slot.read b cs = .ok (put, r) → ∀ d, view (put d) = view d)
    {steps : Nat} {draft d : σ} {rest r : List Char}
    (h : recordMembers slots room steps seen draft
      (writeMembers (fs.map (·.member) ++ more) ++ rest) = .ok (d, r)) :
    view d = view (fs.foldl (fun d f => f.put d) draft) := by
  induction fs generalizing steps seen draft with
  | nil =>
    -- what has been read is not changed by the fields that are read after it
    refine recordMembers_keeps (I := fun d => view d = view draft) ?_ steps (List.Subset.refl _) rfl h
    exact fun slot hslot hn _ _ _ _ hread d hd => (hslots slot hslot hn _ _ _ _ hread d).trans hd
  | cons f fs ih =>
    obtain ⟨hf, hfs⟩ := List.forall_mem_cons.mp hfit
    rw [List.foldl_cons]
    rcases hf.next h with ⟨hnil, rfl⟩ | ⟨steps, h⟩
    · obtain ⟨hempty, -⟩ := List.append_eq_nil_iff.mp hnil
      rw [List.map_eq_nil_iff.mp hempty]
      rfl
    · exact ih hfs (by simpa using hslots) h

lemma recordMembers_of_decode {title : String} {slots : List (Slot σ)} {start d : σ}
    {fields : List (String × Json)} (hne : fields ≠ [])
    (h : decodeBytes (record title slots start) (writeRecord fields).toUTF8 = .ok d) :
    ∃ steps r, recordMembers slots 126 steps [] start (writeMembers fields ++ []) = .ok (d, r) := by
  have hw : (writeRecord fields).toList = '{' :: writeMembers fields := by
    rw [writeRecord, Json.text, String.toList_ofList, Json.write]
  obtain ⟨m, more, rfl⟩ := List.exists_cons_of_ne_nil hne
  obtain ⟨cs, hc⟩ := writeMembers_eq_cons m.1 m.2 more
  rw [decodeBytes, charsOfBytes_toUTF8, hw, hc, readAll, Budget.whole] at h
  rw [List.append_nil, hc]
  split at h
  · cases h
  · rename_i a r hr
    split_ifs at h
    cases h
    exact ⟨_, r, (record_curly title slots start _ 126 cs).symm.trans hr⟩

end Billboard.Json
