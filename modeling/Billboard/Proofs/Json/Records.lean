import Billboard.Json.Shape
import Billboard.Proofs.Json.RoundTrip

namespace Billboard.Json

open Text

variable {α σ : Type}

/-- The reader takes the written form of a value from the front, given a step for each character. -/
def Reads (read : Reader α) (room : Nat) (v : Json) (a : α) : Prop :=
  ∀ steps rest, (write v).length ≤ steps → Delimited rest →
    read ⟨steps, room⟩ (write v ++ rest) = .ok (a, rest)

lemma reads_int {range : IntRange} (label : String) (room : Nat) {i : Int}
    (hi : range.contains i = true) (hx : Number.Exact (.int i)) :
    Reads (integer range label) room (.int i) i :=
  fun _ _ _ hr => integer_intDigits label _ hi hx hr

lemma reads_bool (room : Nat) (b : Bool) : Reads boolean room (.bool b) b := by
  intro steps rest _ _
  cases b <;> rfl

lemma reads_object {room : Nat} {members : List (String × Json)} (hv : Exact (.obj members))
    (hd : depth (.obj members) ≤ room) : Reads object room (.obj members) members := by
  intro steps rest hl hr
  have h := readValue_write (.obj members) steps room rest hv hd hl hr
  simp only [write, List.cons_append] at h ⊢
  rw [object, skipSpace_cons _ (by decide)]
  simp only [h]

lemma reads_string (room : Nat) (s : String) : Reads string room (.str s) s := by
  intro steps rest _ _
  rw [write, writeString_cons, string, stringAs, skipSpace_cons _ (by decide)]
  exact readStringTail_written s rest

lemma reads_variant (room : Nat) {names : List (String × α)} {k : String} {a : α}
    (h : names.find? (·.1 == k) = some (k, a)) : Reads (variant names) room (.str k) a := by
  intro steps rest _ _
  rw [write, writeString_cons, variant, skipSpace_cons _ (by decide)]
  simp only [readStringTail_written, h]
  rfl

lemma reads_any {room : Nat} {v : Json} (hv : Exact v) (hd : depth v ≤ room) :
    Reads any room v v :=
  fun steps rest hl hr => readValue_write v steps room rest hv hd hl hr

lemma Reads.optional {read : Reader α} {room : Nat} {v : Json} {a : α} (h : Reads read room v a)
    (hn : (write v).head? ≠ some 'n') : Reads (optional read) room v (some a) := by
  intro steps rest hl hr
  have hread := h steps rest hl hr
  obtain ⟨c, cs, hc, hs, -⟩ := write_eq_cons v
  rw [hc, List.cons_append] at hread ⊢
  rw [Json.optional, skipSpace_cons _ hs]
  split
  · rename_i he
    rw [hc, (List.cons.inj he).1] at hn
    exact (hn rfl).elim
  · rw [hread]
    rfl

lemma within_ok {step : Step} {read : Reader α} {b : Budget} {cs : List Char} {p : α × List Char}
    (h : within step read b cs = .ok p) : read b cs = .ok p := by
  unfold within at h
  split at h
  · rename_i hr
    rw [hr, h]
  · cases h

lemma charsOfBytes_toUTF8 (s : String) : charsOfBytes s.toUTF8 = s.toList := by
  have h : String.fromUTF8? s.toUTF8 = some s := by
    rw [String.fromUTF8?, dif_pos (show s.toUTF8.IsValidUTF8 from s.isValidUTF8)]
    rfl
  simp only [charsOfBytes, h]

lemma sequenceTail_write {read : Reader α} {room : Nat} (enc : α → Json) (as : List α)
    (hne : as ≠ []) (steps : Nat) (acc : List α) (rest : List Char)
    (hread : ∀ a ∈ as, Reads read room (enc a) a)
    (hl : (writeItems (as.map enc)).length ≤ steps) :
    sequenceTail read room steps acc (writeItems (as.map enc) ++ rest) =
      .ok (acc.reverse ++ as, rest) := by
  induction as generalizing steps acc with
  | nil => exact (hne rfl).elim
  | cons a as ih =>
    cases as with
    | nil =>
      simp only [List.map_cons, List.map_nil, writeItems, List.length_append,
        List.length_singleton] at hl
      obtain ⟨steps, rfl⟩ : ∃ n, steps = n + 1 := ⟨steps - 1, by omega⟩
      have hr := hread a List.mem_cons_self steps (']' :: rest) (by omega) (.square rest)
      simp only [List.map_cons, List.map_nil, writeItems, List.append_assoc,
        List.singleton_append, sequenceTail, within, hr,
        skipSpace_cons rest (show isSpace ']' = false by decide)]
      simp
    | cons b bs =>
      simp only [List.map_cons, writeItems, List.length_append, List.length_cons] at hl
      obtain ⟨steps, rfl⟩ : ∃ n, steps = n + 1 := ⟨steps - 1, by omega⟩
      have hr := hread a List.mem_cons_self steps
        (',' :: (writeItems ((b :: bs).map enc) ++ rest)) (by omega) (.comma _)
      have hi := ih (List.cons_ne_nil _ _) steps (a :: acc)
        (fun x hx => hread x (List.mem_cons_of_mem _ hx)) (by simpa using by omega)
      obtain ⟨c, cs, hc, hs, hb⟩ := writeItems_eq_cons (enc b) (bs.map enc)
      simp only [List.map_cons, writeItems, List.append_assoc, List.cons_append] at hr hi ⊢
      simp only [hc, List.cons_append] at hr hi ⊢
      simp only [sequenceTail, within, hr, skipSpace_cons _ (show isSpace ',' = false by decide),
        skipSpace_cons _ hs]
      split
      · rename_i h
        exact (hb (List.cons.inj h).1).elim
      · simpa using hi

lemma reads_sequence {read : Reader α} {room : Nat} (enc : α → Json) (as : List α)
    (hread : ∀ a ∈ as, Reads read room (enc a) a) :
    Reads (sequence read) (room + 1) (.arr (as.map enc)) as := by
  intro steps rest hl hr
  cases as with
  | nil => rfl
  | cons a as =>
    simp only [write, List.length_cons] at hl
    have ht := sequenceTail_write enc (a :: as) (List.cons_ne_nil _ _) steps [] rest hread
      (by omega)
    obtain ⟨c, cs, hc, hs, hb⟩ := writeItems_eq_cons (enc a) (as.map enc)
    simp only [List.map_cons, write, hc, List.cons_append] at ht ⊢
    rw [sequence, skipSpace_cons _ (by decide)]
    simp only [skipSpace_cons _ hs]
    split
    · rename_i h
      exact (hb (List.cons.inj h).1).elim
    · rename_i h
      exact (List.cons_ne_nil _ _ h).elim
    · simpa using ht

structure WrittenField (σ : Type) where
  slot : Slot σ
  value : Json
  put : σ → σ

namespace WrittenField

def member (f : WrittenField σ) : String × Json := (f.slot.name, f.value)

structure Fits (f : WrittenField σ) (slots : List (Slot σ)) (room : Nat) : Prop where
  found : slots.find? (·.name == f.slot.name) = some f.slot
  reads : Reads f.slot.read room f.value f.put

end WrittenField

lemma Reads.required {read : Reader α} {room : Nat} {v : Json} {a : α} (h : Reads read room v a)
    {slots : List (Slot σ)} {name : String} {put : α → σ → σ}
    (hf : slots.find? (·.name == name) = some (.required name read put)) :
    (⟨.required name read put, v, put a⟩ : WrittenField σ).Fits slots room where
  found := hf
  reads steps rest hl hr := by
    simp only [Slot.required, h steps rest hl hr]
    rfl

lemma Reads.nullable {read : Reader α} {room : Nat} {v : Json} {a : α} (h : Reads read room v a)
    (hn : (write v).head? ≠ some 'n') {slots : List (Slot σ)} {name : String}
    {put : Option α → σ → σ}
    (hf : slots.find? (·.name == name) = some (.nullable name read put)) :
    (⟨.nullable name read put, v, put (some a)⟩ : WrittenField σ).Fits slots room where
  found := hf
  reads steps rest hl hr := by
    simp only [Slot.nullable, h.optional hn steps rest hl hr]
    rfl

lemma Reads.defaulted {read : Reader α} {room : Nat} {v : Json} {a : α} (h : Reads read room v a)
    {slots : List (Slot σ)} {name : String} {put : α → σ → σ}
    (hf : slots.find? (·.name == name) = some (.defaulted name read put)) :
    (⟨.defaulted name read put, v, put a⟩ : WrittenField σ).Fits slots room where
  found := hf
  reads steps rest hl hr := by
    simp only [Slot.defaulted, h steps rest hl hr]
    rfl

def afterMember (slots : List (Slot σ)) (room steps : Nat) (seen : List String) (draft : σ)
    (cs : List Char) : Except ReadError (σ × List Char) :=
  match skipSpace cs with
  | '}' :: r =>
    match firstMissing slots seen with
    | some name => .error (.data [] (.missingField name))
    | none => .ok (draft, r)
  | ',' :: r => recordMembers slots room steps seen draft (skipSpace r)
  | _ => .error .malformed

lemma recordMembers_step (steps : Nat) (draft : σ) {slots : List (Slot σ)} {room : Nat}
    {seen : List String} {f : WrittenField σ} (hf : f.Fits slots room) (hs : f.slot.name ∉ seen)
    {rest : List Char} (hl : (write f.value).length ≤ steps) (hr : Delimited rest) :
    recordMembers slots room (steps + 1) seen draft
        (writeString f.slot.name ++ ':' :: (write f.value ++ rest)) =
      afterMember slots room steps (f.slot.name :: seen) (f.put draft) rest := by
  have hread := hf.reads steps rest hl hr
  have hseen : seen.contains f.slot.name = false := by simpa using hs
  rw [writeString_cons, recordMembers]
  simp only [readStringTail_written, hf.found, hseen,
    skipSpace_cons _ (show isSpace ':' = false by decide), within, hread]
  rfl

lemma afterMember_comma (slots : List (Slot σ)) (room steps : Nat) (seen : List String) (draft : σ)
    (m : String × Json) (more : List (String × Json)) (rest : List Char) :
    afterMember slots room steps seen draft (',' :: (writeMembers (m :: more) ++ rest)) =
      recordMembers slots room steps seen draft (writeMembers (m :: more) ++ rest) := by
  obtain ⟨cs, hc⟩ := writeMembers_eq_cons m.1 m.2 more
  rw [afterMember, skipSpace_cons _ (by decide), hc]
  simp only [List.cons_append, skipSpace_cons _ (show isSpace '"' = false by decide)]

lemma recordMembers_field (steps : Nat) (draft : σ) {slots : List (Slot σ)} {room : Nat}
    {seen : List String} {f : WrittenField σ} (hf : f.Fits slots room) (hs : f.slot.name ∉ seen)
    (hl : (write f.value).length ≤ steps) (m : String × Json) (more : List (String × Json))
    (rest : List Char) :
    recordMembers slots room (steps + 1) seen draft
        (writeMembers (f.member :: m :: more) ++ rest) =
      recordMembers slots room steps (f.slot.name :: seen) (f.put draft)
        (writeMembers (m :: more) ++ rest) := by
  have h := recordMembers_step steps draft hf hs hl (.comma (writeMembers (m :: more) ++ rest))
  rw [afterMember_comma] at h
  rw [← h]
  simp only [WrittenField.member, writeMembers, List.append_assoc, List.cons_append]

theorem recordMembers_write {slots : List (Slot σ)} {room : Nat} (fs : List (WrittenField σ))
    (hne : fs ≠ []) (steps : Nat) (seen : List String) (draft : σ) (rest : List Char)
    (hfit : ∀ f ∈ fs, f.Fits slots room) (hnd : (fs.map (·.slot.name)).Nodup)
    (hseen : ∀ f ∈ fs, f.slot.name ∉ seen)
    (hl : (writeMembers (fs.map (·.member))).length ≤ steps) :
    recordMembers slots room steps seen draft (writeMembers (fs.map (·.member)) ++ rest) =
      match firstMissing slots ((fs.map (·.slot.name)).reverse ++ seen) with
      | some name => .error (.data [] (.missingField name))
      | none => .ok (fs.foldl (fun d f => f.put d) draft, rest) := by
  induction fs generalizing steps seen draft with
  | nil => exact (hne rfl).elim
  | cons f fs ih =>
    have hf := hfit f List.mem_cons_self
    have hs := hseen f List.mem_cons_self
    cases fs with
    | nil =>
      simp only [List.map_cons, List.map_nil, WrittenField.member, writeMembers,
        List.length_append, List.length_cons] at hl
      obtain ⟨steps, rfl⟩ : ∃ n, steps = n + 1 := ⟨steps - 1, by omega⟩
      have h := recordMembers_step steps draft hf hs (by omega) (.curly rest)
      simp only [List.map_cons, List.map_nil, WrittenField.member, writeMembers,
        List.append_assoc, List.cons_append, List.nil_append] at h ⊢
      rw [h, afterMember, skipSpace_cons _ (by decide)]
      simp
    | cons g gs =>
      simp only [List.map_cons, WrittenField.member, writeMembers, List.length_append,
        List.length_cons] at hl
      obtain ⟨steps, rfl⟩ : ∃ n, steps = n + 1 := ⟨steps - 1, by omega⟩
      have hi := ih (List.cons_ne_nil _ _) steps (f.slot.name :: seen) (f.put draft)
        (fun x hx => hfit x (List.mem_cons_of_mem _ hx)) (List.nodup_cons.mp hnd).2
        (fun x hx => by
          have hx' := hseen x (List.mem_cons_of_mem _ hx)
          have hn : x.slot.name ≠ f.slot.name := fun e =>
            (List.nodup_cons.mp hnd).1 (List.mem_map.mpr ⟨x, hx, e⟩)
          simp [hx', hn])
        (by simpa [WrittenField.member] using by omega)
      simp only [List.map_cons] at hi ⊢
      rw [recordMembers_field steps draft hf hs (by omega), hi]
      simp

lemma record_curly (title : String) (slots : List (Slot σ)) (start : σ) (steps room : Nat)
    (cs : List Char) : record title slots start ⟨steps, room + 1⟩ ('{' :: '"' :: cs) =
      recordMembers slots room steps [] start ('"' :: cs) := by
  rw [record, skipSpace_cons _ (by decide)]
  simp only [skipSpace_cons _ (show isSpace '"' = false by decide)]
  rfl

lemma decodeBytes_writeRecord {title : String} {slots : List (Slot σ)} {start d : σ}
    {fields : List (String × Json)} (hne : fields ≠ [])
    (h : ∀ steps, (writeMembers fields).length ≤ steps →
      recordMembers slots 126 steps [] start (writeMembers fields ++ []) = .ok (d, [])) :
    decodeBytes (record title slots start) (writeRecord fields).toUTF8 = .ok d := by
  have hw : (writeRecord fields).toList = '{' :: writeMembers fields := by
    rw [writeRecord, Json.text, String.toList_ofList, Json.write]
  obtain ⟨m, more, rfl⟩ := List.exists_cons_of_ne_nil hne
  obtain ⟨cs, hc⟩ := writeMembers_eq_cons m.1 m.2 more
  have hm := h (2 * (writeRecord (m :: more)).toList.length + 2)
    (by rw [hw, List.length_cons]; omega)
  rw [hw, List.append_nil, hc] at hm
  rw [decodeBytes, charsOfBytes_toUTF8, hw, hc, readAll, Budget.whole,
    show maxDepth = 126 + 1 from rfl, record_curly, hm]
  rfl

theorem decodeBytes_written {title : String} {slots : List (Slot σ)} (start : σ)
    {fs : List (WrittenField σ)} (hne : fs ≠ []) (hfit : ∀ f ∈ fs, f.Fits slots 126)
    (hnd : (fs.map (·.slot.name)).Nodup)
    (hall : firstMissing slots (fs.map (·.slot.name)).reverse = none) :
    decodeBytes (record title slots start) (writeRecord (fs.map (·.member))).toUTF8 =
      .ok (fs.foldl (fun d f => f.put d) start) := by
  refine decodeBytes_writeRecord (mt List.map_eq_nil_iff.mp hne) fun steps hl => ?_
  rw [recordMembers_write fs hne steps [] start [] hfit hnd (by simp) hl, List.append_nil, hall]

end Billboard.Json
