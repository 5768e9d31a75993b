import Billboard.Proofs.Json.Records

/-! What a reader hands out, whatever text it has read. -/

namespace Billboard.Json

open Text

variable {α β σ : Type} {p : Json → Prop}

mutual

def Throughout (p : Json → Prop) : Json → Prop
  | .arr items => p (.arr items) ∧ ThroughoutItems p items
  | .obj members => p (.obj members) ∧ ThroughoutMembers p members
  | v => p v

def ThroughoutItems (p : Json → Prop) : List Json → Prop
  | [] => True
  | v :: rest => Throughout p v ∧ ThroughoutItems p rest

def ThroughoutMembers (p : Json → Prop) : List (String × Json) → Prop
  | [] => True
  | (_, v) :: rest => Throughout p v ∧ ThroughoutMembers p rest

end

lemma throughoutItems_iff {items : List Json} :
    ThroughoutItems p items ↔ ∀ v ∈ items, v.Throughout p := by
  induction items with
  | nil => simp [ThroughoutItems]
  | cons v rest ih => rw [ThroughoutItems, ih, List.forall_mem_cons]

lemma throughoutMembers_iff {members : List (String × Json)} :
    ThroughoutMembers p members ↔ ∀ m ∈ members, m.2.Throughout p := by
  induction members with
  | nil => simp [ThroughoutMembers]
  | cons m rest ih => rw [ThroughoutMembers, ih, List.forall_mem_cons]

lemma depthItems_le {items : List Json} {n : Nat} :
    depthItems items ≤ n ↔ ∀ v ∈ items, v.depth ≤ n := by
  induction items with
  | nil => simp [depthItems]
  | cons v rest ih => rw [depthItems, Nat.max_le, ih, List.forall_mem_cons]

lemma depthMembers_le {members : List (String × Json)} {n : Nat} :
    depthMembers members ≤ n ↔ ∀ m ∈ members, m.2.depth ≤ n := by
  induction members with
  | nil => simp [depthMembers]
  | cons m rest ih => rw [depthMembers, Nat.max_le, ih, List.forall_mem_cons]

def Regular : Json → Prop
  | .num (.int i) => Number.Exact (.int i)
  | .obj members => SortedKeys members
  | _ => True

def Formed (v : Json) : Prop := v.Throughout Regular

def NoFloat (v : Json) : Prop := ∀ x, v ≠ .num (.float x)

def FloatFree (v : Json) : Prop := v.Throughout NoFloat

mutual

lemma exact_of_floatFree (v : Json) (hv : v.Formed) (hf : v.FloatFree) : Exact v := by
  match v with
  | .null | .bool _ | .str _ => trivial
  | .num (.int i) => exact hv
  | .num (.float x) => exact (hf x rfl).elim
  | .arr items => exact exactItems_of_floatFree items hv.2 hf.2
  | .obj members => exact ⟨hv.1, exactMembers_of_floatFree members hv.2 hf.2⟩

lemma exactItems_of_floatFree (items : List Json) (hv : ThroughoutItems Regular items)
    (hf : ThroughoutItems NoFloat items) : ExactItems items := by
  match items with
  | [] => trivial
  | v :: rest =>
    exact ⟨exact_of_floatFree v hv.1 hf.1, exactItems_of_floatFree rest hv.2 hf.2⟩

lemma exactMembers_of_floatFree (members : List (String × Json))
    (hv : ThroughoutMembers Regular members) (hf : ThroughoutMembers NoFloat members) :
    ExactMembers members := by
  match members with
  | [] => trivial
  | (_, v) :: rest =>
    exact ⟨exact_of_floatFree v hv.1 hf.1, exactMembers_of_floatFree rest hv.2 hf.2⟩

end

lemma gather_lt {acc : Nat} (cs : List Char) (h : acc < 0x10000000000000000) :
    (gather acc cs).1 < 0x10000000000000000 := by
  induction cs generalizing acc with
  | nil => exact h
  | cons c cs ih =>
    rw [gather]
    split_ifs with hn
    · exact ih hn
    · exact h

lemma exact_of_value {t : NumberText} {i : Int} (h : t.value = some (.int i)) :
    Number.Exact (.int i) := by
  have hlt : (gather 0 t.whole).1 < 0x10000000000000000 := gather_lt t.whole (by decide)
  unfold NumberText.value at h
  rcases hg : gather 0 t.whole with ⟨digits, excess⟩
  rw [hg] at h hlt
  simp only at h hlt
  split_ifs at h with hwhole hsign hzero
  · cases h
    exact ⟨by omega, by omega⟩
  · cases h
  · cases h
    exact ⟨by omega, by omega⟩
  -- a point, an exponent or too many digits make a floating point number
  all_goals
    obtain ⟨x, -, hx⟩ := Option.map_eq_some_iff.mp h
    cases hx

lemma formed_of_number {negative : Bool} {cs r : List Char} {n : Number}
    (h : readNumberTail negative cs = .ok (n, r)) : Formed (.num n) := by
  unfold readNumberTail at h
  split at h
  · cases h
  · split at h
    · cases h
    · rename_i hv
      cases h
      cases n with
      | int i => exact exact_of_value hv
      | float x => trivial

lemma exists_of_map {x : Except ReadError α} {f : α → β} {b : β} (h : x.map f = .ok b) :
    ∃ a, x = .ok a ∧ f a = b := by
  cases x with
  | error e => cases h
  | ok a => exact ⟨a, rfl, Except.ok.inj h⟩

lemma mem_insertMember {k : String} {v : Json} {members : List (String × Json)} {m : String × Json}
    (h : m ∈ insertMember k v members) : m = (k, v) ∨ m ∈ members := by
  induction members with
  | nil => exact .inl (List.mem_singleton.mp h)
  | cons n rest ih =>
    rw [insertMember] at h
    split_ifs at h
    · exact List.mem_cons.mp h
    · exact (List.mem_cons.mp h).imp_right (List.mem_cons_of_mem _)
    · rcases List.mem_cons.mp h with rfl | h
      · exact .inr List.mem_cons_self
      · exact (ih h).imp_right (List.mem_cons_of_mem _)

lemma sortedKeys_insertMember (k : String) (v : Json) {members : List (String × Json)}
    (h : SortedKeys members) : SortedKeys (insertMember k v members) := by
  induction members with
  | nil => exact List.pairwise_singleton _ _
  | cons n rest ih =>
    obtain ⟨hlt, hrest⟩ := List.pairwise_cons.mp h
    rw [insertMember]
    split_ifs with hk he
    · refine List.pairwise_cons.mpr ⟨fun m hm => ?_, h⟩
      rcases List.mem_cons.mp hm with rfl | hm
      · exact hk
      · exact String.lt_trans hk (hlt m hm)
    · subst he
      exact List.pairwise_cons.mpr ⟨hlt, hrest⟩
    · refine List.pairwise_cons.mpr ⟨fun m hm => ?_, ih hrest⟩
      rcases mem_insertMember hm with rfl | hm
      · by_contra hge
        exact he (String.le_antisymm (String.not_lt.mp hge) (String.not_lt.mp hk))
      · exact hlt m hm

structure Bounded (room : Nat) (v : Json) : Prop where
  depth : v.depth ≤ room
  formed : v.Formed

lemma bounded_arr {room : Nat} {items : List Json} (h : ∀ v ∈ items, Bounded room v) :
    Bounded (room + 1) (.arr items) where
  depth := Nat.succ_le_succ (depthItems_le.mpr fun v hv => (h v hv).depth)
  formed := ⟨trivial, throughoutItems_iff.mpr fun v hv => (h v hv).formed⟩

lemma bounded_obj {room : Nat} {members : List (String × Json)} (hs : SortedKeys members)
    (h : ∀ m ∈ members, Bounded room m.2) : Bounded (room + 1) (.obj members) where
  depth := Nat.succ_le_succ (depthMembers_le.mpr fun m hm => (h m hm).depth)
  formed := ⟨hs, throughoutMembers_iff.mpr fun m hm => (h m hm).formed⟩

lemma bounded_of_map {room : Nat} {x : Except ReadError α} {f : α → Json × List Char} {v : Json}
    {r : List Char} (h : x.map f = .ok (v, r)) (hf : ∀ a, x = .ok a → Bounded room (f a).1) :
    Bounded room v := by
  obtain ⟨a, ha, hv⟩ := exists_of_map h
  have hfirst := hf a ha
  rwa [hv] at hfirst

-- The induction is on the steps. Each container takes one of the room that its items are read in.
mutual

lemma readValue_bounded (steps room : Nat) {cs r : List Char} {v : Json}
    (h : readValue steps room cs = .ok (v, r)) : Bounded room v := by
  cases steps with
  | zero => cases h
  | succ steps =>
    rw [readValue] at h
    split at h
    · exact bounded_of_map h fun _ _ => ⟨Nat.zero_le _, trivial⟩
    · exact bounded_of_map h fun _ _ => ⟨Nat.zero_le _, trivial⟩
    · exact bounded_of_map h fun _ _ => ⟨Nat.zero_le _, trivial⟩
    · exact bounded_of_map h fun _ _ => ⟨Nat.zero_le _, trivial⟩
    · exact bounded_of_map h fun _ hn => ⟨Nat.zero_le _, formed_of_number hn⟩
    · split at h
      · cases h
      · split at h
        · cases h
          exact bounded_arr (List.forall_mem_nil _)
        · exact readItems_bounded steps _ (List.forall_mem_nil _) h
    · split at h
      · cases h
      · split at h
        · cases h
          exact bounded_obj .nil (List.forall_mem_nil _)
        · exact readMembers_bounded steps _ .nil (List.forall_mem_nil _) h
    · exact bounded_of_map h fun _ hn => ⟨Nat.zero_le _, formed_of_number hn⟩

lemma readItems_bounded (steps room : Nat) {acc : List Json} {cs r : List Char} {v : Json}
    (ha : ∀ w ∈ acc, Bounded room w) (h : readItems steps room acc cs = .ok (v, r)) :
    Bounded (room + 1) v := by
  cases steps with
  | zero => cases h
  | succ steps =>
    rw [readItems] at h
    split at h
    · cases h
    · rename_i w rest hw
      have hall : ∀ x ∈ w :: acc, Bounded room x :=
        List.forall_mem_cons.mpr ⟨readValue_bounded steps room hw, ha⟩
      split at h
      · exact readItems_bounded steps room hall h
      · cases h
        exact bounded_arr fun x hx => hall x (List.mem_reverse.mp hx)
      · cases h

lemma readMembers_bounded (steps room : Nat) {acc : List (String × Json)} {cs r : List Char}
    {v : Json} (hs : SortedKeys acc) (ha : ∀ m ∈ acc, Bounded room m.2)
    (h : readMembers steps room acc cs = .ok (v, r)) : Bounded (room + 1) v := by
  cases steps with
  | zero => cases h
  | succ steps =>
    rw [readMembers] at h
    split at h
    · split at h
      · cases h
      · rename_i k _ _
        split at h
        · split at h
          · cases h
          · rename_i w rest hw
            have hkeys := sortedKeys_insertMember k w hs
            have hall : ∀ m ∈ insertMember k w acc, Bounded room m.2 := by
              intro m hm
              rcases mem_insertMember hm with rfl | hm
              · exact readValue_bounded steps room hw
              · exact ha m hm
            split at h
            · exact readMembers_bounded steps room hkeys hall h
            · cases h
              exact bounded_obj hkeys hall
            · cases h
        · cases h
    · cases h

end

/-- Whatever the reader hands out when it has so much room is as `P` says. -/
def Gives (read : Reader α) (room : Nat) (P : α → Prop) : Prop :=
  ∀ steps cs a r, read ⟨steps, room⟩ cs = .ok (a, r) → P a

lemma gives_integer (range : IntRange) (label : String) (room : Nat) :
    Gives (integer range label) room fun i => range.contains i = true := by
  intro steps cs i r h
  have taken : ∀ {n : Number} {r' : List Char},
      (takeInt range label n).map (·, r') = .ok (i, r) → range.contains i = true := by
    intro n r' h
    obtain ⟨j, hj, he⟩ := exists_of_map h
    cases he
    exact (takeInt_ok hj).2
  unfold integer at h
  split at h
  · split at h
    · cases h
    · exact taken h
  · split_ifs at h
    split at h
    · cases h
    · exact taken h
  · cases h

lemma gives_object (room : Nat) : Gives object room fun members => Bounded room (.obj members) := by
  intro steps cs members r h
  unfold object at h
  split at h
  · split at h
    · rename_i hread
      cases h
      exact readValue_bounded steps room hread
    · cases h
    · cases h
  · cases h
  · cases h

lemma Gives.optional {read : Reader α} {room : Nat} {P : α → Prop} (h : Gives read room P) :
    Gives (optional read) room fun o => ∀ a ∈ o, P a := by
  intro steps cs o r hread
  unfold Json.optional at hread
  split at hread
  · obtain ⟨_, -, ho⟩ := exists_of_map hread
    cases ho
    nofun
  · obtain ⟨⟨a, r'⟩, ha, ho⟩ := exists_of_map hread
    cases ho
    intro b hb
    cases hb
    exact h _ _ _ _ ha

lemma sequenceTail_gives {read : Reader α} {room : Nat} {P : α → Prop} (h : Gives read room P)
    {steps : Nat} {acc as : List α} {cs r : List Char} (hacc : ∀ a ∈ acc, P a)
    (hread : sequenceTail read room steps acc cs = .ok (as, r)) : ∀ a ∈ as, P a := by
  induction steps generalizing acc cs with
  | zero => cases hread
  | succ steps ih =>
    rw [sequenceTail] at hread
    split at hread
    · cases hread
    · rename_i a rest ha
      have hall : ∀ b ∈ a :: acc, P b :=
        List.forall_mem_cons.mpr ⟨h _ _ _ _ (within_ok ha), hacc⟩
      split at hread
      · cases hread
        exact fun b hb => hall b (List.mem_reverse.mp hb)
      · split at hread
        · cases hread
        · exact ih hall hread
      · cases hread

lemma Gives.sequence {read : Reader α} {room : Nat} {P : α → Prop} (h : Gives read room P) :
    Gives (sequence read) (room + 1) fun as => ∀ a ∈ as, P a := by
  intro steps cs as r hread
  unfold Json.sequence at hread
  split at hread
  · simp only at hread
    split at hread
    · cases hread
      exact List.forall_mem_nil _
    · cases hread
    · exact sequenceTail_gives h (List.forall_mem_nil _) hread
  · cases hread
  · cases hread

section

variable {slots : List (Slot σ)} {room : Nat} {I : σ → Prop}

def Slot.Keeps (slot : Slot σ) (room : Nat) (I : σ → Prop) : Prop :=
  Gives slot.read room fun put => ∀ d, I d → I (put d)

lemma Gives.nullable {read : Reader α} {P : α → Prop} (h : Gives read room P) (name : String)
    {put : Option α → σ → σ} (hput : ∀ o, (∀ a ∈ o, P a) → ∀ d, I d → I (put o d)) :
    (Slot.nullable name read put).Keeps room I := by
  intro steps cs f r hread
  obtain ⟨⟨o, r'⟩, ho, hf⟩ := exists_of_map hread
  cases hf
  exact hput o (h.optional _ _ _ _ ho)

lemma recordMembers_keeps {names : List String}
    (hslots : ∀ slot ∈ slots, slot.name ∉ names → slot.Keeps room I) (steps : Nat)
    {seen : List String} {draft d : σ} {cs r : List Char} (hs : names ⊆ seen) (hd : I draft)
    (h : recordMembers slots room steps seen draft cs = .ok (d, r)) : I d := by
  induction steps generalizing seen draft cs with
  | zero => cases h
  | succ steps ih =>
    have tail : ∀ {seen : List String} {draft : σ} {cs : List Char}, names ⊆ seen → I draft →
        afterMember slots room steps seen draft cs = .ok (d, r) → I d := by
      intro seen draft cs hs hd h
      unfold afterMember at h
      split at h
      · split at h
        · cases h
        · cases h
          exact hd
      · exact ih hs hd h
      · cases h
    rw [recordMembers.eq_def] at h
    simp only at h
    split at h
    · split at h
      · cases h
      · split at h
        · split at h
          · split at h
            · cases h
            · exact tail hs hd h
          · cases h
        · rename_i slot hfind
          split_ifs at h with hc
          split at h
          · split at h
            · cases h
            · rename_i put r' hread
              have hn : slot.name ∉ names := by
                have hk := List.find?_some hfind
                rw [beq_iff_eq] at hk
                rw [List.contains_iff_mem, ← hk] at hc
                exact fun hmem => hc (hs hmem)
              have hslot := hslots slot (List.mem_of_find?_eq_some hfind) hn
              exact tail (List.Subset.trans hs (List.subset_cons_self _ _))
                (hslot _ _ _ _ (within_ok hread) draft hd) h
          · cases h
    · cases h

lemma recordItems_keeps {title : String} {size steps : Nat}
    (hslots : ∀ slot ∈ slots, slot.Keeps room I) {i : Nat} {draft d : σ} {cs r : List Char}
    (hd : I draft) (h : recordItems title size room steps i slots draft cs = .ok (d, r)) : I d := by
  induction slots generalizing i draft cs with
  | nil =>
    rw [recordItems] at h
    split at h
    · cases h
      exact hd
    · cases h
  | cons slot rest ih =>
    obtain ⟨hslot, hrest⟩ := List.forall_mem_cons.mp hslots
    have item : ∀ {cs r' : List Char} {put : σ → σ},
        within (.index i) slot.read ⟨steps, room⟩ cs = .ok (put, r') →
          recordItems title size room steps (i + 1) rest (put draft) r' = .ok (d, r) → I d :=
      fun hread h => ih hrest (hslot _ _ _ _ (within_ok hread) draft hd) h
    rw [recordItems] at h
    simp only at h
    split at h
    · split_ifs at h
      cases h
      exact hd
    · cases h
    · split_ifs at h
      · split at h
        · cases h
        · rename_i hread
          exact item hread h
      · split at h
        · split at h
          · cases h
          · split at h
            · cases h
            · rename_i hread
              exact item hread h
        · cases h

lemma gives_record (title : String) {start : σ} (hstart : I start)
    (hslots : ∀ slot ∈ slots, slot.Keeps room I) :
    Gives (record title slots start) (room + 1) I := by
  intro steps cs d r h
  unfold record at h
  split at h
  · simp only at h
    split at h
    · split at h
      · cases h
      · cases h
        exact hstart
    · exact recordMembers_keeps (fun slot hslot _ => hslots slot hslot) steps
        (List.nil_subset _) hstart h
  · exact recordItems_keeps hslots hstart h
  · cases h
  · cases h

end

lemma Gives.decodeBytes {read : Reader α} {P : α → Prop} (h : Gives read maxDepth P)
    {bytes : ByteArray} {a : α} (hd : Json.decodeBytes read bytes = .ok a) : P a := by
  unfold Json.decodeBytes readAll at hd
  split at hd
  · cases hd
  · rename_i b rest hread
    split_ifs at hd
    cases hd
    exact h _ _ _ _ hread

end Billboard.Json
