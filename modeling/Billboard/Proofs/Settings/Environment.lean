import Billboard.Proofs.Settings.Sections
import Billboard.Proofs.Text.Numeral
import Billboard.Settings.Load
import Mathlib.Data.List.TakeWhile

/-! What becomes of settings that stand in the environment. -/

namespace Billboard.Settings

open Text (IntRange)

namespace Environment

def Reread (v : String) : Prop :=
  Tree.lowerAscii v = "true" ∨ Tree.lowerAscii v = "false" ∨
    (∃ i, Text.readInt .i64 v.toList = .ok i) ∨ ∃ x, Decimal.readNumber v.toList = some x

variable {v : String} {i : Int}

lemma valueOf_of_not_flag (htrue : Tree.lowerAscii v ≠ "true")
    (hfalse : Tree.lowerAscii v ≠ "false") : valueOf v =
      match Text.readInt .i64 v.toList with
      | .ok i => .int i
      | .error _ =>
        match Decimal.readNumber v.toList with
        | some x => .float x
        | none => .text v := by
  unfold valueOf
  split
  · rename_i h
    exact (htrue h).elim
  · rename_i h
    exact (hfalse h).elim
  · rfl

lemma valueOf_of_not_reread (h : ¬ Reread v) : valueOf v = .text v := by
  simp only [Reread, not_or, not_exists] at h
  obtain ⟨htrue, hfalse, hint, hnumber⟩ := h
  rw [valueOf_of_not_flag htrue hfalse]
  cases hi : Text.readInt .i64 v.toList with
  | ok i => exact (hint i hi).elim
  | error e =>
    cases hx : Decimal.readNumber v.toList with
    | some x => exact (hnumber x hx).elim
    | none => rfl

lemma lower_ne_of_readInt (h : Text.readInt .i64 v.toList = .ok i) {word : String} {c : Char}
    (hword : word.toList.head? = some c) (hplus : c ≠ '+') (hminus : c ≠ '-')
    (hdigit : Text.isDigit c = false) : Tree.lowerAscii v ≠ word := by
  obtain ⟨negative, plus, ds, hv, hne, hds, -⟩ := Text.of_readInt (by decide) h
  obtain ⟨d, ds, rfl⟩ := List.exists_cons_of_ne_nil hne
  have hd : Text.isDigit d = true := hds d List.mem_cons_self
  rintro rfl
  rw [Tree.lowerAscii, String.toList_ofList, hv, List.head?_map] at hword
  cases negative with
  | true => exact hminus (Option.some.inj hword).symm
  | false =>
    cases plus with
    | true => exact hplus (Option.some.inj hword).symm
    | false =>
      have hc : d.toLower = c := Option.some.inj hword
      rw [Text.toLower_of_isDigit hd] at hc
      rw [hc, hdigit] at hd
      cases hd

lemma valueOf_numeral (h : Text.readInt .i64 v.toList = .ok i) : valueOf v = .int i := by
  have htrue : Tree.lowerAscii v ≠ "true" :=
    lower_ne_of_readInt h (c := 't') rfl (by decide) (by decide) (by decide)
  have hfalse : Tree.lowerAscii v ≠ "false" :=
    lower_ne_of_readInt h (c := 'f') rfl (by decide) (by decide) (by decide)
  rw [valueOf_of_not_flag htrue hfalse, h]

lemma valueOf_intText (h : IntRange.i64.contains i = true) : valueOf (Text.intText i) = .int i := by
  refine valueOf_numeral ?_
  rw [Text.intText, String.toList_ofList]
  exact Text.readInt_intDigits h (by decide)

structure Foreign (c : Char) : Prop where
  letter : c.isAlpha = false
  digit : Text.isDigit c = false
  mark : c ≠ '+' ∧ c ≠ '-' ∧ c ≠ '.'

lemma Foreign.toLower {c : Char} (h : Foreign c) : c.toLower = c := by
  have halpha : (c.isUpper || c.isLower) = false := h.letter
  exact Text.toLower_of_isUpper_eq_false (Bool.or_eq_false_iff.mp halpha).1

lemma Foreign.notMem_lower {c : Char} (h : Foreign c) {cs : List Char} (hc : c ∈ cs)
    {word : List Char} (hword : word.all (·.isAlpha) = true) : cs.map Char.toLower ≠ word := by
  rintro rfl
  have halpha := List.all_eq_true.mp hword c (List.mem_map.mpr ⟨c, hc, h.toLower⟩)
  rw [h.letter] at halpha
  cases halpha

lemma mem_dropWhile {p : Char → Bool} {c : Char} {cs : List Char} (h : c ∈ cs) (hp : p c = false) :
    c ∈ cs.dropWhile p := by
  rw [← List.takeWhile_append_dropWhile (p := p) (l := cs), List.mem_append] at h
  refine h.resolve_left fun hw => ?_
  rw [List.mem_takeWhile_imp hw] at hp
  cases hp

lemma Foreign.mem_splitSign {c : Char} (h : Foreign c) {cs : List Char} (hc : c ∈ cs) :
    c ∈ (Decimal.splitSign cs).2 := by
  obtain ⟨hplus, hminus, -⟩ := h.mark
  unfold Decimal.splitSign
  split
  · exact (List.mem_cons.mp hc).resolve_left hminus
  · exact (List.mem_cons.mp hc).resolve_left hplus
  · exact hc

lemma Foreign.readScale {c : Char} (h : Foreign c) {cs : List Char} (hc : c ∈ cs) :
    Decimal.readScale cs = none := by
  have hexponent : ∀ rest, c ∈ rest → Decimal.readExponent rest = none := by
    intro rest hrest
    have hall : (Decimal.splitSign rest).2.all Text.isDigit = false := by
      rw [List.all_eq_false]
      exact ⟨c, h.mem_splitSign hrest, by simp [h.digit]⟩
    simp [Decimal.readExponent, hall]
  have he : ∀ e : Char, e.isAlpha = true → c ≠ e := by
    rintro e halpha rfl
    rw [h.letter] at halpha
    cases halpha
  unfold Decimal.readScale
  split
  · cases hc
  · exact hexponent _ ((List.mem_cons.mp hc).resolve_left (he 'e' (by decide)))
  · exact hexponent _ ((List.mem_cons.mp hc).resolve_left (he 'E' (by decide)))
  · rfl

lemma Foreign.readNumber {c : Char} (h : Foreign c) {cs : List Char} (hc : c ∈ cs) :
    Decimal.readNumber cs = none := by
  have hbody := h.mem_splitSign hc
  have hname : ∀ word : String, word.toList.all (·.isAlpha) = true →
      String.ofList ((Decimal.splitSign cs).2.map Char.toLower) ≠ word := by
    rintro word hword rfl
    rw [String.toList_ofList] at hword
    exact h.notMem_lower hbody hword rfl
  have hrest := mem_dropWhile hbody h.digit
  simp only [Decimal.readNumber]
  rw [if_neg (not_or.mpr ⟨hname "inf" (by decide), hname "infinity" (by decide)⟩),
    if_neg (hname "nan" (by decide))]
  split
  · rename_i r hr
    rw [hr] at hrest
    have hr := mem_dropWhile ((List.mem_cons.mp hrest).resolve_left h.mark.2.2) h.digit
    rw [h.readScale hr, Option.map_none, ite_self]
  · rw [h.readScale hrest, Option.map_none, ite_self]

lemma Foreign.not_reread {c : Char} (h : Foreign c) (hc : c ∈ v.toList) : ¬ Reread v := by
  have hword : ∀ word : String, word.toList.all (·.isAlpha) = true → Tree.lowerAscii v ≠ word := by
    rintro word hword rfl
    rw [Tree.lowerAscii, String.toList_ofList] at hword
    exact h.notMem_lower hc hword rfl
  rintro (hflag | hflag | ⟨i, hi⟩ | ⟨x, hx⟩)
  · exact hword "true" (by decide) hflag
  · exact hword "false" (by decide) hflag
  · obtain ⟨negative, plus, ds, hv, -, hds, -⟩ := Text.of_readInt (by decide) hi
    obtain ⟨hplus, hminus, -⟩ := h.mark
    have hmem : c ∈ ds := by
      rw [hv, Text.numeral] at hc
      split_ifs at hc
      · exact (List.mem_cons.mp hc).resolve_left hminus
      · exact (List.mem_cons.mp hc).resolve_left hplus
      · exact hc
    cases h.digit.symm.trans (hds c hmem)
  · rw [h.readNumber hc] at hx
    cases hx

lemma valueOf_ne_table (v : String) (ms : Members) : valueOf v ≠ .table ms := by
  unfold valueOf
  repeat' split
  all_goals nofun

lemma valueOf_ne_nil (v : String) : valueOf v ≠ .nil := by
  unfold valueOf
  repeat' split
  all_goals nofun

/-- A text that stays as it is: it is not read anew, or is written as it would be. -/
def Stays (v : String) : Prop :=
  ¬ Reread v ∨ v = "true" ∨ v = "false" ∨ ∃ i, IntRange.i64.contains i = true ∧ v = Text.intText i

lemma toText?_of_stays (h : Stays v) : (valueOf v).toText? = some v := by
  rcases h with h | rfl | rfl | ⟨i, hi, rfl⟩
  · rw [valueOf_of_not_reread h, Tree.toText?]
  · rfl
  · rfl
  · rw [valueOf_intText hi, Tree.toText?]

lemma toNat?_of_numeral {r : IntRange} {n : Int} (hlo : r.lo = 0) (hhi : 0 ≤ r.hi)
    (h : Text.readInt r v.toList = .ok n) (hn : n ≤ IntRange.i64.hi) :
    (valueOf v).toNat? r = some n.toNat := by
  have hzero : r.contains 0 = true := IntRange.contains_iff.mpr ⟨by omega, hhi⟩
  obtain ⟨_, _, _, -, -, -, -, hr⟩ := Text.of_readInt hzero h
  have hpos : 0 ≤ n := hlo ▸ (IntRange.contains_iff.mp hr).1
  have hi64 : IntRange.i64.contains n = true :=
    IntRange.contains_iff.mpr ⟨Int.le_trans (show IntRange.i64.lo ≤ 0 by decide) hpos, hn⟩
  rw [valueOf_numeral (Text.readInt_widen hzero h (by decide) (by decide) hi64)]
  simp only [Tree.toNat?, if_pos hpos, Option.bind_some, hr, if_true]

def elsewhere (path : List String) (varName : String) : Bool :=
  match settingName? varName with
  | none => true
  | some name => Tree.apart (path.map .key) (pathOf name)

/-- One variable names the setting at a path and has a value; the others lie apart from it. -/
def Sets (env : List (String × String)) (path : List String) (v : String) : Prop :=
  ∃ before varName name after, env = before ++ (varName, v) :: after ∧
    settingName? varName = some name ∧ pathOf name = path.map .key ∧
    ∀ m ∈ before ++ after, elsewhere path m.1 = true

lemma settings_apart {env : List (String × String)} {path : List String}
    (h : ∀ m ∈ env, elsewhere path m.1 = true) :
    ∀ m ∈ settings env, Tree.apart (path.map .key) (pathOf m.1) = true := by
  intro m hm
  obtain ⟨⟨varName, v⟩, hmem, hsetting⟩ := List.mem_filterMap.mp hm
  obtain ⟨name, hname, rfl⟩ := Option.map_eq_some_iff.mp hsetting
  have helsewhere := h (varName, v) hmem
  rwa [elsewhere, hname] at helsewhere

lemma at?_of_sets {env : List (String × String)} {path : List String} (h : Sets env path v)
    (t : Tree) : (Tree.putAll (settings env) t).at? path = some (valueOf v) := by
  obtain ⟨before, varName, name, after, rfl, hname, hpath, hothers⟩ := h
  have hsettings : settings (before ++ (varName, v) :: after) =
      settings before ++ (name, valueOf v) :: settings after := by
    simp only [settings, List.filterMap_append, List.filterMap_cons, hname, Option.map_some]
  rw [hsettings]
  exact Tree.at?_putAll t (valueOf_ne_table v) hpath
    (settings_apart fun m hm => hothers m (List.mem_append_right _ hm))

end Environment

open Environment

def fileTree : Option File → Option Tree
  | none => some (.table [])
  | some f => f.read?.map fun ms => Tree.putAll ms (.table [])

variable {file : Option File} {env : List (String × String)} {s : Settings}

lemma neat_empty : Tree.Neat (.table []) :=
  .table List.Pairwise.nil (List.forall_mem_nil _)

lemma of_load (h : load file env = .ok s) : ∃ t, fileTree file = some t ∧ Tree.Neat t ∧
    shape.tree (Tree.putAll (settings env) t) = .ok s := by
  simp only [load] at h
  split at h
  · cases h
  · rename_i ms hms
    have htree : fileTree file = some (Tree.putAll ms (.table [])) := by
      cases file with
      | none =>
        cases hms
        rfl
      | some f =>
        replace hms : f.read? = some ms := hms
        rw [fileTree, hms, Option.map_some]
    split at h
    · cases h
    · rename_i d hd
      split at h <;> cases h
      exact ⟨_, htree, neat_empty.putAll ms, hd⟩

lemma taken_of_sets {α : Type} {path : List String} {take : Tree → Option α}
    {get : Settings → Option α} {v : String} (hreads : shape.Reads path take get)
    (h : load file env = .ok s) (hsets : Sets env path v) :
    ∃ a, take (valueOf v) = some a ∧ get s = some a := by
  obtain ⟨t, -, hneat, hs⟩ := of_load h
  exact hreads _ s _ (hneat.putAll _) hs (at?_of_sets hsets t) (valueOf_ne_nil v)

/-- No variable names the setting at a path, a part of it or what it is a part of, and the file has
a value there. -/
structure FromFile (file : Option File) (env : List (String × String)) (path : List String)
    (u : Tree) : Prop where
  unset : ∀ m ∈ env, elsewhere path m.1 = true
  found : ∃ t, fileTree file = some t ∧ t.at? path = some u
  given : u ≠ .nil

lemma taken_of_file {α : Type} {path : List String} {take : Tree → Option α}
    {get : Settings → Option α} {u : Tree} (hreads : shape.Reads path take get)
    (h : load file env = .ok s) (hfile : FromFile file env path u) :
    ∃ a, take u = some a ∧ get s = some a := by
  obtain ⟨t, ht, hneat, hs⟩ := of_load h
  obtain ⟨t', ht', hu⟩ := hfile.found
  cases ht'.symm.trans ht
  refine hreads _ s u (hneat.putAll _) hs ?_ hfile.given
  rw [Tree.at?_putAll_apart t (settings_apart hfile.unset), hu]

lemma range_of_numbers : ∀ x ∈ numbers, x.range.lo = 0 ∧ 0 ≤ x.range.hi := by
  decide

/-- A variable that is set wins over the file. A text is taken as it is unless it reads as a flag or
a number that would be written in another way. -/
theorem environment_overrides (h : load file env = .ok s) :
    (∀ x ∈ texts, (∀ v, Sets env x.1 v →
        (∃ held, (valueOf v).toText? = some held ∧ x.2 s = some held) ∧
        (Stays v → x.2 s = some v) ∧ ∀ c ∈ v.toList, Foreign c → x.2 s = some v) ∧
      ∀ u, FromFile file env x.1 u → ∃ held, u.toText? = some held ∧ x.2 s = some held) ∧
    (∀ x ∈ numbers, (∀ v n, Sets env x.path v → Text.readInt x.range v.toList = .ok n →
        n ≤ IntRange.i64.hi → x.get s = some n.toNat) ∧
      ∀ u, FromFile file env x.path u →
        ∃ held, u.toNat? x.range = some held ∧ x.get s = some held) := by
  have hstays : ∀ x ∈ texts, ∀ v, Sets env x.1 v → Stays v → x.2 s = some v := by
    intro x hx v hsets hv
    obtain ⟨held, hheld, hget⟩ := taken_of_sets (reads_texts x hx) h hsets
    rw [toText?_of_stays hv] at hheld
    cases hheld
    exact hget
  refine ⟨fun x hx => ⟨fun v hsets => ⟨taken_of_sets (reads_texts x hx) h hsets,
      hstays x hx v hsets, fun c hc hforeign =>
        hstays x hx v hsets (.inl (hforeign.not_reread hc))⟩,
      fun u => taken_of_file (reads_texts x hx) h⟩,
    fun x hx => ⟨fun v n hsets hread hn => ?_, fun u => taken_of_file (reads_numbers x hx) h⟩⟩
  obtain ⟨hlo, hhi⟩ := range_of_numbers x hx
  obtain ⟨held, hheld, hget⟩ := taken_of_sets (reads_numbers x hx) h hsets
  rw [toNat?_of_numeral hlo hhi hread hn] at hheld
  cases hheld
  exact hget

def givenFile : File := ⟨"banners.toml", "[auth]\nsecret = \"file\"\n[server]\nport = 81\n"⟩

def givenEnvironment : List (String × String) :=
  [("PATH", "/bin"), ("BANNERS__AUTH__SECRET", "s3:cret"), ("banners__cache__ttl_secs", "+090")]

theorem environment_overrides_given : ∃ s, load (some givenFile) givenEnvironment = .ok s ∧
    s.auth.secret = "s3:cret" ∧ s.cache.ttl = 90 ∧ s.server.port = 81 := by
  have hload : load (some givenFile) givenEnvironment = .ok
      { auth := { secret := "s3:cret" }, cache := { ttl := 90 }, server := { port := 81 } } := by
    decide +kernel
  have hsecret : Sets givenEnvironment ["auth", "secret"] "s3:cret" :=
    ⟨[("PATH", "/bin")], "BANNERS__AUTH__SECRET", "auth.secret",
      [("banners__cache__ttl_secs", "+090")], rfl, by decide +kernel, by decide +kernel,
      by decide +kernel⟩
  have httl : Sets givenEnvironment ["cache", "ttl_secs"] "+090" :=
    ⟨[("PATH", "/bin"), ("BANNERS__AUTH__SECRET", "s3:cret")], "banners__cache__ttl_secs",
      "cache.ttl_secs", [], rfl, by decide +kernel, by decide +kernel, by decide +kernel⟩
  have hport : ((fileTree (some givenFile)).bind (·.at? ["server", "port"])).bind
      (Tree.toNat? .u16) = some 81 := by
    decide +kernel
  obtain ⟨u, hu, hnat⟩ := Option.bind_eq_some_iff.mp hport
  obtain ⟨t, ht, hu⟩ := Option.bind_eq_some_iff.mp hu
  have hne : u ≠ .nil := by
    rintro rfl
    cases hnat
  have hfile : FromFile (some givenFile) givenEnvironment ["server", "port"] u :=
    ⟨by decide +kernel, ⟨t, ht, hu⟩, hne⟩
  obtain ⟨htexts, hnumbers⟩ := environment_overrides hload
  have hsecretText : (["auth", "secret"], fun s : Settings => some s.auth.secret) ∈ texts := by
    simp [texts]
  have httlNumber : ⟨["cache", "ttl_secs"], .u64, fun s => some s.cache.ttl⟩ ∈ numbers := by
    simp [numbers]
  have hportNumber : ⟨["server", "port"], .u16, fun s => some s.server.port⟩ ∈ numbers := by
    simp [numbers]
  have hforeign : Foreign ':' := ⟨by decide, by decide, by decide⟩
  refine ⟨_, hload, ?_, ?_, ?_⟩
  · have hheld := ((htexts _ hsecretText).1 _ hsecret).2.2 ':' (by decide) hforeign
    exact Option.some.inj hheld
  · have hheld := (hnumbers _ httlNumber).1 _ 90 httl (by decide) (by decide)
    exact Option.some.inj hheld
  · obtain ⟨held, hheld, hget⟩ := (hnumbers _ hportNumber).2 u hfile
    exact Option.some.inj (hget.trans (hheld.symm.trans hnat))

/-- A secret that reads as a number comes back without its zeros. -/
theorem environment_alters : ∃ s, load none [("BANNERS__AUTH__SECRET", "007")] = .ok s ∧
    Sets [("BANNERS__AUTH__SECRET", "007")] ["auth", "secret"] "007" ∧ s.auth.secret = "7" := by
  refine ⟨{ auth := { secret := "7" } }, by decide +kernel, ?_, rfl⟩
  exact ⟨[], "BANNERS__AUTH__SECRET", "auth.secret", [], rfl, by decide +kernel, by decide +kernel,
    List.forall_mem_nil _⟩

example : (load none [("BANNERS__AUTH__SECRET", "s"),
    ("BANNERS__AUTH__TOKEN_TTL_SECS", "9223372036854775809")]).map (·.auth.tokenTtl) =
      .ok 9223372036854775808 := by
  decide +kernel

end Billboard.Settings
