import Billboard.Password.HashString
import Billboard.Proofs.Text.Base64
import Billboard.Proofs.Text.Digits
import Billboard.Proofs.Text.Split

/-! The texts that are read as hash strings are those written for well-formed ones. -/

namespace Billboard

namespace Password.HashString

open Text

lemma notMem_of_all {p : Char → Bool} {cs : List Char} {c : Char} (h : cs.all p = true)
    (hc : p c = false) : c ∉ cs := fun hm => by
  rw [List.all_eq_true.mp h c hm] at hc
  cases hc

lemma all_of_isName {cs : List Char} (h : isName cs = true) : cs.all isNameChar = true := by
  rw [isName, Bool.and_eq_true] at h
  exact h.2

lemma all_of_isValue {cs : List Char} (h : isValue cs = true) : cs.all isValueChar = true := by
  rw [isValue, Bool.and_eq_true] at h
  exact h.2

lemma decimal?_eq_some {cs : List Char} {n : Nat} :
    decimal? cs = some n ↔ n < 0x100000000 ∧ cs = natDigits n := by
  unfold decimal?
  constructor
  · intro h
    split_ifs at h with hflaw
    dsimp only at h
    split_ifs at h with hlt
    obtain rfl := Option.some.inj h
    rw [not_or, not_or, Bool.not_eq_true, Bool.not_eq_false'] at hflaw
    obtain ⟨hne, hdigits, hzero⟩ := hflaw
    rw [natDigits_of_no_leading_zero hne (List.all_eq_true.mp hdigits) hzero]
    exact ⟨hlt, rfl⟩
  · rintro ⟨hlt, rfl⟩
    have hdigits : (natDigits n).all isDigit = true :=
      List.all_eq_true.mpr (isDigit_of_mem_natDigits n)
    rw [if_neg, valueOfDigits_natDigits]
    · exact if_pos hlt
    · rw [hdigits]
      rintro (hnil | hall | hzero)
      · exact natDigits_ne_nil n hnil
      · cases hall
      · exact natDigits_no_leading_zero n hzero

lemma notMem_natDigits {c : Char} (hc : isDigit c = false) (n : Nat) : c ∉ natDigits n :=
  notMem_of_all (List.all_eq_true.mpr (isDigit_of_mem_natDigits n)) hc

def versionFields (version : Option Nat) : List (List Char) :=
  version.toList.map fun v => 'v' :: '=' :: natDigits v

lemma takeVersion_eq_some {fields rest : List (List Char)} {version : Option Nat} :
    takeVersion fields = some (version, rest) ↔ fields = versionFields version ++ rest ∧
      (∀ v, version = some v → v < 0x100000000) ∧
      (version = none → ∀ digits more, rest = ('v' :: '=' :: digits) :: more → ',' ∈ digits) := by
  constructor
  · intro h
    unfold takeVersion at h
    split at h
    · split_ifs at h with hcomma
      · cases h
        refine ⟨rfl, nofun, fun _ digits more heq => ?_⟩
        cases heq
        exact hcomma
      · obtain ⟨v, hv, heq⟩ := Option.map_eq_some_iff.mp h
        cases heq
        obtain ⟨hlt, rfl⟩ := decimal?_eq_some.mp hv
        refine ⟨rfl, fun w hw => ?_, nofun⟩
        cases hw
        exact hlt
    · rename_i hfields
      cases h
      exact ⟨rfl, nofun, fun _ digits more heq => (hfields digits more heq).elim⟩
  · rintro ⟨rfl, hversion, hrest⟩
    cases version with
    | some v =>
      have hread : decimal? (natDigits v) = some v := decimal?_eq_some.mpr ⟨hversion v rfl, rfl⟩
      change takeVersion (('v' :: '=' :: natDigits v) :: rest) = _
      rw [takeVersion, if_neg (notMem_natDigits rfl v), hread]
      rfl
    | none =>
      change takeVersion rest = _
      unfold takeVersion
      split
      · exact if_pos (hrest rfl _ _ rfl)
      · rfl

variable {p : List Char × List Char} {params : List (List Char × List Char)}

def Writable (params : List (List Char × List Char)) : Prop :=
  ∀ p ∈ params, isName p.1 = true ∧ isValue p.2 = true

lemma notMem_writeParam {c : Char} (hc : c ≠ '=') (hname : isNameChar c = false)
    (hvalue : isValueChar c = false) (hp : isName p.1 = true ∧ isValue p.2 = true) :
    c ∉ writeParam p := by
  rw [writeParam, List.mem_append, List.mem_cons, not_or, not_or]
  exact ⟨notMem_of_all (all_of_isName hp.1) hname, hc,
    notMem_of_all (all_of_isValue hp.2) hvalue⟩

lemma splitAt_writeParam (hp : isName p.1 = true ∧ isValue p.2 = true) :
    splitAt '=' (writeParam p) = [p.1, p.2] := by
  have hname : '=' ∉ p.1 := notMem_of_all (all_of_isName hp.1) rfl
  have hvalue : '=' ∉ p.2 := notMem_of_all (all_of_isValue hp.2) rfl
  rw [writeParam, splitAt_append_mark hname, splitAt_of_notMem hvalue]

lemma readParam_eq_some {cs : List Char} : readParam cs = some p ↔
    (isName p.1 = true ∧ isValue p.2 = true) ∧ cs = writeParam p := by
  unfold readParam
  constructor
  · intro h
    split at h
    · rename_i name value hsplit
      split_ifs at h with hp
      cases h
      rw [Bool.and_eq_true] at hp
      obtain ⟨-, hcs⟩ := (splitAt_eq_iff (List.cons_ne_nil _ _)).mp hsplit
      rw [List.intercalate_cons_cons, List.intercalate_singleton, List.append_assoc] at hcs
      exact ⟨hp, hcs⟩
    · cases h
  · rintro ⟨hp, rfl⟩
    rw [splitAt_writeParam hp]
    simp only [hp.1, hp.2, Bool.and_self, if_true]

lemma mapM_readParam_eq_some {pieces : List (List Char)} : pieces.mapM readParam = some params ↔
    Writable params ∧ pieces = params.map writeParam := by
  induction pieces generalizing params with
  | nil =>
    rw [List.mapM_nil, Option.pure_def, Option.some_inj, eq_comm (a := []) (b := List.map _ _),
      List.map_eq_nil_iff]
    constructor
    · rintro rfl
      exact ⟨List.forall_mem_nil _, rfl⟩
    · exact fun h => h.2.symm
  | cons piece pieces ih =>
    simp only [List.mapM_cons, Option.bind_eq_bind, Option.bind_eq_some_iff, Option.pure_def,
      Option.some_inj, ih, readParam_eq_some]
    constructor
    · rintro ⟨p, ⟨hp, rfl⟩, rest, ⟨hrest, rfl⟩, rfl⟩
      exact ⟨List.forall_mem_cons.mpr ⟨hp, hrest⟩, rfl⟩
    · rintro ⟨hparams, heq⟩
      cases params with
      | nil => cases heq
      | cons p rest =>
        obtain ⟨hp, hrest⟩ := List.forall_mem_cons.mp hparams
        rw [List.map_cons, List.cons_eq_cons] at heq
        exact ⟨p, ⟨hp, heq.1⟩, rest, ⟨hrest, heq.2⟩, rfl⟩

def paramsText (params : List (List Char × List Char)) : List Char :=
  [','].intercalate (params.map writeParam)

def Short (params : List (List Char × List Char)) : Prop :=
  (String.ofList (paramsText params)).utf8ByteSize ≤ 127

lemma splitAt_paramsText (hne : params ≠ []) (hp : Writable params) :
    splitAt ',' (paramsText params) = params.map writeParam := by
  apply splitAt_intercalate
  · rwa [ne_eq, List.map_eq_nil_iff]
  · rw [List.forall_mem_map]
    exact fun p hm => notMem_writeParam (by decide) rfl rfl (hp p hm)

lemma readParams_eq_some {cs : List Char} : readParams cs = some params ↔
    params ≠ [] ∧ (Writable params ∧ Short params) ∧ cs = paramsText params := by
  unfold readParams
  constructor
  · intro h
    split_ifs at h with hlong
    obtain ⟨hparams, hsplit⟩ := mapM_readParam_eq_some.mp h
    have hcs : cs = paramsText params := by
      rw [paramsText, ← hsplit, intercalate_splitAt]
    subst hcs
    refine ⟨?_, ⟨hparams, Nat.not_lt.mp hlong⟩, rfl⟩
    rintro rfl
    exact splitAt_ne_nil _ _ hsplit
  · rintro ⟨hne, ⟨hparams, hshort⟩, rfl⟩
    rw [if_neg (Nat.not_lt.mpr hshort), splitAt_paramsText hne hparams]
    exact mapM_readParam_eq_some.mpr ⟨hparams, rfl⟩

lemma equals_mem_paramsText (hne : params ≠ []) : '=' ∈ paramsText params := by
  obtain ⟨p, rest, rfl⟩ := List.exists_cons_of_ne_nil hne
  rw [paramsText, List.map_cons, intercalate_cons, writeParam]
  exact List.mem_append_left _ (List.mem_append_right _ List.mem_cons_self)

lemma dollar_notMem_paramsText (hp : Writable params) : '$' ∉ paramsText params := by
  refine notMem_intercalate (by decide) ?_
  simp only [List.forall_mem_map]
  exact fun p hm => notMem_writeParam (by decide) rfl rfl (hp p hm)

lemma comma_mem_of_paramsText (hp : Writable params) (halone : ∀ value, params ≠ [(['v'], value)])
    {digits : List Char} (h : paramsText params = 'v' :: '=' :: digits) : ',' ∈ digits := by
  by_contra hcomma
  have hne : params ≠ [] := by
    rintro rfl
    cases h
  have hmark : ',' ∉ 'v' :: '=' :: digits := by
    rw [List.mem_cons, List.mem_cons, not_or, not_or]
    exact ⟨by decide, by decide, hcomma⟩
  have hsplit := splitAt_paramsText hne hp
  rw [h, splitAt_of_notMem hmark, eq_comm, List.map_eq_singleton_iff] at hsplit
  obtain ⟨p, rfl, hparam⟩ := hsplit
  -- the name of the one parameter is what stands before the equals sign
  have hpieces := splitAt_writeParam (hp p List.mem_cons_self)
  have hfirst : splitAt '=' ('v' :: '=' :: digits) = ['v'] :: splitAt '=' digits :=
    splitAt_append_mark (l := ['v']) (by decide) digits
  rw [hparam, hfirst] at hpieces
  exact halone p.2 (by rw [(List.cons.inj hpieces).1])

def paramsFields (params : List (List Char × List Char)) : List (List Char) :=
  if params = [] then [] else [paramsText params]

lemma takeParams_eq_some {fields rest : List (List Char)} :
    takeParams fields = some (params, rest) ↔ fields = paramsFields params ++ rest ∧
      (Writable params ∧ Short params) ∧
      (params = [] → ∀ field more, rest = field :: more → '=' ∉ field) := by
  have hnil : Writable [] ∧ Short [] := ⟨List.forall_mem_nil _, Nat.zero_le _⟩
  constructor
  · intro h
    unfold takeParams at h
    split at h
    · rename_i field more
      split_ifs at h with hequals
      · obtain ⟨ps, hps, heq⟩ := Option.map_eq_some_iff.mp h
        cases heq
        obtain ⟨hne, hfit, rfl⟩ := readParams_eq_some.mp hps
        rw [paramsFields, if_neg hne]
        exact ⟨rfl, hfit, fun hnil => (hne hnil).elim⟩
      · cases h
        refine ⟨rfl, hnil, fun _ field' more' heq => ?_⟩
        cases heq
        exact hequals
    · cases h
      exact ⟨rfl, hnil, fun _ _ _ heq => by cases heq⟩
  · rintro ⟨rfl, hfit, hrest⟩
    unfold paramsFields
    split_ifs with hempty
    · subst hempty
      cases rest with
      | nil => rfl
      | cons field more => exact if_neg (hrest rfl field more rfl)
    · rw [List.singleton_append, takeParams, if_pos (equals_mem_paramsText hempty),
        readParams_eq_some.mpr ⟨hempty, hfit, rfl⟩]
      rfl

lemma isValueChar_of_mem_encode (bytes : List UInt8) :
    ∀ c ∈ Base64.standard.encode bytes, isValueChar c = true :=
  Base64.forall_mem_encode (P := (isValueChar · = true)) (by decide +kernel) bytes

lemma readSalt_eq_some {cs salt : List Char} :
    readSalt cs = some salt ↔ (4 ≤ salt.length ∧ isValue salt = true) ∧ cs = salt := by
  unfold readSalt
  rw [← decide_eq_true_iff (p := 4 ≤ salt.length), ← Bool.and_eq_true]
  constructor
  · intro h
    split_ifs at h with hcs
    cases h
    exact ⟨hcs, rfl⟩
  · rintro ⟨hcs, rfl⟩
    exact if_pos hcs

lemma readHash_eq_some {cs : List Char} {hash : List UInt8} : readHash cs = some hash ↔
    (10 ≤ hash.length ∧ hash.length ≤ 64) ∧ cs = Base64.standard.encode hash := by
  unfold readHash
  simp only [Option.bind_eq_bind, Option.bind_eq_some_iff,
    Base64.decode?_eq_some_iff Base64.faithful_standard]
  constructor
  · rintro ⟨bytes, rfl, h⟩
    split_ifs at h with hsize
    cases h
    exact ⟨hsize, rfl⟩
  · rintro ⟨hsize, rfl⟩
    exact ⟨hash, rfl, if_pos hsize⟩

def endFields (salt : Option (List Char)) (hash : Option (List UInt8)) : List (List Char) :=
  salt.toList ++ hash.toList.map Base64.standard.encode

lemma readEnd_eq_some {fields : List (List Char)} {salt : Option (List Char)}
    {hash : Option (List UInt8)} :
    readEnd fields = some (salt, hash) ↔ fields = endFields salt hash ∧
      (∀ s, salt = some s → 4 ≤ s.length ∧ isValue s = true) ∧
      ∀ bytes, hash = some bytes → salt ≠ none ∧ 10 ≤ bytes.length ∧ bytes.length ≤ 64 := by
  constructor
  · intro h
    unfold readEnd at h
    split at h
    · cases h
      exact ⟨rfl, nofun, nofun⟩
    · obtain ⟨s, hs, heq⟩ := Option.map_eq_some_iff.mp h
      cases heq
      obtain ⟨hsalt, rfl⟩ := readSalt_eq_some.mp hs
      refine ⟨rfl, fun s' heq => ?_, nofun⟩
      cases heq
      exact hsalt
    · simp only [Option.bind_eq_bind, Option.bind_eq_some_iff] at h
      obtain ⟨s, hs, bytes, hbytes, heq⟩ := h
      cases heq
      obtain ⟨hsalt, rfl⟩ := readSalt_eq_some.mp hs
      obtain ⟨hsize, rfl⟩ := readHash_eq_some.mp hbytes
      refine ⟨rfl, fun s' heq => ?_, fun bytes' heq => ?_⟩
      · cases heq
        exact hsalt
      · cases heq
        exact ⟨Option.some_ne_none _, hsize⟩
    · cases h
  · rintro ⟨rfl, hsalt, hhash⟩
    cases salt with
    | none =>
      cases hash with
      | none => rfl
      | some bytes => exact ((hhash bytes rfl).1 rfl).elim
    | some s =>
      have hs : readSalt s = some s := readSalt_eq_some.mpr ⟨hsalt s rfl, rfl⟩
      cases hash with
      | none =>
        change (readSalt s).map _ = _
        rw [hs]
        rfl
      | some bytes =>
        have hbytes : readHash (Base64.standard.encode bytes) = some bytes :=
          readHash_eq_some.mpr ⟨(hhash bytes rfl).2, rfl⟩
        change (readSalt s).bind _ = _
        rw [hs, Option.bind_some, hbytes]
        rfl

structure WellFormed (h : HashString) : Prop where
  algorithm : isName h.algorithm = true
  version : ∀ v, h.version = some v → v < 0x100000000
  params : Writable h.params
  params_short : Short h.params
  params_alone : h.version = none → ∀ value, h.params ≠ [(['v'], value)]
  salt : ∀ s, h.salt = some s → 4 ≤ s.length ∧ isValue s = true
  hash : ∀ bytes, h.hash = some bytes → h.salt ≠ none ∧ 10 ≤ bytes.length ∧ bytes.length ≤ 64

variable {h : HashString} {cs : List Char}

def fields (h : HashString) : List (List Char) :=
  versionFields h.version ++ (paramsFields h.params ++ endFields h.salt h.hash)

lemma write_eq (h : HashString) : h.write = ['$'].intercalate ([] :: h.algorithm :: h.fields) := by
  obtain ⟨algorithm, version, params, salt, hash⟩ := h
  rw [intercalate_cons, List.flatMap_cons, write, fields, paramsFields]
  -- each optional part is there or is left out
  by_cases hempty : params = [] <;> cases version <;> cases salt <;> cases hash <;>
    simp [hempty, versionFields, paramsText, endFields]

lemma WellFormed.dollar_notMem (hw : h.WellFormed) :
    ∀ piece ∈ [] :: h.algorithm :: h.fields, '$' ∉ piece := by
  have hversion : ∀ piece ∈ versionFields h.version, '$' ∉ piece := by
    intro piece hm
    obtain ⟨v, -, rfl⟩ := List.mem_map.mp hm
    rw [List.mem_cons, List.mem_cons, not_or, not_or]
    exact ⟨by decide, by decide, notMem_natDigits rfl v⟩
  have hparams : ∀ piece ∈ paramsFields h.params, '$' ∉ piece := by
    intro piece hm
    unfold paramsFields at hm
    split_ifs at hm
    · exact (List.not_mem_nil hm).elim
    · rw [List.mem_singleton.mp hm]
      exact dollar_notMem_paramsText hw.params
  have hend : ∀ piece ∈ endFields h.salt h.hash, '$' ∉ piece := by
    intro piece hm
    rcases List.mem_append.mp hm with hm | hm
    · have hsalt := hw.salt piece (Option.mem_toList.mp hm)
      exact notMem_of_all (all_of_isValue hsalt.2) rfl
    · obtain ⟨bytes, -, rfl⟩ := List.mem_map.mp hm
      exact notMem_of_all (List.all_eq_true.mpr (isValueChar_of_mem_encode bytes)) rfl
  rw [List.forall_mem_cons, List.forall_mem_cons, fields, List.forall_mem_append,
    List.forall_mem_append]
  exact ⟨List.not_mem_nil, notMem_of_all (all_of_isName hw.algorithm) rfl, hversion, hparams, hend⟩

lemma WellFormed.equals_notMem (hw : h.WellFormed) {field : List Char} {more : List (List Char)}
    (heq : endFields h.salt h.hash = field :: more) : '=' ∉ field := by
  unfold endFields at heq
  cases hs : h.salt with
  | some s =>
    rw [hs] at heq
    rw [← (List.cons.inj heq).1]
    exact notMem_of_all (all_of_isValue (hw.salt s hs).2) rfl
  | none =>
    cases hb : h.hash with
    | none =>
      rw [hs, hb] at heq
      cases heq
    | some bytes => exact ((hw.hash bytes hb).1 hs).elim

lemma WellFormed.comma_mem (hw : h.WellFormed) (hnone : h.version = none) {digits : List Char}
    {more : List (List Char)} (heq : paramsFields h.params ++ endFields h.salt h.hash =
      ('v' :: '=' :: digits) :: more) : ',' ∈ digits := by
  unfold paramsFields at heq
  split_ifs at heq with hempty
  · exact (hw.equals_notMem heq (List.mem_cons_of_mem _ List.mem_cons_self)).elim
  · exact comma_mem_of_paramsText hw.params (hw.params_alone hnone) (List.cons.inj heq).1

theorem read?_eq_some_iff : read? cs = some h ↔ h.WellFormed ∧ cs = h.write := by
  constructor
  · intro hread
    unfold read? at hread
    split at hread
    · rename_i algorithm fields hsplit
      cases hname : isName algorithm with
      | false => simp [hname] at hread
      | true =>
        simp only [hname, Bool.not_true, Bool.false_eq_true, if_false, Option.bind_eq_bind,
          Option.bind_eq_some_iff] at hread
        obtain ⟨⟨version, rest⟩, hversion, ⟨params, last⟩, hparams, ⟨salt, hash⟩, hend, heq⟩ := hread
        cases heq
        obtain ⟨rfl, hv, hfirst⟩ := takeVersion_eq_some.mp hversion
        obtain ⟨rfl, ⟨hp, hshort⟩, -⟩ := takeParams_eq_some.mp hparams
        obtain ⟨rfl, hsalt, hhash⟩ := readEnd_eq_some.mp hend
        refine ⟨⟨hname, hv, hp, hshort, fun hnone value heq => ?_, hsalt, hhash⟩, ?_⟩
        · -- such a parameter would have been taken for the version
          have hlone : params = [(['v'], value)] := heq
          subst hlone
          have hfield : paramsFields [(['v'], value)] = ['v' :: '=' :: value] := by
            rw [paramsFields, if_neg (List.cons_ne_nil _ _), paramsText, List.map_singleton,
              List.intercalate_singleton]
            rfl
          have hcomma := hfirst hnone value (endFields salt hash) (by rw [hfield]; rfl)
          have hvalue := (hp (['v'], value) List.mem_cons_self).2
          exact notMem_of_all (all_of_isValue hvalue) rfl hcomma
        · rw [write_eq]
          exact ((splitAt_eq_iff (List.cons_ne_nil _ _)).mp hsplit).2
    · cases hread
  · rintro ⟨hw, rfl⟩
    have hsplit : splitAt '$' h.write = [] :: h.algorithm :: h.fields := by
      rw [write_eq]
      exact splitAt_intercalate (List.cons_ne_nil _ _) hw.dollar_notMem
    have hversion := takeVersion_eq_some.mpr
      ⟨rfl, hw.version, fun hnone digits more heq => hw.comma_mem hnone heq⟩
    have hparams := takeParams_eq_some.mpr
      ⟨rfl, ⟨hw.params, hw.params_short⟩, fun _ field more heq => hw.equals_notMem heq⟩
    have hend := readEnd_eq_some.mpr ⟨rfl, hw.salt, hw.hash⟩
    rw [read?, hsplit]
    simp only [hw.algorithm, Bool.not_true, Bool.false_eq_true, if_false, Option.bind_eq_bind, fields,
      hversion, hparams, hend, Option.bind_some]

end Password.HashString

end Billboard
