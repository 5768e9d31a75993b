import Billboard.Text.Base64
import Mathlib.Tactic.Common

namespace Billboard.Text.Base64

def Faithful (a : Base64) : Prop := ∀ n < 64, a.value? (a.char n) = some n

lemma faithful_standard : standard.Faithful := by
  unfold Faithful
  decide +kernel

lemma faithful_urlSafe : urlSafe.Faithful := by
  unfold Faithful
  decide +kernel

lemma ofNat_eq {x : UInt8} {n : Nat} (h : n = x.toNat) : UInt8.ofNat n = x := by
  rw [h, UInt8.ofNat_toNat]

theorem decode?_encode {a : Base64} (ha : a.Faithful) (bytes : List UInt8) :
    a.decode? (a.encode bytes) = some bytes := by
  fun_induction encode a bytes with
  | case1 => rfl
  | case2 x =>
    have hx := x.toNat_lt
    have h0 : x.toNat % 4 * 16 % 16 = 0 := by omega
    rw [decode?, ha _ (by omega), ha _ (by omega)]
    simp only [Option.bind_eq_bind, Option.bind_some, h0, if_true, Option.some.injEq]
    rw [ofNat_eq (x := x) (by omega)]
  | case3 x y =>
    have hx := x.toNat_lt
    have hy := y.toNat_lt
    have h0 : y.toNat % 16 * 4 % 4 = 0 := by omega
    rw [decode?, ha _ (by omega), ha _ (by omega), ha _ (by omega)]
    simp only [Option.bind_eq_bind, Option.bind_some, h0, if_true, Option.some.injEq]
    rw [ofNat_eq (x := x) (by omega), ofNat_eq (x := y) (by omega)]
  | case4 x y z rest ih =>
    have hx := x.toNat_lt
    have hy := y.toNat_lt
    have hz := z.toNat_lt
    rw [decode?, ha _ (by omega), ha _ (by omega), ha _ (by omega), ha _ (by omega), ih]
    simp only [Option.bind_eq_bind, Option.bind_some, Option.some.injEq]
    rw [ofNat_eq (x := x) (by omega), ofNat_eq (x := y) (by omega), ofNat_eq (x := z) (by omega)]

lemma forall_mem_encode {a : Base64} {P : Char → Prop} (h : ∀ n < 64, P (a.char n))
    (bytes : List UInt8) : ∀ c ∈ a.encode bytes, P c := by
  fun_induction encode a bytes with
  | case1 => exact List.forall_mem_nil P
  | case2 x =>
    have hx := x.toNat_lt
    simp only [List.forall_mem_cons]
    exact ⟨h _ (by omega), h _ (by omega), List.forall_mem_nil P⟩
  | case3 x y =>
    have hx := x.toNat_lt
    have hy := y.toNat_lt
    simp only [List.forall_mem_cons]
    exact ⟨h _ (by omega), h _ (by omega), h _ (by omega), List.forall_mem_nil P⟩
  | case4 x y z rest ih =>
    have hx := x.toNat_lt
    have hy := y.toNat_lt
    have hz := z.toNat_lt
    simp only [List.forall_mem_cons]
    exact ⟨h _ (by omega), h _ (by omega), h _ (by omega), h _ (by omega), ih⟩

lemma length_encode (a : Base64) (bytes : List UInt8) :
    (a.encode bytes).length = (4 * bytes.length + 2) / 3 := by
  fun_induction encode a bytes with
  | case4 x y z rest ih =>
    simp only [List.length_cons, ih]
    omega
  | _ => simp only [List.length_cons, List.length_nil, Nat.reduceAdd, Nat.reduceMul, Nat.reduceDiv]

lemma char_of_value? {a : Base64} {c : Char} {n : Nat} (h : a.value? c = some n) :
    n < 64 ∧ a.char n = c := by
  have hofNat : ∀ {m : Nat}, m = c.toNat → Char.ofNat m = c := by
    rintro m rfl
    exact Char.ofNat_toNat c
  unfold value? at h
  split_ifs at h with hupper hlower hdigit hplus hslash
  · have hlo : 65 ≤ c.toNat := hupper.1
    have hhi : c.toNat ≤ 90 := hupper.2
    obtain rfl := Option.some.inj h
    rw [char, if_pos (by omega)]
    exact ⟨by omega, hofNat (by omega)⟩
  · have hlo : 97 ≤ c.toNat := hlower.1
    have hhi : c.toNat ≤ 122 := hlower.2
    obtain rfl := Option.some.inj h
    rw [char, if_neg (by omega), if_pos (by omega)]
    exact ⟨by omega, hofNat (by omega)⟩
  · have hlo : 48 ≤ c.toNat := hdigit.1
    have hhi : c.toNat ≤ 57 := hdigit.2
    obtain rfl := Option.some.inj h
    rw [char, if_neg (by omega), if_neg (by omega), if_pos (by omega)]
    exact ⟨by omega, hofNat (by omega)⟩
  · obtain rfl := Option.some.inj h
    exact ⟨by decide, hplus.symm⟩
  · obtain rfl := Option.some.inj h
    exact ⟨by decide, hslash.symm⟩

lemma toNat_ofNat {n : Nat} (h : n < 256) : (UInt8.ofNat n).toNat = n := by
  rw [UInt8.toNat_ofNat', Nat.mod_eq_of_lt h]

theorem encode_of_decode? {a : Base64} {cs : List Char} {bytes : List UInt8}
    (h : a.decode? cs = some bytes) : a.encode bytes = cs := by
  fun_induction decode? a cs generalizing bytes with
  | case1 =>
    cases h
    rfl
  | case2 => cases h
  | case3 p q =>
    simp only [Option.bind_eq_bind, Option.bind_eq_some_iff] at h
    obtain ⟨x, hp, y, hq, h⟩ := h
    obtain ⟨hx, rfl⟩ := char_of_value? hp
    obtain ⟨hy, rfl⟩ := char_of_value? hq
    split_ifs at h with hzero
    obtain rfl := Option.some.inj h
    have hp : (x * 4 + y / 16) / 4 = x := by omega
    have hq : (x * 4 + y / 16) % 4 * 16 = y := by omega
    rw [encode, toNat_ofNat (by omega), hp, hq]
  | case4 p q r =>
    simp only [Option.bind_eq_bind, Option.bind_eq_some_iff] at h
    obtain ⟨x, hp, y, hq, z, hr, h⟩ := h
    obtain ⟨hx, rfl⟩ := char_of_value? hp
    obtain ⟨hy, rfl⟩ := char_of_value? hq
    obtain ⟨hz, rfl⟩ := char_of_value? hr
    split_ifs at h with hzero
    obtain rfl := Option.some.inj h
    have hp : (x * 4 + y / 16) / 4 = x := by omega
    have hq : (x * 4 + y / 16) % 4 * 16 + (y % 16 * 16 + z / 4) / 16 = y := by omega
    have hr : (y % 16 * 16 + z / 4) % 16 * 4 = z := by omega
    rw [encode, toNat_ofNat (by omega), toNat_ofNat (by omega), hp, hq, hr]
  | case5 p q r s rest ih =>
    simp only [Option.bind_eq_bind, Option.bind_eq_some_iff] at h
    obtain ⟨x, hp, y, hq, z, hr, w, hs, more, hrest, h⟩ := h
    obtain ⟨hx, rfl⟩ := char_of_value? hp
    obtain ⟨hy, rfl⟩ := char_of_value? hq
    obtain ⟨hz, rfl⟩ := char_of_value? hr
    obtain ⟨hw, rfl⟩ := char_of_value? hs
    obtain rfl := Option.some.inj h
    have hp : (x * 4 + y / 16) / 4 = x := by omega
    have hq : (x * 4 + y / 16) % 4 * 16 + (y % 16 * 16 + z / 4) / 16 = y := by omega
    have hr : (y % 16 * 16 + z / 4) % 16 * 4 + (z % 4 * 64 + w) / 64 = z := by omega
    have hs : (z % 4 * 64 + w) % 64 = w := by omega
    rw [encode, toNat_ofNat (by omega), toNat_ofNat (by omega), toNat_ofNat (by omega), hp, hq, hr,
      hs, ih hrest]

lemma decode?_eq_some_iff {a : Base64} (ha : a.Faithful) {cs : List Char} {bytes : List UInt8} :
    a.decode? cs = some bytes ↔ cs = a.encode bytes := by
  constructor
  · exact fun h => (encode_of_decode? h).symm
  · rintro rfl
    exact decode?_encode ha bytes

lemma dot_notMem_encode (bytes : List UInt8) : '.' ∉ urlSafe.encode bytes := fun h =>
  forall_mem_encode (P := (· ≠ '.')) (by decide +kernel) bytes '.' h rfl

lemma value?_of_decode? {a : Base64} {cs : List Char} {bytes : List UInt8}
    (h : a.decode? cs = some bytes) : ∀ c ∈ cs, ∃ n, a.value? c = some n := by
  fun_induction decode? a cs generalizing bytes with
  | case1 => exact List.forall_mem_nil _
  | case2 => cases h
  | case3 p q =>
    simp only [Option.bind_eq_bind, Option.bind_eq_some_iff] at h
    obtain ⟨x, hp, y, hq, -⟩ := h
    simp only [List.forall_mem_cons]
    exact ⟨⟨x, hp⟩, ⟨y, hq⟩, List.forall_mem_nil _⟩
  | case4 p q r =>
    simp only [Option.bind_eq_bind, Option.bind_eq_some_iff] at h
    obtain ⟨x, hp, y, hq, z, hr, -⟩ := h
    simp only [List.forall_mem_cons]
    exact ⟨⟨x, hp⟩, ⟨y, hq⟩, ⟨z, hr⟩, List.forall_mem_nil _⟩
  | case5 p q r s rest ih =>
    simp only [Option.bind_eq_bind, Option.bind_eq_some_iff] at h
    obtain ⟨x, hp, y, hq, z, hr, w, hs, more, hrest, -⟩ := h
    simp only [List.forall_mem_cons]
    exact ⟨⟨x, hp⟩, ⟨y, hq⟩, ⟨z, hr⟩, ⟨w, hs⟩, ih hrest⟩

lemma dot_notMem_of_decode? {cs : List Char} {bytes : List UInt8}
    (h : urlSafe.decode? cs = some bytes) : '.' ∉ cs := fun hmem => by
  obtain ⟨n, hn⟩ := value?_of_decode? h '.' hmem
  cases hn

end Billboard.Text.Base64
