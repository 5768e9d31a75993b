import Billboard.Proofs.Cache.Shared
import Mathlib.Algebra.Order.BigOperators.Group.Finset
import Mathlib.Data.List.Permutation
import Mathlib.Logic.Equiv.Basic

/-! How often a read hands out each banner, over all orders of the members. -/

namespace Billboard

namespace Visit

def along (o : List Int) : Visit where
  order ids := if o.Perm ids then o else ids
  perm ids := by
    split_ifs with h
    · exact h
    · exact .rfl

def orders (ids : List Int) : Finset (List Int) := ids.permutations.toFinset

def firsts (ids : List Int) (p : Int → Bool) (id : Int) : Finset (List Int) :=
  {o ∈ orders ids | o.find? p = some id}

variable {ids members o : List Int} {p : Int → Bool} {a b : Int}

lemma mem_orders : o ∈ orders ids ↔ o.Perm ids := by
  rw [orders, List.mem_toFinset, List.mem_permutations]

lemma along_order (h : o ∈ orders ids) : (along o).order ids = o := if_pos (mem_orders.mp h)

lemma card_orders (h : ids.Nodup) : (orders ids).card = ids.length.factorial := by
  rw [orders, List.toFinset_card_of_nodup (List.nodup_permutations ids h), List.length_permutations]

lemma mem_of_find? (ho : o ∈ orders ids) (h : o.find? p = some a) : a ∈ ids ∧ p a = true :=
  ⟨(mem_orders.mp ho).mem_iff.mp (List.mem_of_find?_eq_some h), List.find?_some h⟩

lemma map_swap_perm (h : ids.Nodup) (ha : a ∈ ids) (hb : b ∈ ids) :
    (ids.map (Equiv.swap a b)).Perm ids := by
  rw [List.perm_ext_iff_of_nodup (h.map (Equiv.swap a b).injective) h]
  intro x
  rw [List.mem_map_of_involutive (Equiv.swap_apply_self a b)]
  rcases eq_or_ne x a with rfl | hxa
  · rw [Equiv.swap_apply_left]
    exact iff_of_true hb ha
  · rcases eq_or_ne x b with rfl | hxb
    · rw [Equiv.swap_apply_right]
      exact iff_of_true ha hb
    · rw [Equiv.swap_apply_of_ne_of_ne hxa hxb]

lemma map_swap_mem_firsts (h : ids.Nodup) (ha : a ∈ ids ∧ p a = true) (hb : b ∈ ids ∧ p b = true)
    (ho : o ∈ firsts ids p a) : o.map (Equiv.swap a b) ∈ firsts ids p b := by
  obtain ⟨ho, hfirst⟩ := Finset.mem_filter.mp ho
  have hsame : p ∘ Equiv.swap a b = p := by
    funext x
    simp only [Function.comp_apply, Equiv.swap_apply_def]
    split_ifs with hxa hxb
    · rw [hb.2, hxa, ha.2]
    · rw [ha.2, hxb, hb.2]
    · rfl
  refine Finset.mem_filter.mpr ⟨mem_orders.mpr ?_, ?_⟩
  · exact ((mem_orders.mp ho).map _).trans (map_swap_perm h ha.1 hb.1)
  · rw [List.find?_map, hsame, hfirst, Option.map_some, Equiv.swap_apply_left]

lemma card_firsts_eq (h : ids.Nodup) (ha : a ∈ ids ∧ p a = true) (hb : b ∈ ids ∧ p b = true) :
    (firsts ids p a).card = (firsts ids p b).card := by
  have hinvolutive : ∀ o : List Int, (o.map (Equiv.swap a b)).map (Equiv.swap a b) = o := by
    intro o
    rw [List.map_map, Function.Involutive.comp_self (Equiv.swap_apply_self a b), List.map_id]
  refine Finset.card_nbij' (List.map (Equiv.swap a b)) (List.map (Equiv.swap a b))
    (fun o ho => map_swap_mem_firsts h ha hb ho) (fun o ho => ?_)
    (fun o _ => hinvolutive o) fun o _ => hinvolutive o
  rw [Equiv.swap_comm]
  exact map_swap_mem_firsts h hb ha ho

lemma card_eq_sum_firsts {s : Finset (List Int)}
    (h : ∀ o, o ∈ s ↔ o ∈ orders ids ∧ ∃ id ∈ members, o.find? p = some id) :
    s.card = ∑ id ∈ members.toFinset, (firsts ids p id).card := by
  rw [Finset.card_eq_sum_card_fiberwise (f := List.find? p) (t := members.toFinset.image some),
    Finset.sum_image fun _ _ _ _ he => Option.some.inj he]
  · refine Finset.sum_congr rfl fun id hid => congrArg Finset.card ?_
    ext o
    simp only [firsts, Finset.mem_filter, h, and_congr_left_iff]
    intro ho
    exact and_iff_left ⟨id, List.mem_toFinset.mp hid, ho⟩
  · intro o ho
    obtain ⟨-, id, hid, hfirst⟩ := (h o).mp ho
    simp only [Finset.coe_image, Set.mem_image, Finset.mem_coe, List.mem_toFinset]
    exact ⟨id, hid, hfirst.symm⟩

lemma countP_mul_card_firsts (h : ids.Nodup) (ha : a ∈ ids ∧ p a = true) :
    ids.countP p * (firsts ids p a).card = ids.length.factorial := by
  have hall : ∀ o, o ∈ orders ids ↔
      o ∈ orders ids ∧ ∃ id ∈ ids.filter p, o.find? p = some id := by
    refine fun o => (and_iff_left_of_imp fun ho => ?_).symm
    have hsome : (o.find? p).isSome = true :=
      List.find?_isSome.mpr ⟨a, (mem_orders.mp ho).mem_iff.mpr ha.1, ha.2⟩
    obtain ⟨id, hid⟩ := Option.isSome_iff_exists.mp hsome
    exact ⟨id, List.mem_filter.mpr (mem_of_find? ho hid), hid⟩
  rw [← card_orders h, card_eq_sum_firsts hall,
    Finset.sum_const_nat fun id hid => card_firsts_eq h
      (List.mem_filter.mp (List.mem_toFinset.mp hid)) ha,
    List.toFinset_card_of_nodup (h.filter p), ← List.countP_eq_length_filter]

variable {α ε : Type} [DecidableEq α] {g : Int → Option α}

omit [DecidableEq α] in
lemma findSome?_eq_bind (g : Int → Option α) (o : List Int) :
    o.findSome? g = (o.find? fun id => (g id).isSome).bind g := by
  induction o with
  | nil => rfl
  | cons id o ih =>
    rw [List.findSome?_cons, List.find?_cons]
    cases hg : g id with
    | none =>
      rw [Option.isSome_none]
      exact ih
    | some a =>
      rw [Option.isSome_some]
      exact hg.symm

lemma card_findSome? (h : ids.Nodup) (g : Int → Option α) (x : α) :
    {o ∈ orders ids | o.findSome? g = some x}.card = ids.countP (fun id => g id = some x) *
      (ids.length.factorial / ids.countP fun id => (g id).isSome) := by
  have hfirst : ∀ o, o ∈ {o ∈ orders ids | o.findSome? g = some x} ↔ o ∈ orders ids ∧
      ∃ id ∈ ids.filter fun id => g id = some x, o.find? (fun id => (g id).isSome) = some id := by
    intro o
    rw [Finset.mem_filter, findSome?_eq_bind, Option.bind_eq_some_iff]
    refine and_congr_right fun ho => exists_congr fun id => ?_
    rw [List.mem_filter, decide_eq_true_eq, and_comm]
    exact and_congr_left fun hid => (and_iff_right (mem_of_find? ho hid).1).symm
  rw [card_eq_sum_firsts hfirst, Finset.sum_const_nat fun id hid => ?_,
    List.toFinset_card_of_nodup (h.filter _), ← List.countP_eq_length_filter]
  have hid := List.mem_filter.mp (List.mem_toFinset.mp hid)
  have hyields : id ∈ ids ∧ (g id).isSome = true :=
    ⟨hid.1, Option.isSome_iff_exists.mpr ⟨x, of_decide_eq_true hid.2⟩⟩
  have hpos : 0 < ids.countP fun id => (g id).isSome := List.countP_pos_iff.mpr ⟨id, hyields⟩
  exact Nat.eq_div_of_mul_eq_right hpos.ne' (countP_mul_card_firsts h hyields)

lemma countP_eq_one (h : ids.Nodup) {x : α} (ha : a ∈ ids) (hx : g a = some x)
    (halone : ∀ id ∈ ids, g id = some x → id = a) : ids.countP (fun id => g id = some x) = 1 := by
  have hfilter : ids.countP (fun id => g id = some x) = ids.countP (· == a) := by
    refine List.countP_congr fun id hid => ?_
    rw [decide_eq_true_eq, beq_iff_eq]
    exact ⟨halone id hid, fun he => he ▸ hx⟩
  rw [hfilter, ← List.count, List.count_eq_one_of_mem h ha]

omit [DecidableEq α] in
lemma elim_eq_ok {failure : ε} {r : Option α} {x : α} :
    r.elim (.error failure) .ok = (.ok x : Except ε α) ↔ r = some x := by
  cases r with
  | none => exact iff_of_false nofun nofun
  | some a => rw [Option.elim_some, Except.ok.injEq, Option.some.injEq]

end Visit

namespace LocalCache

open Banner (indexKey)
open Visit

/-- How many members of a pair's index set have an unexpired payload that is served for it. -/
def servedMembers (c : LocalCache) (f t : Int) (now : Nat) : Nat :=
  (c.indexMembers f t).countP fun id => (c.served? f t now id).isSome

def holders (c : LocalCache) (f t : Int) (now : Nat) (b : Banner) : Nat :=
  (c.indexMembers f t).countP fun id => c.served? f t now id = some b

def ordersFor (c : LocalCache) (f t : Int) (now : Nat) (b : Banner) : Finset (List Int) :=
  {o ∈ orders (c.indexMembers f t) | (c.get (.along o) f t now).1 = .ok b}

variable {c : LocalCache} {f t : Int} {now k : Nat} {b : Banner}

lemma get_along {o : List Int} (ho : o ∈ orders (c.indexMembers f t)) :
    (c.get (.along o) f t now).1 = .ok b ↔ o.findSome? (c.served? f t now) = some b := by
  rw [get_fst, along_order ho, elim_eq_ok]

lemma card_ordersFor (hset : (c.indexMembers f t).Nodup) :
    (c.ordersFor f t now b).card = c.holders f t now b *
      ((c.indexMembers f t).length.factorial / c.servedMembers f t now) := by
  rw [ordersFor, Finset.filter_congr fun o ho => get_along ho]
  exact card_findSome? hset (c.served? f t now) b

lemma exists_served (hpos : 0 < c.servedMembers f t now) :
    ∃ id ∈ c.indexMembers f t, (c.served? f t now id).isSome = true :=
  List.countP_pos_iff.mp hpos

lemma get_along_ok (hpos : 0 < c.servedMembers f t now) {o : List Int}
    (ho : o ∈ orders (c.indexMembers f t)) :
    ∃ b ∈ c.servables f t now, (c.get (.along o) f t now).1 = .ok b := by
  obtain ⟨id, hid, hserved⟩ := exists_served hpos
  have hsome : (o.findSome? (c.served? f t now)).isSome = true :=
    List.findSome?_isSome_iff.mpr ⟨id, (mem_orders.mp ho).mem_iff.mpr hid, hserved⟩
  obtain ⟨b, hb⟩ := Option.isSome_iff_exists.mp hsome
  obtain ⟨j, hj, hjb⟩ := List.exists_of_findSome?_eq_some hb
  exact ⟨b, mem_servables.mpr ⟨j, (mem_orders.mp ho).mem_iff.mp hj, hjb⟩, (get_along ho).mpr hb⟩

/-- One of `k` served members that is the only one to hold its banner is picked in a `k`-th of all
orders. -/
theorem get_uniform (hset : (c.indexMembers f t).Nodup) (hk : c.servedMembers f t now = k)
    (hpos : 1 ≤ k) :
    (orders (c.indexMembers f t)).card = (c.indexMembers f t).length.factorial ∧
    k ∣ (c.indexMembers f t).length.factorial ∧
    (∀ o ∈ orders (c.indexMembers f t),
      ∃ b ∈ c.servables f t now, (c.get (.along o) f t now).1 = .ok b) ∧
    (∀ b, (c.ordersFor f t now b).card =
      c.holders f t now b * ((c.indexMembers f t).length.factorial / k)) ∧
    ∀ id ∈ c.indexMembers f t, ∀ b, c.served? f t now id = some b →
      (∀ j ∈ c.indexMembers f t, c.served? f t now j = some b → j = id) →
      (c.ordersFor f t now b).card = (c.indexMembers f t).length.factorial / k := by
  subst hk
  obtain ⟨id, hid⟩ := exists_served hpos
  refine ⟨card_orders hset, Dvd.intro _ (countP_mul_card_firsts hset hid),
    fun o ho => get_along_ok hpos ho, fun b => card_ordersFor hset, fun id hid b hb halone => ?_⟩
  rw [card_ordersFor hset, holders, countP_eq_one hset hid hb halone, Nat.one_mul]

theorem get_uniform_deleted :
    let c : LocalCache := ((((LocalCache.mk 10 [] []).put (.sample 1) 0).put (.sample 2) 0).put
      (.sample 3) 0).delete 2 0 |>.2
    c.indexMembers 1 2 = [1, 2, 3] ∧ c.servedMembers 1 2 5 = 2 ∧
    (c.ordersFor 1 2 5 (.sample 1)).card = 3 ∧ (c.ordersFor 1 2 5 (.sample 3)).card = 3 := by
  intro c
  have hkept : ∀ id, c.kept? id = if 2 = id then none else if 3 = id then
      some ⟨(Banner.sample 3).encode, 0, 10⟩ else if 2 = id then
      some ⟨(Banner.sample 2).encode, 0, 10⟩ else if 1 = id then
      some ⟨(Banner.sample 1).encode, 0, 10⟩ else none := by
    intro id
    rw [kept?_delete, kept?_put, kept?_put, kept?_put]
    rfl
  have hserved : ∀ id, Text.IntRange.i64.contains id = true →
      c.kept? id = some ⟨(Banner.sample id).encode, 0, 10⟩ →
      c.served? 1 2 5 id = some (.sample id) := by
    intro id hid he
    rw [served?, live?_eq_some.mpr ⟨_, he, rfl, rfl⟩, Option.bind_some, Banner.servable?,
      Banner.decode_encode (Banner.storable_sample hid)]
    rfl
  have hone := hserved 1 (by decide) (hkept 1)
  have hthree := hserved 3 (by decide) (hkept 3)
  have htwo : c.served? 1 2 5 2 = none := by
    have hnone : c.live? 2 5 = none := Option.eq_none_iff_forall_ne_some.mpr fun payload h => by
      obtain ⟨e, he, -⟩ := live?_eq_some.mp h
      rw [hkept 2] at he
      cases he
    rw [served?, hnone, Option.bind_none]
  have hids : c.indexMembers 1 2 = [1, 2, 3] := by decide +kernel
  have hset : (c.indexMembers 1 2).Nodup := hids ▸ by decide
  have hcount : c.servedMembers 1 2 5 = 2 := by
    rw [servedMembers, hids]
    simp [hone, htwo, hthree]
  obtain ⟨-, -, -, -, huniform⟩ := get_uniform hset hcount (by decide)
  rw [hids] at huniform
  refine ⟨hids, hcount, huniform 1 (by simp) _ hone ?_, huniform 3 (by simp) _ hthree ?_⟩
  · simp [htwo, hthree, Banner.sample]
  · simp [hone, htwo, Banner.sample]

end LocalCache

theorem SharedCache.card_orders_answer {s : Redis.Server} (hs : s.Healthy) (ttl now : Nat)
    {f t : Int} {ids : List Int}
    (hids : idsOf (s.members (Banner.indexKey f t)) = some ids) (hset : ids.Nodup) (b : Banner) :
    {o ∈ Visit.orders ids | (answer ttl (.along o) now (.get f t) s).1 = .ok b}.card =
      ids.countP (fun id => served? s f t now id = some b) *
        (ids.length.factorial / ids.countP fun id => (served? s f t now id).isSome) := by
  rw [← Visit.card_findSome? hset]
  refine congrArg Finset.card (Finset.filter_congr fun o ho => ?_)
  rw [(answer_get hs ttl _ now hids).1, Visit.along_order ho, Visit.elim_eq_ok]

end Billboard
