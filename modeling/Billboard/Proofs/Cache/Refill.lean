import Billboard.Proofs.Cache.Local
import Mathlib.Data.List.Basic

namespace Billboard.LocalCache

def putAll (c : LocalCache) (bs : List Banner) (now : Nat) : LocalCache :=
  bs.foldl (fun c b => c.put b now) c

@[simp] lemma putAll_nil (c : LocalCache) (now : Nat) : c.putAll [] now = c := rfl

@[simp] lemma putAll_cons (c : LocalCache) (b : Banner) (bs : List Banner) (now : Nat) :
    c.putAll (b :: bs) now = (c.put b now).putAll bs now := rfl

@[simp] lemma putAll_ttl (c : LocalCache) (bs : List Banner) (now : Nat) :
    (c.putAll bs now).ttl = c.ttl := by
  induction bs generalizing c with
  | nil => rfl
  | cons b bs ih => rw [putAll_cons, ih, put_ttl]

lemma mem_members_putAll {c : LocalCache} {bs : List Banner} {now : Nat} {key : String} {id : Int} :
    id ∈ (c.putAll bs now).members key ↔
      id ∈ c.members key ∨ ∃ b ∈ bs, key ∈ b.indexKeys ∧ id = b.id := by
  induction bs generalizing c with
  | nil => simp
  | cons b bs ih =>
    rw [putAll_cons, ih, mem_members_put, or_assoc]
    simp only [List.exists_mem_cons_iff]

lemma mem_indexMembers_putAll {c : LocalCache} {bs : List Banner} {now : Nat} {f t id : Int} :
    id ∈ (c.putAll bs now).indexMembers f t ↔
      id ∈ c.indexMembers f t ∨ ∃ b ∈ bs, b.serves f t = true ∧ id = b.id := by
  rw [indexMembers, mem_members_putAll, indexMembers]
  simp only [Banner.mem_indexKeys]

def putFrom (c : LocalCache) (time : Nat → Nat) (n : Nat) : List Banner → LocalCache
  | [] => c
  | b :: bs => (c.put b (time n)).putFrom time (n + 1) bs

lemma putFrom_const (c : LocalCache) (bs : List Banner) (now n : Nat) :
    c.putFrom (fun _ => now) n bs = c.putAll bs now := by
  induction bs generalizing c n with
  | nil => rfl
  | cons b bs ih => rw [putFrom, ih, putAll_cons]

lemma get?_payloads_putFrom {c : LocalCache} {time : Nat → Nat} {n : Nat} {bs : List Banner}
    {key : String} (h : ∀ b ∈ bs, Banner.payloadKey b.id ≠ key) :
    (c.putFrom time n bs).payloads.get? key = c.payloads.get? key := by
  induction bs generalizing c n with
  | nil => rfl
  | cons b bs ih =>
    obtain ⟨hb, hbs⟩ := List.forall_mem_cons.mp h
    rw [putFrom, ih hbs, get?_payloads_put, if_neg hb]

lemma kept?_putFrom {c : LocalCache} {time : Nat → Nat} {n : Nat} {bs : List Banner} {id : Int}
    (h : ∀ b ∈ bs, b.id ≠ id) : (c.putFrom time n bs).kept? id = c.kept? id := by
  apply get?_payloads_putFrom
  intro b hb
  rw [ne_eq, Banner.payloadKey_inj]
  exact h b hb

lemma kept?_putAll_of_notMem {c : LocalCache} {bs : List Banner} {now : Nat} {id : Int}
    (h : ∀ b ∈ bs, b.id ≠ id) : (c.putAll bs now).kept? id = c.kept? id := by
  rw [← putFrom_const c bs now 0, kept?_putFrom h]

lemma kept?_putAll_of_mem {c : LocalCache} {bs : List Banner} {now : Nat} {b : Banner}
    (hd : bs.Pairwise fun a b => a.id ≠ b.id) (hb : b ∈ bs) :
    (c.putAll bs now).kept? b.id = some ⟨b.encode, now, c.ttl⟩ := by
  induction bs generalizing c with
  | nil => cases hb
  | cons a bs ih =>
    obtain ⟨ha, hd⟩ := List.pairwise_cons.mp hd
    rw [putAll_cons]
    rcases List.mem_cons.mp hb with rfl | hb
    · rw [kept?_putAll_of_notMem fun d hd => (ha d hd).symm, kept?_put, if_pos rfl]
    · rw [ih hd hb, put_ttl]

end Billboard.LocalCache
