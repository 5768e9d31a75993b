import Billboard.Banner

/-! What is asked of a cache. It visits the members of a set in random order, so what it may answer
is what it answers for some order. -/

namespace Billboard

inductive CacheError where
  | notFound (key : String)
  | backend (reason : String)
  | serialization (reason : String)
deriving DecidableEq, Repr

namespace CacheError

def message : CacheError → String
  | .notFound key => "cache entry not found: " ++ key
  | .backend reason => "cache backend error: " ++ reason
  | .serialization reason => "cache serialization error: " ++ reason

def isNotFound : CacheError → Bool
  | .notFound _ => true
  | _ => false

end CacheError

inductive CacheCall where
  | put (b : Banner)
  | get (feature tag : Int)
  | delete (id : Int)
  | ping
deriving DecidableEq, Repr

abbrev CacheCall.Value : CacheCall → Type
  | .get .. => Banner
  | .put _ => Unit
  | .delete _ => Unit
  | .ping => Unit

abbrev CacheCall.Answer (c : CacheCall) : Type := Except CacheError c.Value

structure Visit where
  order : List Int → List Int
  perm : ∀ ids, (order ids).Perm ids

namespace Visit

def arrange (n : Nat) (ids : List Int) : List Int :=
  if h : ids = [] then []
  else
    have pos : 0 < ids.length := List.length_pos_iff.2 h
    have lt : n % ids.length < ids.length := Nat.mod_lt _ pos
    ids[n % ids.length] :: arrange (n / ids.length) (ids.eraseIdx (n % ids.length))
termination_by ids.length
decreasing_by rw [List.length_eraseIdx_of_lt lt]; exact Nat.sub_lt pos Nat.one_pos

theorem getElem_cons_eraseIdx (ids : List Int) (i : Nat) (h : i < ids.length) :
    (ids[i] :: ids.eraseIdx i).Perm ids := by
  rw [List.eraseIdx_eq_take_drop_succ]
  refine List.perm_middle.symm.trans ?_
  rw [← List.drop_eq_getElem_cons h, List.take_append_drop]

theorem arrange_perm (n : Nat) (ids : List Int) : (arrange n ids).Perm ids := by
  fun_induction arrange n ids with
  | case1 n => exact .rfl
  | case2 n ids _ _ lt ih => exact (ih.cons _).trans (getElem_cons_eraseIdx ids _ lt)

def numbered (n : Nat) : Visit := ⟨arrange n, arrange_perm n⟩

end Visit

end Billboard
