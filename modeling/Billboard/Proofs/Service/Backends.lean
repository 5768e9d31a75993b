import Billboard.Action
import Billboard.Proofs.Cache.Local
import Billboard.Proofs.Dialogue
import Billboard.Proofs.Store.Catalog

namespace Billboard

/-- What a cache may answer to a call, with the cache as it is then. -/
abbrev CacheModel (κ : Type) := (c : CacheCall) → κ → Set (c.Answer × κ)

namespace CacheModel

def inProcess (now : Nat) : CacheModel LocalCache :=
  fun c s => {p | ∃ visit, s.answer visit now c = p}

def failing {κ : Type} (e : CacheError) : CacheModel κ := fun _ s => {(.error e, s)}

def Careful {κ : Type} (m : CacheModel κ) : Prop :=
  ∀ f t s b s', (.ok b, s') ∈ m (.get f t) s → b.active = true ∧ b.serves f t = true

lemma exists_mem_inProcess_get {now : Nat} {f t : Int} {s : LocalCache}
    {r : Except CacheError Banner} : (∃ s', (r, s') ∈ inProcess now (.get f t) s) ↔
      r ∈ oneOf (.notFound (Banner.indexKey f t)) (s.servables f t now) := by
  rw [← LocalCache.get_results]
  constructor
  · rintro ⟨s', visit, h⟩
    exact ⟨visit, congrArg Prod.fst h⟩
  · rintro ⟨visit, h⟩
    exact ⟨(s.get visit f t now).2, visit, Prod.ext h rfl⟩

lemma careful_inProcess (now : Nat) : (inProcess now).Careful := by
  intro f t s b s' h
  rcases exists_mem_inProcess_get.mp ⟨s', h⟩ with ⟨d, ⟨_, _, _, _, _, _, hd⟩, hr⟩ | ⟨-, hr⟩
  · cases hr
    exact hd
  · cases hr

lemma careful_failing {κ : Type} (e : CacheError) : (failing e : CacheModel κ).Careful := by
  intro f t s b s' h
  cases h

end CacheModel

structure Backends (κ : Type) where
  catalog : Catalog
  cache : κ

namespace Backends

variable {κ : Type}

def answers (m : CacheModel κ) : (q : Effect) → Backends κ → Set (q.Answer × Backends κ)
  | .store c, s => {((s.catalog.answer c).1, ⟨(s.catalog.answer c).2, s.cache⟩)}
  | .cache c, s => {p | ∃ r ∈ m c s.cache, p = (r.1, ⟨s.catalog, r.2⟩)}
  | .account _, s => {p | p.2 = s}
  | .clock, s => {p | p.2 = s}
  | .salt, s => {p | p.2 = s}
  | .pick _, s => {p | p.2 = s}

def results {α : Type} (m : CacheModel κ) (s : Backends κ) (act : Action α) : Set α :=
  {r | ∃ s', (r, s') ∈ act.outcomes (answers m) s}

def matching (s : Backends κ) (f t : Int) (isAdmin : Bool) : Set Banner :=
  {b | b ∈ s.catalog.rows ∧ b.serves f t = true ∧ (isAdmin = true ∨ b.active = true)}

end Backends

end Billboard
