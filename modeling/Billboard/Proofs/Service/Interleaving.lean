import Billboard.Cache.Local
import Billboard.Proofs.Service.Operations
import Billboard.Proofs.Trace
import Mathlib.Logic.Function.Basic

/-! Operations that go on side by side over the catalog in memory and the cache inside the process.
Any call may fail without an effect, and any operation may be given up between two calls. -/

namespace Billboard

structure Task where
  operation : Operation
  rest : Action operation.Result

structure System where
  now : Nat
  catalog : Catalog := {}
  cache : LocalCache
  tasks : Nat → Option Task := fun _ => none
  begun : Nat := 0

/-- A call is made by a task, is answered, and may have been carried out or not. -/
inductive Move where
  | launch (o : Operation)
  | call (i : Nat) (q : Effect) (a : q.Answer) (done : Bool)
  | abandon (i : Nat)
  | wait (ms : Nat)

namespace System

def start (ttl now : Nat) : System := { now := now, cache := { ttl := ttl } }

/-- How a call may be answered, and the system after it. The clock, the salts, the draws and the
accounts may answer anything. -/
def Answers (s : System) : (q : Effect) → q.Answer → Bool → System → Prop
  | .store c, a, true, s' =>
    a = (s.catalog.answer c).1 ∧ s' = { s with catalog := (s.catalog.answer c).2 }
  | .store _, a, false, s' => (∃ e, a = .error e) ∧ s' = s
  | .cache c, a, true, s' => ∃ visit, a = (s.cache.answer visit s.now c).1 ∧
    s' = { s with cache := (s.cache.answer visit s.now c).2 }
  | .cache _, a, false, s' => (∃ e, a = .error e) ∧ s' = s
  | .account _, _, _, s' => s' = s
  | .clock, _, _, s' => s' = s
  | .salt, _, _, s' => s' = s
  | .pick _, _, _, s' => s' = s

def Step (s : System) : Move → System → Prop
  | .launch o, s' => s' = { s with tasks := Function.update s.tasks s.begun (some ⟨o, o.action⟩),
                                   begun := s.begun + 1 }
  | .call i q a done, s' => ∃ o next s₁, s.tasks i = some ⟨o, .ask q next⟩ ∧ s.Answers q a done s₁ ∧
    s' = { s₁ with tasks := Function.update s.tasks i (some ⟨o, next a⟩) }
  | .abandon i, s' => s' = { s with tasks := Function.update s.tasks i none }
  | .wait ms, s' => s' = { s with now := s.now + ms }

end System

abbrev Event := Passage System Move

namespace System

abbrev Run (s : System) : List Event → System → Prop := Trace Step s

variable {s t : System} {m : Move}

lemma Answers.cases {q : Effect} {a : q.Answer} {done : Bool} (h : s.Answers q a done t) :
    (t = s ∧ (done = true → ∀ c, q ≠ .cache c)) ∨
    (∃ c, q = .store c ∧ HEq a (s.catalog.answer c).1 ∧ done = true ∧
      t = { s with catalog := (s.catalog.answer c).2 }) ∨
    ∃ c visit, q = .cache c ∧ HEq a (s.cache.answer visit s.now c).1 ∧ done = true ∧
      t = { s with cache := (s.cache.answer visit s.now c).2 } := by
  cases q with
  | store c =>
    cases done with
    | true => exact .inr (.inl ⟨c, rfl, heq_of_eq h.1, rfl, h.2⟩)
    | false => exact .inl ⟨h.2, by simp⟩
  | cache c =>
    cases done with
    | true =>
      obtain ⟨visit, ha, ht⟩ := h
      exact .inr (.inr ⟨c, visit, rfl, heq_of_eq ha, rfl, ht⟩)
    | false => exact .inl ⟨h.2, by simp⟩
  | _ => exact .inl ⟨h, by simp⟩

lemma Step.now_le (h : s.Step m t) : s.now ≤ t.now := by
  cases m with
  | launch o => rw [h]
  | abandon i => rw [h]
  | wait ms =>
    rw [h]
    exact Nat.le_add_right _ _
  | call i q a done =>
    obtain ⟨o, next, s₁, -, ha, rfl⟩ := h
    rcases ha.cases with ⟨rfl, -⟩ | ⟨c, -, -, -, rfl⟩ | ⟨c, visit, -, -, -, rfl⟩ <;> exact le_rfl

lemma Step.begun_le (h : s.Step m t) : s.begun ≤ t.begun := by
  cases m with
  | launch o =>
    rw [h]
    exact Nat.le_succ _
  | abandon i => rw [h]
  | wait ms => rw [h]
  | call i q a done =>
    obtain ⟨o, next, s₁, -, ha, rfl⟩ := h
    rcases ha.cases with ⟨rfl, -⟩ | ⟨c, -, -, -, rfl⟩ | ⟨c, visit, -, -, -, rfl⟩ <;> exact le_rfl

lemma Step.catalog (h : s.Step m t) : t.catalog = s.catalog ∨
    ∃ i c, m = .call i (.store c) (s.catalog.answer c).1 true ∧
      t.catalog = (s.catalog.answer c).2 := by
  cases m with
  | launch o =>
    rw [h]
    exact .inl rfl
  | abandon i =>
    rw [h]
    exact .inl rfl
  | wait ms =>
    rw [h]
    exact .inl rfl
  | call i q a done =>
    obtain ⟨o, next, s₁, -, ha, rfl⟩ := h
    rcases ha.cases with ⟨rfl, -⟩ | ⟨c, rfl, he, rfl, rfl⟩ | ⟨c, visit, -, -, -, rfl⟩
    · exact .inl rfl
    · obtain rfl := eq_of_heq he
      exact .inr ⟨i, c, rfl, rfl⟩
    · exact .inl rfl

lemma Step.cache (h : s.Step m t) :
    (t.cache = s.cache ∧ ∀ i c a, m ≠ .call i (.cache c) a true) ∨
    ∃ i c visit, m = .call i (.cache c) (s.cache.answer visit s.now c).1 true ∧
      t.cache = (s.cache.answer visit s.now c).2 ∧ t.now = s.now := by
  cases m with
  | launch o =>
    rw [h]
    exact .inl ⟨rfl, by simp⟩
  | abandon i =>
    rw [h]
    exact .inl ⟨rfl, by simp⟩
  | wait ms =>
    rw [h]
    exact .inl ⟨rfl, by simp⟩
  | call i q a done =>
    obtain ⟨o, next, s₁, -, ha, rfl⟩ := h
    rcases ha.cases with ⟨rfl, hn⟩ | ⟨c, rfl, -, -, rfl⟩ | ⟨c, visit, rfl, he, rfl, rfl⟩
    · exact .inl ⟨rfl, fun i c a he => by cases he; exact hn rfl c rfl⟩
    · exact .inl ⟨rfl, by simp⟩
    · obtain rfl := eq_of_heq he
      exact .inr ⟨i, c, visit, rfl, rfl, rfl⟩

lemma Step.tasks {i : Nat} {τ : Task} (h : s.Step m t) (hi : t.tasks i = some τ) :
    (s.tasks i = some τ ∧ ∀ q a done, m ≠ .call i q a done) ∨
    (∃ o, m = .launch o ∧ i = s.begun ∧ τ = ⟨o, o.action⟩) ∨
    ∃ o q next a done, m = .call i q a done ∧ s.tasks i = some ⟨o, .ask q next⟩ ∧
      τ = ⟨o, next a⟩ := by
  cases m with
  | launch o =>
    rw [h] at hi
    simp only [Function.update_apply] at hi
    split_ifs at hi with hib
    · exact .inr (.inl ⟨o, rfl, hib, (Option.some.inj hi).symm⟩)
    · exact .inl ⟨hi, by simp⟩
  | abandon j =>
    rw [h] at hi
    simp only [Function.update_apply] at hi
    split_ifs at hi
    exact .inl ⟨hi, by simp⟩
  | wait ms =>
    rw [h] at hi
    exact .inl ⟨hi, by simp⟩
  | call j q a done =>
    obtain ⟨o, next, s₁, hj, ha, rfl⟩ := h
    simp only [Function.update_apply] at hi
    split_ifs at hi with hij
    · subst hij
      exact .inr (.inr ⟨o, q, next, a, done, rfl, hj, (Option.some.inj hi).symm⟩)
    · refine .inl ⟨hi, fun q' a' done' he => hij ?_⟩
      cases he
      rfl

end System

end Billboard
