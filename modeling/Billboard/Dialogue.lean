/-! Computations that ask the outside world one question after another, so that they can be
interleaved and be abandoned between two questions. -/

namespace Billboard

/-- A computation of an `α` that asks questions of type `Q`; an answer to `q` has type `A q`. -/
inductive Dialogue {Q : Type} (A : Q → Type) (α : Type) where
  | done (a : α)
  | ask (q : Q) (next : A q → Dialogue A α)

namespace Dialogue

variable {Q : Type} {A : Q → Type} {α β σ : Type}

def bind : Dialogue A α → (α → Dialogue A β) → Dialogue A β
  | .done a, f => f a
  | .ask q next, f => .ask q fun r => (next r).bind f

instance : Monad (Dialogue A) where
  pure := .done
  bind := bind

def question (q : Q) : Dialogue A (A q) := .ask q .done

def run (answer : (q : Q) → σ → A q × σ) : Dialogue A α → σ → α × σ
  | .done a, s => (a, s)
  | .ask q next, s => (next (answer q s).1).run answer (answer q s).2

def asked (answer : (q : Q) → σ → A q × σ) : Dialogue A α → σ → List Q
  | .done _, _ => []
  | .ask q next, s => q :: (next (answer q s).1).asked answer (answer q s).2

end Dialogue

end Billboard
