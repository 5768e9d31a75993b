import Billboard.Proofs.Service.Invariants

/-! Operations one after another: when the store deletes a banner, no task has it in hand. -/

namespace Billboard

namespace System

/-- The task may still put a banner of the id that it has in hand. -/
def Pending (s : System) (i : Nat) (id : Int) : Prop :=
  ∃ τ, s.tasks i = some τ ∧ τ.rest.WillPut id

def Idle (s : System) (i : Nat) : Prop := ∀ τ, s.tasks i = some τ → ∃ r, τ.rest = .done r

end System

def Sequential (history : List Event) : Prop :=
  ∀ e ∈ history, ∀ o, e.move = .launch o → ∀ i, e.before.Idle i

namespace System

variable {ttl now : Nat} {s t u : System} {m : Move} {history : List Event} {id : Int}

lemma Step.idle (h : s.Step m t) {i : Nat} (hl : ∀ o, m = .launch o → i ≠ s.begun)
    (hi : s.Idle i) : t.Idle i := by
  intro τ hτ
  rcases h.tasks hτ with ⟨hs, -⟩ | ⟨o, rfl, hb, rfl⟩ | ⟨o, q, next, a, done, rfl, hs, rfl⟩
  · exact hi τ hs
  · exact (hl o rfl hb).elim
  · obtain ⟨r, hr⟩ := hi _ hs
    cases hr

lemma Run.alone (h : (start ttl now).Run history s) (hs : Sequential history) :
    ∃ i, ∀ j, j ≠ i → s.Idle j := by
  induction h with
  | nil => exact ⟨0, fun _ _ => nofun⟩
  | @cons history s m t _ step ih =>
    obtain ⟨hm, hs⟩ := List.forall_mem_cons.mp hs
    obtain ⟨i, hi⟩ := ih hs
    by_cases hl : ∃ o, m = .launch o
    · obtain ⟨o, rfl⟩ := hl
      exact ⟨s.begun, fun j hj => step.idle (fun _ _ => hj) (hm o rfl j)⟩
    · exact ⟨i, fun j hj => step.idle (fun o ho => (hl ⟨o, ho⟩).elim) (hi j hj)⟩

lemma Run.not_pending_of_sequential (h : (start ttl now).Run history s) (hs : Sequential history)
    {i : Nat} (hdel : s.Step (.call i (.store (.delete id)) (.ok ()) true) t) (j : Nat) :
    ¬ t.Pending j id := by
  obtain ⟨k, hk⟩ := h.alone hs
  rintro ⟨τ, hτ, hw⟩
  rcases hdel.tasks hτ with ⟨hj, hm⟩ | ⟨o, hm, -⟩ | ⟨o, q, next, a, done, hm, hj, rfl⟩
  · have hi : i = k := by
      obtain ⟨o, next, s₁, hi, -, -⟩ := hdel
      by_contra hne
      obtain ⟨r, hr⟩ := hk i hne _ hi
      cases hr
    have hjk : j ≠ k := fun hjk => hm _ _ _ (by rw [hi, hjk])
    obtain ⟨r, hr⟩ := hk j hjk τ hj
    rw [hr] at hw
    exact hw
  · cases hm
  · cases hm
    have hrest := (h.honest i _ hj).2 (.ok ()) ∅ (Set.Subset.refl _)
    exact Action.Honest.not_willPut hrest (fun _ hb => hb.elim) hw

end System

end Billboard
