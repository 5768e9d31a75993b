import Billboard.Proofs.Accounts.Operations
import Billboard.Proofs.Dialogue
import Billboard.Proofs.Trace
import Mathlib.Data.Set.Insert
import Mathlib.Logic.Function.Basic

/-! Operations on accounts that go on side by side. Any of them may make the next call, and any may
be given up between two calls. -/

namespace Billboard

structure AccountTask where
  operation : AccountOperation
  rest : Action operation.Result

structure AccountSystem where
  accounts : Accounts
  tasks : Nat → Option AccountTask := fun _ => none
  begun : Nat := 0

inductive AccountMove where
  | launch (o : AccountOperation)
  | answer (i : Nat) (o : AccountOperation) (q : Effect) (a : q.Answer)
  | abandon (i : Nat)

namespace AccountSystem

def Answers (s : AccountSystem) : (q : Effect) → q.Answer → Accounts → Prop
  | .account c, a, accounts => a = (s.accounts.answer c).1 ∧ accounts = (s.accounts.answer c).2
  | .store _, _, accounts => accounts = s.accounts
  | .cache _, _, accounts => accounts = s.accounts
  | .clock, _, accounts => accounts = s.accounts
  | .salt, _, accounts => accounts = s.accounts
  | .pick _, _, accounts => accounts = s.accounts

def Step (signer : Signer) (s : AccountSystem) : AccountMove → AccountSystem → Prop
  | .launch o, t => t = { s with
      tasks := Function.update s.tasks s.begun (some ⟨o, o.action signer⟩), begun := s.begun + 1 }
  | .answer i o q a, t => ∃ next accounts, s.tasks i = some ⟨o, .ask q next⟩ ∧
      s.Answers q a accounts ∧
      t = { s with accounts, tasks := Function.update s.tasks i (some ⟨o, next a⟩) }
  | .abandon i, t => t = { s with tasks := Function.update s.tasks i none }

end AccountSystem

abbrev AccountEvent := Passage AccountSystem AccountMove

def Told (history : List AccountEvent) (i : Nat) (o : AccountOperation) : Set Clock.Timestamp :=
  {t | ∃ e ∈ history, e.move = .answer i o .clock t}

namespace AccountSystem

def start (accounts : Accounts) : AccountSystem := { accounts }

abbrev Run (signer : Signer) (s : AccountSystem) : List AccountEvent → AccountSystem → Prop :=
  Trace (Step signer) s

variable {signer : Signer} {s t : AccountSystem} {m : AccountMove}

lemma Step.tasks {i : Nat} {τ : AccountTask} (h : s.Step signer m t) (hi : t.tasks i = some τ) :
    s.tasks i = some τ ∨ (∃ o, m = .launch o ∧ τ = ⟨o, o.action signer⟩) ∨
    ∃ o q next a, m = .answer i o q a ∧ s.tasks i = some ⟨o, .ask q next⟩ ∧ τ = ⟨o, next a⟩ := by
  cases m with
  | launch o =>
    rw [h] at hi
    simp only [Function.update_apply] at hi
    split_ifs at hi with hib
    · exact .inr (.inl ⟨o, rfl, (Option.some.inj hi).symm⟩)
    · exact .inl hi
  | abandon j =>
    rw [h] at hi
    simp only [Function.update_apply] at hi
    split_ifs at hi
    exact .inl hi
  | answer j o q a =>
    obtain ⟨next, after, hj, ha, rfl⟩ := h
    simp only [Function.update_apply] at hi
    split_ifs at hi with hij
    · subst hij
      exact .inr (.inr ⟨o, q, next, a, rfl, hj, (Option.some.inj hi).symm⟩)
    · exact .inl hi

lemma Step.accounts (h : s.Step signer m t) : t.accounts = s.accounts ∨
    ∃ i o c, m = .answer i o (.account c) (s.accounts.answer c).1 ∧
      t.accounts = (s.accounts.answer c).2 := by
  cases m with
  | launch o =>
    rw [h]
    exact .inl rfl
  | abandon i =>
    rw [h]
    exact .inl rfl
  | answer i o q a =>
    obtain ⟨next, after, -, ha, rfl⟩ := h
    cases q with
    | account c =>
      obtain ⟨rfl, rfl⟩ := ha
      exact .inr ⟨i, o, c, rfl, rfl⟩
    | _ => exact .inl ha

end AccountSystem

namespace Accounts

variable {s : Accounts} {a : Account}

lemma rows_prefix_answer (s : Accounts) (c : AccountCall) : s.rows <+: (s.answer c).2.rows := by
  cases c with
  | find username => exact List.prefix_rfl
  | create d =>
    simp only [answer, create]
    split
    · exact List.prefix_rfl
    · exact List.prefix_append _ _

lemma mem_rows_answer {c : AccountCall} (h : a ∈ (s.answer c).2.rows) : a ∈ s.rows ∨
    ∃ d, c = .create d ∧ (s.create d).1 = .ok s.nextId ∧ a = .ofDraft s.nextId d := by
  cases c with
  | find username => exact .inl h
  | create d =>
    simp only [answer, create] at h ⊢
    split at h
    · exact .inl h
    · rcases List.mem_append.mp h with h | h
      · exact .inl h
      · exact .inr ⟨d, rfl, by split <;> simp_all, List.mem_singleton.mp h⟩

lemma mem_rows_of_create {d : Account.Draft} {id : Int} (h : (s.create d).1 = .ok id) :
    .ofDraft id d ∈ (s.create d).2.rows := by
  unfold create at h ⊢
  split at h
  · cases h
  · cases h
    exact List.mem_append_right _ List.mem_cons_self

lemma mem_rows_of_find? {username : String} (h : s.find? username = some a) : a ∈ s.rows :=
  List.mem_of_find?_eq_some h

end Accounts

namespace AccountSystem

variable {signer : Signer} {accounts : Accounts} {s t : AccountSystem} {m : AccountMove}
  {history : List AccountEvent} {i : Nat} {τ : AccountTask}

lemma Step.rows_prefix (h : s.Step signer m t) : s.accounts.rows <+: t.accounts.rows := by
  rcases h.accounts with he | ⟨i, o, c, -, he⟩
  · exact he ▸ List.prefix_rfl
  · exact he ▸ s.accounts.rows_prefix_answer c

lemma Run.rows_prefix (h : s.Run signer history t) : s.accounts.rows <+: t.accounts.rows :=
  h.preserves (p := fun u => s.accounts.rows <+: u.accounts.rows)
    (fun step hle => hle.trans step.rows_prefix) List.prefix_rfl

lemma Run.launched (h : (start accounts).Run signer history s) (hτ : s.tasks i = some τ) :
    ∃ e ∈ history, e.move = .launch τ.operation := by
  induction h generalizing τ with
  | nil => cases hτ
  | cons _ step ih =>
    rcases step.tasks hτ with hs | ⟨o, rfl, rfl⟩ | ⟨o, q, next, a, rfl, hs, rfl⟩
    · obtain ⟨e, he, hm⟩ := ih hs
      exact ⟨e, List.mem_cons_of_mem _ he, hm⟩
    · exact ⟨_, List.mem_cons_self, rfl⟩
    · obtain ⟨e, he, hm⟩ := ih hs
      exact ⟨e, List.mem_cons_of_mem _ he, hm⟩

def Learns : (q : Effect) → q.Answer → Set Clock.Timestamp → Set Clock.Timestamp → Prop
  | .clock, t, told, told' => told' = insert t told
  | .store _, _, told, told' => told' = told
  | .cache _, _, told, told' => told' = told
  | .account _, _, told, told' => told' = told
  | .salt, _, told, told' => told' = told
  | .pick _, _, told, told' => told' = told

lemma Run.keeps (h : (start accounts).Run signer history s)
    (asks : AccountOperation → Effect → Set Clock.Timestamp → Prop)
    (hmono : ∀ o q {told told'}, told ⊆ told' → asks o q told → asks o q told')
    (hasks : ∀ o : AccountOperation, (o.action signer).Keeps (asks o) Learns ∅) :
    ∀ i τ, s.tasks i = some τ → τ.rest.Keeps (asks τ.operation) Learns (Told history i τ.operation) := by
  have mono : ∀ {o : AccountOperation} {d : Action o.Result} {told told'}, told ⊆ told' →
      d.Keeps (asks o) Learns told → d.Keeps (asks o) Learns told' := by
    intro o d told told' hle hd
    refine hd.mono (· ⊆ ·) (hmono o _) (fun {q a k k' l'} hk hl => ?_) hle
    cases q with
    | clock => exact ⟨insert a k, rfl, hl ▸ Set.insert_subset_insert hk⟩
    | _ => exact ⟨k, rfl, hl ▸ hk⟩
  induction h with
  | nil => nofun
  | @cons history s m t _ step ih =>
    have older : ∀ i o, Told history i o ⊆ Told (⟨s, m, t⟩ :: history) i o :=
      fun i o time ⟨e, he, hm⟩ => ⟨e, List.mem_cons_of_mem _ he, hm⟩
    intro i τ hτ
    rcases step.tasks hτ with hs | ⟨o, rfl, rfl⟩ | ⟨o, q, next, a, rfl, hs, rfl⟩
    · exact mono (older i _) (ih i τ hs)
    · exact mono (Set.empty_subset _) (hasks o)
    · have hnext := (ih i _ hs).2 a
      cases q with
      | clock =>
        refine mono ?_ (hnext _ rfl)
        exact Set.insert_subset ⟨_, List.mem_cons_self, rfl⟩ (older i o)
      | _ => exact mono (older i o) (hnext _ rfl)

lemma Run.ends (h : (start accounts).Run signer history s)
    {admits : AccountOperation → (q : Effect) → q.Answer → Prop}
    {wish : (o : AccountOperation) → o.Result → Prop}
    (hwish : ∀ o : AccountOperation, (o.action signer).Ends (admits o) (wish o))
    (hm : ∀ e ∈ history, ∀ o q a, e.move = .answer i o q a → admits o q a) :
    ∀ τ, s.tasks i = some τ → τ.rest.Ends (admits τ.operation) (wish τ.operation) := by
  induction h with
  | nil => nofun
  | cons _ step ih =>
    obtain ⟨hm, hrest⟩ := List.forall_mem_cons.mp hm
    intro τ hτ
    rcases step.tasks hτ with hs | ⟨o, rfl, rfl⟩ | ⟨o, q, next, a, rfl, hs, rfl⟩
    · exact ih hrest τ hs
    · exact hwish o
    · exact ih hrest _ hs a (hm o q a rfl)

end AccountSystem

end Billboard
