import Billboard.Dialogue
import Mathlib.Data.Set.Basic

/-! Dialogues in a world that may answer a question in several ways. -/

namespace Billboard.Dialogue

variable {Q : Type} {A : Q → Type} {α β σ : Type}

lemma run_bind (answer : (q : Q) → σ → A q × σ) (d : Dialogue A α) (f : α → Dialogue A β) (s : σ) :
    (d >>= f).run answer s = (f (d.run answer s).1).run answer (d.run answer s).2 := by
  induction d generalizing s with
  | done a => rfl
  | ask q next ih => exact ih (answer q s).1 (answer q s).2

/-- What the dialogue can end with, each with the world as it is then. -/
def outcomes (answers : (q : Q) → σ → Set (A q × σ)) : Dialogue A α → σ → Set (α × σ)
  | .done a, s => {(a, s)}
  | .ask q next, s => {o | ∃ p ∈ answers q s, o ∈ (next p.1).outcomes answers p.2}

variable {answers : (q : Q) → σ → Set (A q × σ)}

lemma mem_outcomes_bind {d : Dialogue A α} {f : α → Dialogue A β} {s : σ} {o : β × σ} :
    o ∈ (d >>= f).outcomes answers s ↔
      ∃ p ∈ d.outcomes answers s, o ∈ (f p.1).outcomes answers p.2 := by
  induction d generalizing s with
  | done a =>
    constructor
    · intro h
      exact ⟨(a, s), rfl, h⟩
    · rintro ⟨p, rfl, h⟩
      exact h
  | ask q next ih =>
    constructor
    · rintro ⟨r, hr, ho⟩
      obtain ⟨p, hp, h⟩ := (ih r.1).mp ho
      exact ⟨p, ⟨r, hr, hp⟩, h⟩
    · rintro ⟨p, ⟨r, hr, hp⟩, h⟩
      exact ⟨r, hr, (ih r.1).mpr ⟨p, hp, h⟩⟩

section

variable {q : Q} {f : A q → Dialogue A α} {s : σ} {o : α × σ}

lemma mem_outcomes_question : o ∈ (question q >>= f).outcomes answers s ↔
    ∃ p ∈ answers q s, o ∈ (f p.1).outcomes answers p.2 := Iff.rfl

lemma mem_outcomes_of_singleton {a : A q} {t : σ} (h : answers q s = {(a, t)}) :
    o ∈ (question q >>= f).outcomes answers s ↔ o ∈ (f a).outcomes answers t := by
  rw [mem_outcomes_question, h]
  exact exists_eq_left

lemma mem_outcomes_of_image {ρ : Type} {R : Set ρ} {a : ρ → A q} {t : ρ → σ}
    (h : answers q s = {p | ∃ r ∈ R, p = (a r, t r)}) :
    o ∈ (question q >>= f).outcomes answers s ↔ ∃ r ∈ R, o ∈ (f (a r)).outcomes answers (t r) := by
  rw [mem_outcomes_question, h]
  constructor
  · rintro ⟨_, ⟨r, hr, rfl⟩, ho⟩
    exact ⟨r, hr, ho⟩
  · rintro ⟨r, hr, ho⟩
    exact ⟨_, ⟨r, hr, rfl⟩, ho⟩

lemma mem_outcomes_of_unchanged (h : answers q s = {p | p.2 = s}) :
    o ∈ (question q >>= f).outcomes answers s ↔ ∃ a, o ∈ (f a).outcomes answers s := by
  rw [mem_outcomes_question, h]
  constructor
  · rintro ⟨⟨a, _⟩, rfl, ho⟩
    exact ⟨a, ho⟩
  · rintro ⟨a, ho⟩
    exact ⟨(a, s), rfl, ho⟩

end

variable {κ : Type}

/-- Every question that the dialogue can come to is one it may ask, given what it knows by then. An
answer may change what it knows. -/
def Keeps (asks : Q → κ → Prop) (learns : (q : Q) → A q → κ → κ → Prop) :
    Dialogue A α → κ → Prop
  | .done _, _ => True
  | .ask q next, k => asks q k ∧ ∀ a k', learns q a k k' → (next a).Keeps asks learns k'

variable {asks : Q → κ → Prop} {learns : (q : Q) → A q → κ → κ → Prop}

lemma Keeps.bind {d : Dialogue A α} {f : α → Dialogue A β} {k : κ} (h : d.Keeps asks learns k)
    (hf : ∀ a k, (f a).Keeps asks learns k) : (d >>= f).Keeps asks learns k := by
  induction d generalizing k with
  | done a => exact hf a k
  | ask q next ih => exact ⟨h.1, fun a k' hl => ih a (h.2 a k' hl)⟩

lemma Keeps.mono (le : κ → κ → Prop) (hasks : ∀ {q k k'}, le k k' → asks q k → asks q k')
    (hlearns : ∀ {q a k k' l'}, le k k' → learns q a k' l' → ∃ l, learns q a k l ∧ le l l')
    {d : Dialogue A α} {k k' : κ} (h : d.Keeps asks learns k) (hk : le k k') :
    d.Keeps asks learns k' := by
  induction d generalizing k k' with
  | done a => trivial
  | ask q next ih =>
    refine ⟨hasks hk h.1, fun a l' hl => ?_⟩
    obtain ⟨l, hl, hle⟩ := hlearns hk hl
    exact ih a (h.2 a l hl) hle

/-- So long as the answers are admitted, the dialogue ends as is wished. -/
def Ends (admits : (q : Q) → A q → Prop) (wish : α → Prop) : Dialogue A α → Prop
  | .done a => wish a
  | .ask q next => ∀ a, admits q a → (next a).Ends admits wish

variable {admits : (q : Q) → A q → Prop}

lemma Ends.bind {wish : α → Prop} {wish' : β → Prop} {d : Dialogue A α} {f : α → Dialogue A β}
    (h : d.Ends admits wish) (hf : ∀ a, wish a → (f a).Ends admits wish') :
    (d >>= f).Ends admits wish' := by
  induction d with
  | done a => exact hf a h
  | ask q next ih => exact fun a ha => ih a (h a ha)

lemma Ends.mono {wish wish' : α → Prop} {d : Dialogue A α} (h : d.Ends admits wish)
    (hw : ∀ a, wish a → wish' a) : d.Ends admits wish' := by
  induction d with
  | done a => exact hw a h
  | ask q next ih => exact fun a ha => ih a (h a ha)

lemma ends_of_forall {wish : α → Prop} (h : ∀ a, wish a) (d : Dialogue A α) :
    d.Ends admits wish := by
  induction d with
  | done a => exact h a
  | ask q next ih => exact fun a _ => ih a

/-- With these answers to its first questions the dialogue has come to another one. -/
inductive Leads : Dialogue A α → List ((q : Q) × A q) → Dialogue A α → Prop
  | nil (d : Dialogue A α) : d.Leads [] d
  | cons {q : Q} {next : A q → Dialogue A α} {a : A q} {said : List ((q : Q) × A q)}
      {d : Dialogue A α} (h : (next a).Leads said d) : (ask q next).Leads (⟨q, a⟩ :: said) d

variable {said : List ((q : Q) × A q)} {q : Q} {next : A q → Dialogue A α}

lemma Leads.snoc {d : Dialogue A α} (h : d.Leads said (ask q next)) (a : A q) :
    d.Leads (said ++ [⟨q, a⟩]) (next a) := by
  generalize hd : ask q next = d' at h
  induction h with
  | nil d =>
    subst hd
    exact .cons (.nil _)
  | cons _ ih => exact .cons (ih hd)

lemma leads_done {a r : α} :
    (done a : Dialogue A α).Leads said (done r) ↔ said = [] ∧ r = a := by
  constructor
  · intro h
    cases h
    exact ⟨rfl, rfl⟩
  · rintro ⟨rfl, rfl⟩
    exact .nil _

lemma leads_bind {d : Dialogue A α} {f : α → Dialogue A β} {r : β}
    (h : (d >>= f).Leads said (done r)) :
    ∃ before after a, said = before ++ after ∧ d.Leads before (done a) ∧
      (f a).Leads after (done r) := by
  induction d generalizing said with
  | done a => exact ⟨[], said, a, rfl, .nil _, h⟩
  | ask q next ih =>
    cases h with
    | @cons _ _ b later _ h =>
      obtain ⟨before, after, a, rfl, ha, hf⟩ := ih b h
      exact ⟨⟨q, b⟩ :: before, after, a, rfl, .cons ha, hf⟩

lemma leads_ask {r : α} : (ask q next).Leads said (done r) ↔
    ∃ a later, said = ⟨q, a⟩ :: later ∧ (next a).Leads later (done r) := by
  constructor
  · intro h
    cases h with
    | cons h => exact ⟨_, _, rfl, h⟩
  · rintro ⟨a, later, rfl, h⟩
    exact .cons h

end Billboard.Dialogue
