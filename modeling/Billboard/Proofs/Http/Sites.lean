import Billboard.Deployment
import Billboard.Proofs.Cache.Alike
import Billboard.Proofs.Dialogue
import Mathlib.Tactic.Common

/-! Servers that keep everything in memory, and what actions leave in them. -/

namespace Billboard

structure Site where
  catalog : Catalog
  accounts : Accounts
  cache : LocalCache
  now : Nat

namespace Site

variable {α : Type}

def wait (s : Site) (ms : Nat) : Site := { s with now := s.now + ms }

def answersNow : (q : Effect) → Site → Set (q.Answer × Site)
  | .store c, s => {((s.catalog.answer c).1, { s with catalog := (s.catalog.answer c).2 })}
  | .cache c, s => {p | ∃ visit, p = ((s.cache.answer visit s.now c).1,
      { s with cache := (s.cache.answer visit s.now c).2 })}
  | .account c, s => {((s.accounts.answer c).1, { s with accounts := (s.accounts.answer c).2 })}
  | .clock, s => {p | p.2 = s}
  | .salt, s => {p | p.2 = s}
  | .pick _, s => {p | p.2 = s}

def answers (q : Effect) (s : Site) : Set (q.Answer × Site) :=
  {p | ∃ ms, p ∈ answersNow q (s.wait ms)}

/-- What an action can end with, if it may be given up while it waits for an answer. -/
def endings : Action α → Site → Set (Option α × Site)
  | .done a, s => {(some a, s)}
  | .ask q next, s => {o | (∃ ms, o = (none, s.wait ms)) ∨
      ∃ p ∈ answers q s, o ∈ endings (next p.1) p.2}

def Responds (s : Site) (c : Http.Context) (r : Http.Request) (p : Http.Response) (t : Site) :
    Prop :=
  ∃ o, (o, t) ∈ endings (Http.respond c r) s ∧ p = Http.finish r (o.getD Http.timedOut)

variable {s t u : Site}

lemma mem_endings_some {d : Action α} {a : α} :
    (some a, t) ∈ endings d s ↔ (a, t) ∈ d.outcomes answers s := by
  induction d generalizing s with
  | done b => exact ⟨fun h => by cases h; rfl, fun h => by cases h; rfl⟩
  | ask q next ih =>
    constructor
    · rintro (⟨ms, h⟩ | ⟨p, hp, h⟩)
      · cases h
      · exact ⟨p, hp, (ih p.1).mp h⟩
    · rintro ⟨p, hp, h⟩
      exact .inr ⟨p, hp, (ih p.1).mpr h⟩

/-- The stores are the same, and no later call of the cache can tell that anything happened. -/
structure Untouched (s t : Site) : Prop where
  catalog : t.catalog = s.catalog
  accounts : t.accounts = s.accounts
  now : s.now ≤ t.now
  cache : LocalCache.Alike t.now s.cache t.cache

lemma Untouched.wait (s : Site) (ms : Nat) : Untouched s (s.wait ms) :=
  ⟨rfl, rfl, Nat.le_add_right _ _, rfl, rfl, fun _ _ _ => rfl⟩

lemma Untouched.refl (s : Site) : Untouched s s := Untouched.wait s 0

lemma Untouched.trans (h : Untouched s t) (h' : Untouched t u) : Untouched s u := by
  refine ⟨h'.catalog.trans h.catalog, h'.accounts.trans h.accounts, h.now.trans h'.now, ?_⟩
  have hcache := h.cache.later h'.now
  exact ⟨h'.cache.ttl.trans hcache.ttl, h'.cache.index.trans hcache.index,
    fun later hl id => (h'.cache.live later hl id).trans (hcache.live later hl id)⟩

end Site

def Effect.Reads : Effect → Prop
  | .store (.create ..) | .store (.update ..) | .store (.delete _) => False
  | .cache (.put _) | .cache (.delete _) => False
  | .account (.create _) => False
  | _ => True

namespace Site

variable {α : Type} {s t : Site}

lemma untouched_of_answers {q : Effect} (hq : q.Reads) {p : q.Answer × Site}
    (h : p ∈ answers q s) : Untouched s p.2 := by
  obtain ⟨ms, h⟩ := h
  refine (Untouched.wait s ms).trans ?_
  generalize s.wait ms = s at h
  cases q with
  | store c =>
    rw [h]
    cases c <;> first | exact .refl s | exact hq.elim
  | cache c =>
    obtain ⟨visit, rfl⟩ := h
    cases c with
    | get f u => exact ⟨rfl, rfl, Nat.le_refl _, (s.cache.swept_get visit f u s.now).alike⟩
    | ping => exact .refl s
    | put b => exact hq.elim
    | delete id => exact hq.elim
  | account c =>
    rw [h]
    cases c with
    | find username => exact .refl s
    | create d => exact hq.elim
  | clock => exact h ▸ .refl s
  | salt => exact h ▸ .refl s
  | pick more => exact h ▸ .refl s

def Reading (d : Action α) : Prop :=
  d.Keeps (fun q (_ : Unit) => q.Reads) (fun _ _ _ _ => True) ()

lemma Reading.untouched {d : Action α} (hd : Reading d) {o : Option α × Site}
    (h : o ∈ endings d s) : Untouched s o.2 := by
  induction d generalizing s with
  | done a =>
    rw [h]
    exact .refl s
  | ask q next ih =>
    rcases h with ⟨ms, rfl⟩ | ⟨p, hp, h⟩
    · exact .wait s ms
    · exact (untouched_of_answers hd.1 hp).trans (ih p.1 (hd.2 p.1 () trivial) h)

lemma Reading.bind {β : Type} {d : Action α} {f : α → Action β} (hd : Reading d)
    (hf : ∀ a, Reading (f a)) : Reading (d >>= f) :=
  Dialogue.Keeps.bind hd fun a _ => hf a

lemma reading_done (a : α) : Reading (.done a) := trivial

lemma reading_ask {q : Effect} {next : q.Answer → Action α} (hq : q.Reads)
    (hnext : ∀ a, Reading (next a)) : Reading (.ask q next) :=
  ⟨hq, fun a _ _ => hnext a⟩

variable {β ε ε' : Type}

def Waited (s t : Site) : Prop := ∃ ms, t = s.wait ms

lemma Waited.refl (s : Site) : Waited s s := ⟨0, rfl⟩

lemma Waited.of_wait {ms : Nat} (h : Waited (s.wait ms) t) : Waited s t := by
  obtain ⟨n, rfl⟩ := h
  refine ⟨ms + n, ?_⟩
  simp only [wait, Nat.add_assoc]

def Makes (change : Site → α → Site → Prop) (d : Action (Except ε α)) : Prop :=
  ∀ s o t, (o, t) ∈ d.outcomes answers s →
    match o with
    | .error _ => Waited s t
    | .ok a => change s a t

def Delayed (change : Site → α → Site → Prop) : Prop :=
  ∀ s ms a t, change (s.wait ms) a t → change s a t

variable {change : Site → α → Site → Prop} {change' : Site → β → Site → Prop}

lemma makes_error (e : ε) : Makes change (.done (.error e)) := by
  intro s o t h
  cases h
  exact .refl s

lemma makes_ask {q : Effect} (hq : ∀ s, answersNow q s = {p | p.2 = s}) (hdelay : Delayed change)
    {next : q.Answer → Action (Except ε α)} (hnext : ∀ a, Makes change (next a)) :
    Makes change (.ask q next) := by
  rintro s o t ⟨p, ⟨ms, hp⟩, ho⟩
  have hnow := hnext p.1 p.2 o t ho
  rw [hq] at hp
  rw [show p.2 = s.wait ms from hp] at hnow
  cases o with
  | error e => exact hnow.of_wait
  | ok a => exact hdelay s ms a t hnow

lemma Makes.bind {d : Action (Except ε α)} {f : Except ε α → Action (Except ε' β)}
    (hd : Makes change d) (herror : ∀ e, ∃ e', f (.error e) = .done (.error e'))
    (hok : ∀ a, ∃ b, f (.ok a) = .done (.ok b) ∧ ∀ s t, change s a t → change' s b t) :
    Makes change' (d >>= f) := by
  intro s o t h
  obtain ⟨⟨x, u⟩, hx, ho⟩ := Dialogue.mem_outcomes_bind.mp h
  have hmade := hd s x u hx
  cases x with
  | error e =>
    obtain ⟨e', he⟩ := herror e
    rw [he] at ho
    cases ho
    exact hmade
  | ok a =>
    obtain ⟨b, hb, hchange⟩ := hok a
    rw [hb] at ho
    cases ho
    exact hchange s _ hmade

end Site

namespace Deployment

variable {s t : Deployment}

def site (s : Deployment) : Site := ⟨s.catalog, s.accounts, s.cache, s.now⟩

structure Calm (s : Deployment) : Prop where
  task : s.task = none
  store : s.storeGate.fault = none
  cache : s.cacheGate.fault = none
  create : s.createGate.fault = none
  find : s.findGate.fault = none

lemma fault_admitted {g : Gate} (h : g.fault = none) (now : Nat) :
    let p := g.admit now
    p.1.fault = none ∧ p.2.fault = none := by
  refine ⟨?_, h⟩
  change (if g.after ≤ g.calls then g.fault else none) = none
  rw [h, ite_self]

lemma Calm.issue (h : s.Calm) (q : Effect) :
    (s.issue q).2.Calm ∧ (s.issue q).2.site = s.site ∧ (s.issue q).1.fault = none := by
  obtain ⟨htask, hstore, hcache, hcreate, hfind⟩ := h
  unfold Deployment.issue
  split
  · exact ⟨⟨htask, hstore, hcache, hcreate, hfind⟩, rfl, rfl⟩
  · obtain ⟨hflight, hgate⟩ := fault_admitted hstore s.now
    exact ⟨⟨htask, hgate, hcache, hcreate, hfind⟩, rfl, hflight⟩
  · obtain ⟨hflight, hgate⟩ := fault_admitted hcache s.now
    exact ⟨⟨htask, hstore, hgate, hcreate, hfind⟩, rfl, hflight⟩
  · obtain ⟨hflight, hgate⟩ := fault_admitted hcreate s.now
    exact ⟨⟨htask, hstore, hcache, hgate, hfind⟩, rfl, hflight⟩
  · obtain ⟨hflight, hgate⟩ := fault_admitted hfind s.now
    exact ⟨⟨htask, hstore, hcache, hcreate, hgate⟩, rfl, hflight⟩
  · exact ⟨⟨htask, hstore, hcache, hcreate, hfind⟩, rfl, rfl⟩

lemma Calm.sleepUntil (h : s.Calm) (time : Nat) : s.sleepUntil time = s.moveTo time := by
  have hwake : s.wake? = none := by rw [wake?, h.task]; rfl
  rw [Deployment.sleepUntil]
  cases s.wakeBound time with
  | zero => rfl
  | succ fuel => rw [runTaskBefore, hwake]

lemma Calm.moveTo (h : s.Calm) (time : Nat) :
    (s.moveTo time).Calm ∧ ∃ ms, (s.moveTo time).site = s.site.wait ms := by
  refine ⟨⟨h.task, h.store, h.cache, h.create, h.find⟩, max s.now time - s.now, ?_⟩
  have hnow : max s.now time = s.now + (max s.now time - s.now) := by omega
  exact congrArg (Site.mk s.catalog s.accounts s.cache) hnow

lemma Calm.answer (h : s.Calm) {flight : Flight} (hflight : flight.fault = none) (q : Effect) :
    (s.answer flight q).2.Calm ∧
      ((s.answer flight q).1, (s.answer flight q).2.site) ∈ Site.answersNow q s.site := by
  obtain ⟨htask, hstore, hcache, hcreate, hfind⟩ := h
  rw [Deployment.answer, hflight]
  cases q with
  | store c => exact ⟨⟨htask, hstore, hcache, hcreate, hfind⟩, rfl⟩
  | cache c => exact ⟨⟨htask, hstore, hcache, hcreate, hfind⟩, _, rfl⟩
  | account c => exact ⟨⟨htask, hstore, hcache, hcreate, hfind⟩, rfl⟩
  | _ => exact ⟨⟨htask, hstore, hcache, hcreate, hfind⟩, rfl⟩

lemma Calm.perform {α : Type} (h : s.Calm) (deadline : Nat) (act : Action α) :
    ((perform (some deadline) act s).1, (perform (some deadline) act s).2.site) ∈
      Site.endings act s.site := by
  induction act generalizing s with
  | done a => rfl
  | ask q next ih =>
    obtain ⟨hissued, hsite, hflight⟩ := h.issue q
    rw [Deployment.perform]
    by_cases hlate : deadline ≤ (s.issue q).1.ready
    · simp only [hlate, decide_true, if_true, Option.getD_some]
      obtain ⟨-, ms, hms⟩ := hissued.moveTo deadline
      rw [hissued.sleepUntil, hms, hsite]
      exact .inl ⟨ms, rfl⟩
    · simp only [hlate, decide_false, if_false, Bool.false_eq_true]
      obtain ⟨hmoved, ms, hms⟩ := hissued.moveTo (s.issue q).1.ready
      rw [hissued.sleepUntil]
      obtain ⟨hanswered, hanswer⟩ := hmoved.answer hflight q
      rw [hms, hsite] at hanswer
      exact .inr ⟨_, ⟨ms, hanswer⟩, ih _ hanswered⟩

lemma Calm.responds (h : s.Calm) (c : Http.Context) (r : Http.Request) {timeout : Nat}
    (ht : timeout ≠ 0) :
    s.site.Responds c r (s.request c timeout r).1 (s.request c timeout r).2.site := by
  rw [request, if_neg ht]
  exact ⟨_, h.perform (s.now + timeout) (Http.respond c r), rfl⟩

end Deployment

end Billboard
