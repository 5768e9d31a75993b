import Billboard.Proofs.Dialogue
import Billboard.Proofs.Store.Catalog
import Billboard.Service.Banners

namespace Billboard

open Banner (Draft)
open Service (ReadRequest)

inductive Operation where
  | create (d : Draft)
  | update (id : Int) (d : Draft)
  | delete (id : Int)
  | refresh
  | list (r : ReadRequest)
  | pickOne (feature tag : Int) (isAdmin lastRevision : Bool)

namespace Operation

abbrev Result : Operation → Type
  | .create _ => Except ServiceError Banner
  | .update .. => Except ServiceError Unit
  | .delete _ => Except ServiceError Unit
  | .refresh => Except RefreshError Nat
  | .list _ => Except ServiceError (List Banner)
  | .pickOne .. => Except ServiceError Banner

def Writable : Operation → Prop
  | .create d => d.Writable
  | .update _ d => d.Writable
  | _ => True

def Uncached : Operation → Prop
  | .list r => r.cacheKey? = none
  | .pickOne _ _ isAdmin lastRevision => (isAdmin || lastRevision) = true
  | _ => True

def Shows (id : Int) : (o : Operation) → o.Result → Prop
  | .create _, .ok b => b.id = id
  | .list _, .ok bs => ∃ b ∈ bs, b.id = id
  | .pickOne .., .ok b => b.id = id
  | _, _ => False

def action : (o : Operation) → Action o.Result
  | .create d => Service.create d
  | .update id d => Service.update id d
  | .delete id => Service.delete id
  | .refresh => Service.refresh
  | .list r => Service.list r
  | .pickOne feature tag isAdmin lastRevision =>
    Service.pickOne feature tag isAdmin lastRevision

end Operation

namespace Effect

inductive Stored (id : Int) : (q : Effect) → q.Answer → Prop
  | created {d created updated} : Stored id (.store (.create d created updated)) (.ok id)
  | found {j b} (h : b.id = id) : Stored id (.store (.get j)) (.ok (some b))
  | listed {f b} {bs : List Banner} (hb : b ∈ bs) (h : b.id = id) :
      Stored id (.store (.query f)) (.ok bs)

inductive Cached (id : Int) : (q : Effect) → q.Answer → Prop
  | read {f t b} (h : b.id = id) : Cached id (.cache (.get f t)) (.ok b)

end Effect

namespace Action

open Dialogue

variable {α β : Type}

def Learns : (q : Effect) → q.Answer → Set Banner → Set Banner → Prop
  | .store c, a, _, known' => c.Hands a ⊆ known'
  | .cache _, _, known, known' => known' = known
  | .account _, _, known, known' => known' = known
  | .clock, _, known, known' => known' = known
  | .salt, _, known, known' => known' = known
  | .pick _, _, known, known' => known' = known

/-- Every banner that is put into the cache is known. -/
def Honest (act : Action α) (known : Set Banner) : Prop :=
  act.Keeps (fun q known => ∀ b, q = .cache (.put b) → b ∈ known) Learns known

lemma Honest.mono {act : Action α} {known known' : Set Banner} (h : act.Honest known)
    (hk : known ⊆ known') : act.Honest known' := by
  refine Keeps.mono (· ⊆ ·) (fun hk h b hq => hk (h b hq)) ?_ h hk
  intro q a k k' l' hk hl
  cases q with
  | store c => exact ⟨l', hl, Set.Subset.rfl⟩
  | _ => exact ⟨k, rfl, hl.symm ▸ hk⟩

lemma honest_putAll {bs : List Banner} {known : Set Banner} (h : ∀ b ∈ bs, b ∈ known) :
    (Service.putAll bs).Honest known := by
  induction bs with
  | nil => trivial
  | cons b rest ih =>
    obtain ⟨hb, hrest⟩ := List.forall_mem_cons.mp h
    refine ⟨fun d hd => ?_, fun a k hk => ?_⟩
    · cases hd
      exact hb
    · cases hk
      cases a with
      | error e => trivial
      | ok u => exact ih hrest

lemma honest_listFromStore (r : ReadRequest) (known : Set Banner) :
    (Service.listFromStore r).Honest known := by
  refine ⟨nofun, fun a k hk => ?_⟩
  cases a <;> trivial

lemma honest_list (r : ReadRequest) (known : Set Banner) : (Service.list r).Honest known := by
  unfold Service.list
  split
  · exact honest_listFromStore r known
  · refine ⟨nofun, fun a k hk => ?_⟩
    cases a with
    | ok b => trivial
    | error e => exact honest_listFromStore r k

lemma honest_action (o : Operation) (known : Set Banner) : o.action.Honest known := by
  cases o with
  | create d =>
    change (Service.create d).Honest known
    unfold Service.create
    split
    · trivial
    · refine ⟨nofun, fun t k hk => ⟨nofun, fun a k hk => ?_⟩⟩
      cases a with
      | error e => trivial
      | ok id =>
        refine ⟨fun b hb => ?_, fun a k hk => ?_⟩
        · cases hb
          exact hk rfl
        · trivial
  | update id d =>
    change (Service.update id d).Honest known
    unfold Service.update
    split
    · trivial
    · refine ⟨nofun, fun t k hk => ⟨nofun, fun a k hk => ?_⟩⟩
      cases a <;> trivial
  | delete id =>
    refine ⟨nofun, fun a k hk => ?_⟩
    cases a with
    | error e => trivial
    | ok u => exact ⟨nofun, fun a k hk => trivial⟩
  | refresh =>
    refine ⟨nofun, fun a k hk => ?_⟩
    cases a with
    | error e => trivial
    | ok bs =>
      refine (honest_putAll fun b hb => hk hb).bind fun r k => ?_
      cases r <;> trivial
  | list r => exact honest_list r known
  | pickOne f t isAdmin lastRevision =>
    refine Keeps.bind (honest_list _ known) fun r k => ?_
    match r with
    | .error e => trivial
    | .ok [] => trivial
    | .ok (b :: rest) => exact ⟨nofun, fun i k hk => trivial⟩

/-- The operation may put a banner with the id into the cache before it asks the store again. -/
def WillPut (id : Int) : Action α → Prop
  | .done _ => False
  | .ask q next => (∃ b, q = .cache (.put b) ∧ b.id = id) ∨
      ((∀ c, q ≠ .store c) ∧ ∃ a, WillPut id (next a))

lemma Honest.forget {act : Action α} {known : Set Banner} {id : Int} (h : act.Honest known)
    (hp : ¬ act.WillPut id) : act.Honest {b | b.id ≠ id} := by
  induction act generalizing known with
  | done a => trivial
  | ask q next ih =>
    simp only [WillPut, not_or, not_exists, not_and] at hp
    refine ⟨fun b hq => hp.1 b hq, fun a k hk => ?_⟩
    have later : (∀ c, q ≠ .store c) → Honest (next a) {b | b.id ≠ id} := fun hq =>
      ih a (h.2 a _ (by cases q <;> first | rfl | exact (hq _ rfl).elim)) (hp.2 hq a)
    cases q with
    | store c => exact h.2 a k hk
    | _ => exact hk ▸ later nofun

lemma Honest.not_willPut {act : Action α} {known : Set Banner} {id : Int} (h : act.Honest known)
    (hk : ∀ b ∈ known, b.id ≠ id) : ¬ act.WillPut id := by
  induction act generalizing known with
  | done a => exact fun h => h
  | ask q next ih =>
    rintro (⟨b, hq, hb⟩ | ⟨hq, a, ha⟩)
    · exact hk b (h.1 b hq) hb
    · refine ih a (h.2 a known ?_) hk ha
      cases q <;> first | rfl | exact (hq _ rfl).elim

def Sane : (q : Effect) → q.Answer → Prop
  | .clock, t => t.Proper
  | .store _, _ => True
  | .cache _, _ => True
  | .account _, _ => True
  | .salt, _ => True
  | .pick _, _ => True

def Fitting (act : Action α) : Prop :=
  act.Keeps (fun q (_ : Unit) => ∀ c, q = .store c → c.Writable) (fun q a _ _ => Sane q a) ()

lemma fitting_listFromStore (r : ReadRequest) : (Service.listFromStore r).Fitting := by
  refine ⟨fun c hc => ?_, fun a _ _ => ?_⟩
  · cases hc
    trivial
  · cases a <;> trivial

lemma fitting_list (r : ReadRequest) : (Service.list r).Fitting := by
  unfold Service.list
  split
  · exact fitting_listFromStore r
  · refine ⟨nofun, fun a _ _ => ?_⟩
    cases a with
    | ok b => trivial
    | error e => exact fitting_listFromStore r

lemma fitting_putAll (bs : List Banner) : (Service.putAll bs).Fitting := by
  induction bs with
  | nil => trivial
  | cons b rest ih =>
    refine ⟨nofun, fun a _ _ => ?_⟩
    cases a with
    | error e => trivial
    | ok u => exact ih

lemma fitting_action {o : Operation} (ho : o.Writable) : o.action.Fitting := by
  cases o with
  | create d =>
    change (Service.create d).Fitting
    unfold Service.create
    cases hd : d.check with
    | error flaw => trivial
    | ok e =>
      refine ⟨nofun, fun t _ (ht : t.Proper) => ⟨fun c hc => ?_, fun a _ _ => ?_⟩⟩
      · cases hc
        exact ⟨ho.check hd, ht.toMicros, ht.toMicros⟩
      · cases a with
        | error e => trivial
        | ok id => exact ⟨nofun, fun _ _ _ => trivial⟩
  | update id d =>
    change (Service.update id d).Fitting
    unfold Service.update
    cases hd : d.check with
    | error flaw => trivial
    | ok e =>
      refine ⟨nofun, fun t _ (ht : t.Proper) => ⟨fun c hc => ?_, fun a _ _ => ?_⟩⟩
      · cases hc
        exact ⟨ho.check hd, ht.toMicros⟩
      · cases a <;> trivial
  | delete id =>
    refine ⟨fun c hc => ?_, fun a _ _ => ?_⟩
    · cases hc
      trivial
    · cases a with
      | error e => trivial
      | ok u => exact ⟨nofun, fun _ _ _ => trivial⟩
  | refresh =>
    refine ⟨fun c hc => ?_, fun a _ _ => ?_⟩
    · cases hc
      trivial
    · cases a with
      | error e => trivial
      | ok bs =>
        refine (fitting_putAll bs).bind fun r _ => ?_
        cases r <;> trivial
  | list r => exact fitting_list r
  | pickOne f t isAdmin lastRevision =>
    refine (fitting_list _).bind fun r _ => ?_
    match r with
    | .error e => trivial
    | .ok [] => trivial
    | .ok (b :: rest) => exact ⟨nofun, fun _ _ _ => trivial⟩

variable {id : Int} {admits : (q : Effect) → q.Answer → Prop}

lemma ends_listFromStore (r : ReadRequest) (hs : ∀ q a, admits q a → ¬ q.Stored id a) :
    (Service.listFromStore r).Ends admits (¬ (Operation.list r).Shows id ·) := by
  intro a ha
  cases a with
  | error e => exact fun h => h
  | ok bs =>
    rintro ⟨b, hb, hid⟩
    exact hs _ _ ha (.listed hb hid)

lemma ends_list (r : ReadRequest) (hs : ∀ q a, admits q a → ¬ q.Stored id a)
    (hc : r.cacheKey? = none ∨ ∀ q a, admits q a → ¬ q.Cached id a) :
    (Service.list r).Ends admits (¬ (Operation.list r).Shows id ·) := by
  unfold Service.list
  split
  · exact ends_listFromStore r hs
  · rename_i f t hk
    have hc := hc.resolve_left (by rw [hk]; simp)
    intro a ha
    cases a with
    | error e => exact ends_listFromStore r hs
    | ok b =>
      rintro ⟨d, hd, hid⟩
      obtain rfl := List.mem_singleton.mp hd
      exact hc _ _ ha (.read hid)

lemma ends_action (o : Operation) (hs : ∀ q a, admits q a → ¬ q.Stored id a)
    (hc : o.Uncached ∨ ∀ q a, admits q a → ¬ q.Cached id a) :
    o.action.Ends admits (¬ o.Shows id ·) := by
  cases o with
  | create d =>
    change (Service.create d).Ends admits _
    unfold Service.create
    split
    · exact fun h => h
    · intro t _ a ha
      cases a with
      | error e => exact fun h => h
      | ok j =>
        rintro _ - rfl
        exact hs _ _ ha .created
  | update id' d => exact ends_of_forall (fun _ h => h) _
  | delete id' => exact ends_of_forall (fun _ h => h) _
  | refresh => exact ends_of_forall (fun _ h => h) _
  | list r => exact ends_list r hs hc
  | pickOne f t isAdmin lastRevision =>
    have hk : (ReadRequest.one f t isAdmin lastRevision).cacheKey? = none ∨
        ∀ q a, admits q a → ¬ q.Cached id a :=
      hc.imp_left fun h => by simp [ReadRequest.cacheKey?, ReadRequest.one, show _ = true from h]
    refine (ends_list _ hs hk).bind fun r hr => ?_
    match r with
    | .error e => exact fun h => h
    | .ok [] => exact fun h => h
    | .ok (b :: rest) => exact fun i _ h => hr ⟨_, List.get_mem (b :: rest) i, h⟩

end Action

end Billboard
