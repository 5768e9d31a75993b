import Billboard.Proofs.Accounts.Operations
import Billboard.Proofs.Http.Hosts

/-! What clients learn of failures inside: nothing but that there was one. -/

namespace Billboard

def StoreError.Hidden : StoreError → Prop
  | .notFound .. => False
  | .alreadyExists .. => False
  | .invalidBanner _ => False
  | .transaction _ => True
  | .connection _ => True
  | .internal _ => True

def AuthError.Hidden : AuthError → Prop
  | .storage _ => True
  | .internal _ => True
  | _ => False

def ServiceError.Hidden : ServiceError → Prop
  | .notFound => False
  | .invalidInput _ => False
  | .persistence cause => cause.Hidden

def ApiError.Hidden : ApiError → Prop
  | .internal _ => True
  | _ => False

lemma ServiceError.hidden_ofStore {e : StoreError} (h : e.Hidden) : (ofStore e).Hidden := by
  cases e <;> exact h

lemma ApiError.hidden_ofService {e : ServiceError} (h : e.Hidden) : (ofService e).Hidden := by
  cases e with
  | persistence cause => cases cause <;> exact h
  | _ => exact h.elim

lemma ApiError.hidden_ofAuth {e : AuthError} (h : e.Hidden) : (ofAuth e).Hidden := by
  cases e <;> exact h

inductive Blurred {ε α : Type} (hidden : ε → Prop) : Except ε α → Except ε α → Prop
  | same (a : Except ε α) : Blurred hidden a a
  | hidden {e f : ε} (he : hidden e) (hf : hidden f) : Blurred hidden (.error e) (.error f)

namespace Effect

def Alike : (q : Effect) → q.Answer → q.Answer → Prop
  | .store _, a, b => Blurred StoreError.Hidden a b
  | .cache _, a, b => Blurred (fun _ => True) a b
  | .account _, a, b => Blurred AuthError.Hidden a b
  | .clock, a, b => a = b
  | .salt, a, b => a = b
  | .pick _, a, b => a = b

lemma Alike.refl (q : Effect) (a : q.Answer) : q.Alike a a := by
  cases q with
  | store c => exact .same a
  | cache c => exact .same a
  | account c => exact .same a
  | _ => exact rfl

def Breaks : (q : Effect) → q.Answer → Prop
  | .store _, .error e => e.Hidden
  | .account _, .error e => e.Hidden
  | _, _ => False

end Effect

variable {α β ε ε' σ : Type} {breaks : (q : Effect) → q.Answer → Prop}

/-- Two actions ask the same and come to the same whatever text a hidden failure has, and they come
to an end at once when something breaks. -/
inductive Discreet (breaks : (q : Effect) → q.Answer → Prop) (same : α → α → Prop)
    (broken : α → Prop) : Action α → Action α → Prop
  | done {a b : α} (h : same a b) : Discreet breaks same broken (.done a) (.done b)
  | ask {q : Effect} {next next' : q.Answer → Action α}
    (h : ∀ a b, q.Alike a b → Discreet breaks same broken (next a) (next' b))
    (hbreaks : ∀ a, breaks q a → ∃ r, next a = .done r ∧ broken r) :
    Discreet breaks same broken (.ask q next) (.ask q next')

lemma Discreet.bind {same : α → α → Prop} {broken : α → Prop} {same' : β → β → Prop}
    {broken' : β → Prop} {d d' : Action α} {f f' : α → Action β}
    (h : Discreet breaks same broken d d')
    (hf : ∀ a b, same a b → Discreet breaks same' broken' (f a) (f' b))
    (hbroken : ∀ a, broken a → ∃ r, f a = .done r ∧ broken' r) :
    Discreet breaks same' broken' (d >>= f) (d' >>= f') := by
  induction h with
  | done h => exact hf _ _ h
  | ask h hbreaks ih =>
    refine .ask ih fun a ha => ?_
    obtain ⟨r, hr, hb⟩ := hbreaks a ha
    obtain ⟨r', hr', hb'⟩ := hbroken r hb
    exact ⟨r', by rw [hr]; exact hr', hb'⟩

def Hides (breaks : (q : Effect) → q.Answer → Prop) (hidden : ε → Prop)
    (d : Action (Except ε α)) : Prop :=
  Discreet breaks (Blurred hidden) (fun r => ∃ e, r = .error e ∧ hidden e) d d

namespace Hides

variable {hidden : ε → Prop} {hidden' : ε' → Prop}

lemma done (a : Except ε α) : Hides breaks hidden (.done a) := Discreet.done (.same a)

lemma bind {d : Action (Except ε α)} {f : Except ε α → Action (Except ε' β)} {g : ε → ε'}
    (hd : Hides breaks hidden d) (hg : ∀ e, hidden e → hidden' (g e))
    (herror : ∀ e, f (.error e) = .done (.error (g e)))
    (hok : ∀ a, Hides breaks hidden' (f (.ok a))) : Hides breaks hidden' (d >>= f) := by
  refine Discreet.bind hd (fun a b h => ?_) ?_
  · cases h with
    | same a =>
      cases a with
      | ok a => exact hok a
      | error e =>
        rw [herror]
        exact done _
    | hidden he hf =>
      rw [herror, herror]
      exact .done (.hidden (hg _ he) (hg _ hf))
  · rintro _ ⟨e, rfl, he⟩
    exact ⟨_, herror e, _, rfl, hg e he⟩

end Hides

lemma hides_store (c : StoreCall) : Hides Effect.Breaks StoreError.Hidden (Action.store c) := by
  refine .ask (fun a b h => .done h) fun a h => ?_
  cases a with
  | ok a => exact h.elim
  | error e => exact ⟨_, rfl, e, rfl, h⟩

lemma hides_account (c : AccountCall) :
    Hides Effect.Breaks AuthError.Hidden (Action.account c) := by
  refine .ask (fun a b h => .done h) fun a h => ?_
  cases a with
  | ok a => exact h.elim
  | error e => exact ⟨_, rfl, e, rfl, h⟩

lemma hides_exact {hidden : ε → Prop} {q : Effect} {next : q.Answer → Action (Except ε α)}
    (halike : ∀ a b, q.Alike a b → a = b) (hbreaks : ∀ a, ¬q.Breaks a)
    (hnext : ∀ a, Hides Effect.Breaks hidden (next a)) :
    Hides Effect.Breaks hidden (.ask q next) := by
  refine .ask (fun a b h => ?_) fun a h => (hbreaks a h).elim
  rw [halike a b h]
  exact hnext b

namespace Service

lemma hides_listFromStore (r : ReadRequest) :
    Hides Effect.Breaks ServiceError.Hidden (listFromStore r) :=
  (hides_store _).bind (fun _ => ServiceError.hidden_ofStore) (fun _ => rfl) fun _ => .done _

lemma hides_list (r : ReadRequest) : Hides Effect.Breaks ServiceError.Hidden (list r) := by
  unfold list
  split
  · exact hides_listFromStore r
  · refine .ask (fun a b h => ?_) fun a h => h.elim
    cases h with
    | same a =>
      cases a with
      | ok b => exact Hides.done _
      | error e => exact hides_listFromStore r
    | hidden => exact hides_listFromStore r

lemma hides_pickOne (feature tag : Int) (isAdmin lastRevision : Bool) :
    Hides Effect.Breaks ServiceError.Hidden (pickOne feature tag isAdmin lastRevision) := by
  refine (hides_list _).bind (fun _ h => h) (fun _ => rfl) fun bs => ?_
  cases bs with
  | nil => exact .done _
  | cons b rest => exact hides_exact (fun _ _ h => h) (fun _ h => h) fun i => .done _

lemma hides_create (d : Banner.Draft) : Hides Effect.Breaks ServiceError.Hidden (create d) := by
  unfold create
  split
  · exact .done _
  · refine hides_exact (fun _ _ h => h) (fun _ h => h) fun t => ?_
    refine (hides_store _).bind (fun _ => ServiceError.hidden_ofStore) (fun _ => rfl) fun id => ?_
    exact .ask (fun _ _ _ => .done (.same _)) fun _ h => h.elim

lemma hides_update (id : Int) (d : Banner.Draft) :
    Hides Effect.Breaks ServiceError.Hidden (update id d) := by
  unfold update
  split
  · exact .done _
  · refine hides_exact (fun _ _ h => h) (fun _ h => h) fun t => ?_
    exact (hides_store _).bind (fun _ => ServiceError.hidden_ofStore) (fun _ => rfl)
      fun _ => .done _

lemma hides_delete (id : Int) : Hides Effect.Breaks ServiceError.Hidden (delete id) := by
  refine (hides_store _).bind (fun _ => ServiceError.hidden_ofStore) (fun _ => rfl) fun _ => ?_
  exact .ask (fun _ _ _ => .done (.same _)) fun _ h => h.elim

variable (signer : Signer)

lemma hides_enroll (r : AccountRequest) :
    Hides Effect.Breaks AuthError.Hidden (enroll signer r) := by
  refine hides_exact (fun _ _ h => h) (fun _ h => h) fun salt => ?_
  refine (hides_account _).bind (fun _ h => h) (fun _ => rfl) fun _ => ?_
  exact hides_exact (fun _ _ h => h) (fun _ h => h) fun t => .done _

lemma hides_register (r : AccountRequest) :
    Hides Effect.Breaks AuthError.Hidden (register signer r) := by
  rcases register_cases signer r with ⟨e, he⟩ | ⟨-, he⟩ | ⟨token, -, he⟩
  · rw [he]
    exact .done _
  · rw [he]
    exact hides_enroll signer r
  · rw [he]
    refine hides_exact (fun _ _ h => h) (fun _ h => h) fun t => ?_
    unfold enrollBy
    split
    · exact .done _
    · split_ifs
      · exact hides_enroll signer r
      · exact .done _

lemma hides_login (username password : String) :
    Hides Effect.Breaks AuthError.Hidden (login signer username password) := by
  refine (hides_account _).bind (fun _ h => h) (fun _ => rfl) fun a => ?_
  cases a with
  | none => exact .done _
  | some a =>
    simp only
    split
    · exact .done _
    · exact .done _
    · exact hides_exact (fun _ _ h => h) (fun _ h => h) fun t => .done _

end Service

namespace Http

variable (c : Context) (r : Request)

lemma hides_bearerIsAdmin (signer : Signer) (missing : String) :
    Hides Effect.Breaks ApiError.Hidden (bearerIsAdmin signer r missing) := by
  unfold bearerIsAdmin
  split
  · exact .done _
  · rw [Service.isAdmin_eq]
    refine hides_exact (fun _ _ h => h) (fun _ h => h) fun t => ?_
    simp only [Dialogue.bind]
    split <;> exact .done _

lemma hides_admitAdmin (signer : Signer) :
    Hides Effect.Breaks ApiError.Hidden (admitAdmin signer r) := by
  refine (hides_bearerIsAdmin r signer _).bind (fun _ h => h) (fun _ => rfl) fun admin => ?_
  cases admin <;> exact .done _

lemma hides_userBanner : Hides Effect.Breaks ApiError.Hidden (userBanner c r) := by
  refine (hides_bearerIsAdmin r c.signer _).bind (fun _ h => h) (fun _ => rfl) fun admin => ?_
  simp only
  split
  · exact .done _
  · exact (Service.hides_pickOne _ _ _ _).bind (fun _ => ApiError.hidden_ofService) (fun _ => rfl)
      fun _ => .done _

lemma hides_listBanners : Hides Effect.Breaks ApiError.Hidden (listBanners c r) := by
  refine (hides_admitAdmin r c.signer).bind (fun _ h => h) (fun _ => rfl) fun _ => ?_
  simp only
  split
  · exact .done _
  · exact (Service.hides_list _).bind (fun _ => ApiError.hidden_ofService) (fun _ => rfl)
      fun _ => .done _

lemma hides_createBanner : Hides Effect.Breaks ApiError.Hidden (createBanner c r) := by
  refine (hides_admitAdmin r c.signer).bind (fun _ h => h) (fun _ => rfl) fun _ => ?_
  simp only
  split
  · exact .done _
  · exact (Service.hides_create _).bind (fun _ => ApiError.hidden_ofService) (fun _ => rfl)
      fun _ => .done _

lemma hides_updateBanner (segment : List Char) :
    Hides Effect.Breaks ApiError.Hidden (updateBanner c segment r) := by
  refine (hides_admitAdmin r c.signer).bind (fun _ h => h) (fun _ => rfl) fun _ => ?_
  simp only
  split
  · exact .done _
  · exact .done _
  · exact (Service.hides_update _ _).bind (fun _ => ApiError.hidden_ofService) (fun _ => rfl)
      fun _ => .done _

lemma hides_deleteBanner (segment : List Char) :
    Hides Effect.Breaks ApiError.Hidden (deleteBanner c segment r) := by
  refine (hides_admitAdmin r c.signer).bind (fun _ h => h) (fun _ => rfl) fun _ => ?_
  simp only
  split
  · exact .done _
  · exact (Service.hides_delete _).bind (fun _ => ApiError.hidden_ofService) (fun _ => rfl)
      fun _ => .done _

lemma hides_tokenResponse (status : Nat) {d : Action (Except AuthError String)}
    (hd : Hides Effect.Breaks AuthError.Hidden d) :
    Hides Effect.Breaks ApiError.Hidden (do return tokenResponse status (← d)) :=
  hd.bind (fun _ => ApiError.hidden_ofAuth) (fun _ => rfl) fun _ => .done _

lemma hides_login : Hides Effect.Breaks ApiError.Hidden (login c r) := by
  unfold login
  split
  · exact .done _
  · exact hides_tokenResponse 200 (Service.hides_login c.signer _ _)

lemma hides_createAccount : Hides Effect.Breaks ApiError.Hidden (createAccount c r) := by
  unfold createAccount
  split
  · exact .done _
  · exact hides_tokenResponse 201 (Service.hides_register c.signer _)

def internalFailure : Response := failed (.internal "")

lemma failed_hidden {e : ApiError} (h : e.Hidden) : failed e = internalFailure := by
  cases e with
  | internal reason => rfl
  | _ => exact h.elim

lemma discreet_settled {a : Action Outcome} (h : Hides breaks ApiError.Hidden a) :
    Discreet breaks Eq (· = internalFailure) (settled a) (settled a) := by
  refine Discreet.bind h (fun a b hab => ?_) ?_
  · cases hab with
    | same a => cases a <;> exact .done rfl
    | hidden he hf =>
      refine .done ?_
      rw [failed_hidden he, failed_hidden hf]
  · rintro _ ⟨e, rfl, he⟩
    exact ⟨_, rfl, failed_hidden he⟩

lemma discreet_handle {resource : Resource} (hready : resource ≠ .readiness) :
    Discreet Effect.Breaks Eq (· = internalFailure) (handle c r resource)
      (handle c r resource) := by
  unfold handle
  split
  · cases resource with
    | health => exact .done rfl
    | readiness => exact (hready rfl).elim
    | userBanner => exact discreet_settled (hides_userBanner c r)
    | banners =>
      refine discreet_settled ?_
      split
      · exact hides_createBanner c r
      · exact hides_listBanners c r
    | banner segment =>
      refine discreet_settled ?_
      split
      · exact hides_updateBanner c r segment
      · exact hides_deleteBanner c r segment
    | tokens => exact discreet_settled (hides_login c r)
    | accounts => exact discreet_settled (hides_createAccount c r)
  · exact .done rfl

lemma discreet_readiness :
    Discreet (fun _ _ => False) Eq (· = internalFailure) readiness readiness := by
  -- both stores are asked whatever the first one says, so nothing breaks off here
  refine .ask (fun a a' ha => .ask (fun b b' hb => ?_) fun _ h => h.elim) fun _ h => h.elim
  cases ha with
  | hidden => exact .done rfl
  | same a =>
    cases hb with
    | hidden => cases a <;> exact .done rfl
    | same b => cases a <;> cases b <;> exact .done rfl

lemma discreet_respond (hready : Resource.ofPath? r.path ≠ some .readiness) :
    Discreet Effect.Breaks Eq (· = shared internalFailure) (respond c r) (respond c r) := by
  unfold respond
  split_ifs with hm
  · exact .done rfl
  · split
    · exact .done rfl
    · rename_i resource hpath
      have hresource : resource ≠ .readiness := fun h => hready (hpath.trans (congrArg some h))
      refine (discreet_handle c r hresource).bind (fun a b hab => ?_) ?_
      · rw [hab]
        exact .done rfl
      · rintro _ rfl
        exact ⟨_, rfl, rfl⟩

lemma discreet_respond_readiness (hready : Resource.ofPath? r.path = some .readiness) :
    Discreet (fun _ _ => False) Eq (· = shared internalFailure) (respond c r) (respond c r) := by
  unfold respond
  split_ifs with hm
  · exact .done rfl
  · have hhandle : Discreet (fun _ _ => False) Eq (· = internalFailure) (handle c r .readiness)
        (handle c r .readiness) := by
      unfold handle
      split
      · exact discreet_readiness
      · exact .done rfl
    rw [hready]
    refine hhandle.bind (fun a b hab => ?_) ?_
    · rw [hab]
      exact .done rfl
    · rintro _ rfl
      exact ⟨_, rfl, rfl⟩

end Http

section

variable {h h' : Host σ} {s : σ} {same : α → α → Prop} {broken : α → Prop} {d d' : Action α}

/-- The hosts go through the same states, and their answers are the same but for the text of hidden
failures. -/
def Host.Alike (h h' : Host σ) : Prop :=
  ∀ q s, Option.Rel (fun p p' => q.Alike p.1 p'.1 ∧ p.2 = p'.2) (h.answer q s) (h'.answer q s)

lemma Discreet.run_eq (hh : h.Alike h') (hd : Discreet breaks Eq broken d d') :
    h.run d s = h'.run d' s := by
  induction hd generalizing s with
  | done hab => rw [hab, Host.run, Host.run]
  | @ask q next next' _ _ ih =>
    rw [Host.run, Host.run]
    have hanswers := hh q s
    generalize h.answer q s = o, h'.answer q s = o' at hanswers
    cases hanswers with
    | none => rfl
    | @some p p' hp =>
      obtain ⟨halike, hstate⟩ := hp
      rw [Option.bind_some, Option.bind_some, ← hstate]
      exact ih _ _ halike

lemma Discreet.run_of_breaks (hd : Discreet breaks same broken d d') {q : Effect} {a : q.Answer}
    (he : ⟨q, some a⟩ ∈ h.exchanges d s) (ha : breaks q a) :
    ∃ r, h.run d s = some r ∧ broken r := by
  induction hd generalizing s with
  | done _ => exact (List.not_mem_nil he).elim
  | @ask q next next' _ hbreaks ih =>
    cases hanswer : h.answer q s with
    | none =>
      rw [Host.exchanges, hanswer] at he
      cases List.mem_singleton.mp he
    | some p =>
      rw [Host.exchanges_ask hanswer] at he
      rw [Host.run_ask hanswer]
      rcases List.mem_cons.mp he with he | he
      · cases he
        obtain ⟨r, hr, hbroken⟩ := hbreaks _ ha
        rw [hr]
        exact ⟨r, rfl, hbroken⟩
      · exact ih _ _ (Effect.Alike.refl q p.1) he

end

namespace Http

lemma finish_internalFailure (r : Request) :
    (finish r (shared internalFailure)).status = 500 ∧
      (finish r (shared internalFailure)).body =
        if r.method = .head then "" else "\x7b\"error\":\"internal server error\"\x7d" := by
  have hbody : internalFailure.body = "\x7b\"error\":\"internal server error\"\x7d" := by
    decide +kernel
  unfold finish
  split_ifs
  · exact ⟨rfl, rfl⟩
  · exact ⟨rfl, hbody⟩

/-- Two hosts that differ in the texts of hidden failures only respond alike, and a failure of a
store that is hidden is told of as one that is internal. -/
theorem failures_hidden {h h' : Host σ} (hh : h.Alike h') (c : Context) (r : Request) (s : σ) :
    h.response c r s = h'.response c r s ∧
    (Resource.ofPath? r.path ≠ some .readiness →
      ∀ q a, ⟨q, some a⟩ ∈ h.exchanges (respond c r) s → q.Breaks a →
        (h.response c r s).status = 500 ∧ (h.response c r s).body =
          if r.method = .head then "" else "\x7b\"error\":\"internal server error\"\x7d") := by
  constructor
  · by_cases hready : Resource.ofPath? r.path = some .readiness
    · rw [Host.response, Host.response, (discreet_respond_readiness c r hready).run_eq hh]
    · rw [Host.response, Host.response, (discreet_respond c r hready).run_eq hh]
  · intro hready q a he ha
    obtain ⟨p, hrun, rfl⟩ := (discreet_respond c r hready).run_of_breaks he ha
    rw [Host.response, hrun]
    exact finish_internalFailure r

def failingHost (text : String) : Host Unit where
  answer
    | .store _, _ => some (.error (.connection text), ())
    | .cache _, _ => some (.error (.backend text), ())
    | .account _, _ => some (.error (.storage text), ())
    | .clock, _ => some (⟨0, 0⟩, ())
    | .salt, _ => some (.replicate 16 0, ())
    | .pick more, _ => some (⟨0, Nat.zero_lt_succ more⟩, ())

theorem failures_hidden_login :
    let r : Request := { method := .post, path := "/auth".toList, body := "[\"a\",\"b\"]".toUTF8
                         headers := [("content-type", "application/json")] }
    let c : Context := ⟨⟨[1], 60⟩, 100⟩
    (failingHost "no route to 10.0.0.7").Alike (failingHost "password expired") ∧
    (failingHost "no route to 10.0.0.7").response c r () =
      (failingHost "password expired").response c r () ∧
    ((failingHost "no route to 10.0.0.7").response c r ()).status = 500 := by
  intro r c
  have halike : (failingHost "no route to 10.0.0.7").Alike (failingHost "password expired") := by
    intro q s
    cases q with
    | store call => exact .some ⟨.hidden trivial trivial, rfl⟩
    | cache call => exact .some ⟨.hidden trivial trivial, rfl⟩
    | account call => exact .some ⟨.hidden trivial trivial, rfl⟩
    | _ => exact .some ⟨rfl, rfl⟩
  have hbody : readBody 100 Api.Credentials.reader r = .ok ⟨"a", "b"⟩ := by
    decide +kernel
  have hexchange : ⟨.account (.find "a"), some (.error (.storage "no route to 10.0.0.7"))⟩ ∈
      (failingHost "no route to 10.0.0.7").exchanges (respond c r) () := by
    have hlogin : login c r = do return tokenResponse 200 (← Service.login c.signer "a" "b") := by
      rw [login, hbody]
    change _ ∈ Host.exchanges _ (Dialogue.bind (settled (login c r)) fun p => .done (shared p)) ()
    rw [hlogin]
    exact List.mem_cons_self
  obtain ⟨hsame, hbroken⟩ := failures_hidden halike c r ()
  exact ⟨halike, hsame, (hbroken (by decide) _ _ hexchange trivial).1⟩

end Http

end Billboard
