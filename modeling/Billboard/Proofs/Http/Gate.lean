import Billboard.Proofs.Accounts.Operations
import Billboard.Proofs.Http.Hosts

/-! Who is let through to the resources of admins, and what everyone else is told. -/

namespace Billboard.Http

open Text

def Request.IsForAdmins (r : Request) : Prop :=
  (r.path = "/banner".toList ∧ (r.method = .get ∨ r.method = .post)) ∨
  ∃ segment, r.path = "/banner/".toList ++ segment ∧ segment ≠ [] ∧ '/' ∉ segment ∧
    (r.method = .patch ∨ r.method = .delete)

lemma dropFront?_append {α : Type} [DecidableEq α] (front l : List α) :
    dropFront? front (front ++ l) = some l := by
  induction front with
  | nil => rfl
  | cons b front ih => rw [List.cons_append, dropFront?, if_pos rfl, ih]

lemma ofPath?_banner {segment : List Char} (hne : segment ≠ []) (hslash : '/' ∉ segment) :
    Resource.ofPath? ("/banner/".toList ++ segment) = some (.banner segment) := by
  have hfront (s : String) (h : String.ofList ("/banner/".toList ++ segment) = s) :
      "/banner/".toList <+: s.toList := by
    rw [← h]
    exact ⟨segment, String.toList_ofList.symm⟩
  unfold Resource.ofPath?
  split
  · exact absurd (hfront _ ‹_›) (by decide)
  · exact absurd (hfront _ ‹_›) (by decide)
  · exact absurd (hfront _ ‹_›) (by decide)
  · exact absurd (hfront _ ‹_›) (by decide)
  · exact absurd (hfront _ ‹_›) (by decide)
  · exact absurd (hfront _ ‹_›) (by decide)
  · rw [dropFront?_append]
    exact if_neg (not_or.mpr ⟨hne, hslash⟩)

lemma Request.IsForAdmins.resource {r : Request} (hr : r.IsForAdmins) :
    (Resource.ofPath? r.path = some .banners ∧ (r.method = .get ∨ r.method = .post)) ∨
    ∃ segment, Resource.ofPath? r.path = some (.banner segment) ∧
      (r.method = .patch ∨ r.method = .delete) := by
  rcases hr with ⟨hpath, hm⟩ | ⟨segment, hpath, hne, hslash, hm⟩
  · rw [hpath]
    exact .inl ⟨rfl, hm⟩
  · rw [hpath]
    exact .inr ⟨segment, ofPath?_banner hne hslash, hm⟩

lemma finish_forAdmins {r : Request} (hr : r.IsForAdmins) (p : Response) : finish r p = p := by
  have hallow : allowHeader r = [] ∧ r.method ≠ .head := by
    rcases hr.resource with ⟨hpath, hm | hm⟩ | ⟨segment, hpath, hm | hm⟩
    all_goals
      rw [allowHeader, hpath, hm]
      exact ⟨rfl, nofun⟩
  rw [finish, if_neg hallow.2, hallow.1, Response.withHeaders, List.append_nil]

def tokenIn? : Option String → Option String
  | none => none
  | some value => if isPlainValue value && trim value != "" then some (trim value) else none

lemma token?_eq (r : Request) : r.token? = tokenIn? (r.header? "token") := by
  rw [Request.token?]
  cases r.header? "token" <;> rfl

def bearer? (secret : List UInt8) (now : Int) (header : Option String) : Option Role :=
  (tokenIn? header).bind fun token => (Token.verify secret now token).toOption.map (·.role)

def turnedDown : Except AuthError Token.Claims → ApiError
  | .error e => .ofAuth e
  | .ok _ => .forbidden "admin access required"

/-- What is told to those who are not let through. -/
def refusal (secret : List UInt8) (now : Int) (header : Option String) : Response :=
  shared (failed (match tokenIn? header with
    | none => .unauthorized "admin token required"
    | some token => turnedDown (Token.verify secret now token)))

lemma status_ofAuth {e : AuthError} {secret : List UInt8} {now : Int} {token : String}
    (h : Token.verify secret now token = .error e) : (ApiError.ofAuth e).status = 401 := by
  rw [Token.verify] at h
  cases hc : Token.check secret now token with
  | ok c =>
    rw [hc] at h
    cases h
  | error flaw =>
    rw [hc] at h
    cases h
    cases flaw <;> rfl

lemma refusal_status (secret : List UInt8) (now : Int) (header : Option String) :
    (bearer? secret now header = none → (refusal secret now header).status = 401) ∧
      (bearer? secret now header = some .user → (refusal secret now header).status = 403) := by
  unfold bearer? refusal
  cases tokenIn? header with
  | none => exact ⟨fun _ => rfl, nofun⟩
  | some token =>
    change ((Token.verify secret now token).toOption.map (·.role) = none →
        (turnedDown (Token.verify secret now token)).status = 401) ∧
      ((Token.verify secret now token).toOption.map (·.role) = some .user →
        (turnedDown (Token.verify secret now token)).status = 403)
    cases h : Token.verify secret now token with
    | error e => exact ⟨fun _ => status_ofAuth h, nofun⟩
    | ok c => exact ⟨nofun, fun _ => rfl⟩

lemma admitAdmin_eq (signer : Signer) (r : Request) : admitAdmin signer r =
    match tokenIn? (r.header? "token") with
    | none => .done (.error (.unauthorized "admin token required"))
    | some token => .ask .clock fun t =>
      match signer.verify t.seconds token with
      | .error e => .done (.error (turnedDown (.error e)))
      | .ok c => .done (if c.role = .admin then .ok () else .error (turnedDown (.ok c))) := by
  rw [admitAdmin, bearerIsAdmin, token?_eq]
  cases tokenIn? (r.header? "token") with
  | none => rfl
  | some token =>
    refine congrArg (Dialogue.ask Effect.clock) (funext fun t => ?_)
    simp only [pure, Dialogue.bind]
    cases signer.verify t.seconds token with
    | error e => rfl
    | ok c =>
      obtain ⟨sub, role, exp, iat⟩ := c
      cases role <;> rfl

lemma respond_forAdmins (c : Context) {r : Request} (hr : r.IsForAdmins) :
    ∃ f : Except ApiError Unit → Action Outcome, (∀ e, f (.error e) = .done (.error e)) ∧
      respond c r = (do return shared (← settled (admitAdmin c.signer r >>= f))) := by
  rcases hr.resource with ⟨hpath, hm | hm⟩ | ⟨segment, hpath, hm | hm⟩
  all_goals
    rw [respond_eq c (hm ▸ nofun) hpath, handle, hm]
    exact ⟨_, fun _ => rfl, rfl⟩

def judge (rest : Action Response) : Except AuthError Token.Claims → Action Response
  | .error e => .done (shared (failed (turnedDown (.error e))))
  | .ok c => if c.role = .admin then rest else .done (shared (failed (turnedDown (.ok c))))

lemma judge_refused (rest : Action Response) {v : Except AuthError Token.Claims}
    (hv : v.toOption.map (·.role) ≠ some .admin) :
    judge rest v = .done (shared (failed (turnedDown v))) := by
  cases v with
  | error e => rfl
  | ok c => exact if_neg fun hrole => hv (congrArg some hrole)

lemma respond_judge (c : Context) {r : Request} (hr : r.IsForAdmins) :
    ∃ rest, respond c r =
      match tokenIn? (r.header? "token") with
      | none => .done (shared (failed (.unauthorized "admin token required")))
      | some token => .ask .clock fun t =>
        judge rest (Token.verify c.signer.secret t.seconds token) := by
  obtain ⟨f, hf, hrespond⟩ := respond_forAdmins c hr
  -- what is done for an admin is one action, whatever the clock says and the token claims
  refine ⟨do return shared (← settled (f (.ok ()))), ?_⟩
  rw [hrespond, admitAdmin_eq]
  cases tokenIn? (r.header? "token") with
  | none =>
    simp only [settled, bind, Dialogue.bind, hf]
    rfl
  | some token =>
    refine congrArg (Dialogue.ask Effect.clock) (funext fun t => ?_)
    simp only [bind, Signer.verify]
    cases Token.verify c.signer.secret t.seconds token with
    | error e =>
      simp only [Dialogue.bind, hf]
      rfl
    | ok claims =>
      rw [judge]
      by_cases hrole : claims.role = .admin
      · simp only [hrole, if_true]
        rfl
      · simp only [hrole, if_false, Dialogue.bind, hf]
        rfl

section

variable {σ : Type} {h : Host σ} {s s' : σ} {t : Clock.Timestamp}

lemma response_of_run {c : Context} {r : Request} (hr : r.IsForAdmins) {p : Response}
    (hrun : h.run (respond c r) s = some p) : h.response c r s = p := by
  rw [Host.response, hrun]
  exact finish_forAdmins hr p

lemma response_refused (c : Context) {r : Request} (hr : r.IsForAdmins)
    (hclock : h.answer .clock s = some (t, s'))
    (hbearer : bearer? c.signer.secret t.seconds (r.header? "token") ≠ some .admin) :
    h.response c r s = refusal c.signer.secret t.seconds (r.header? "token") ∧
      ∀ e ∈ h.exchanges (respond c r) s, e.1 = .clock := by
  obtain ⟨rest, hrespond⟩ := respond_judge c hr
  rw [bearer?] at hbearer
  rw [refusal]
  cases htoken : tokenIn? (r.header? "token") with
  | none =>
    rw [htoken] at hrespond
    refine ⟨response_of_run hr (congrArg (h.run · s) hrespond), ?_⟩
    rw [hrespond]
    exact fun e he => (List.not_mem_nil he).elim
  | some token =>
    rw [htoken] at hrespond hbearer
    have hdone := judge_refused rest hbearer
    constructor
    · refine response_of_run hr ?_
      rw [hrespond, Host.run_ask hclock, hdone]
      rfl
    · rw [hrespond, Host.exchanges_ask hclock, hdone]
      intro e he
      rw [List.mem_singleton.mp he]

lemma bearer_of_exchange (c : Context) {r : Request} (hr : r.IsForAdmins)
    {e : (q : Effect) × Option q.Answer} (he : e ∈ h.exchanges (respond c r) s)
    (hclock : e.1 ≠ .clock) : ∃ t s', h.answer .clock s = some (t, s') ∧
      bearer? c.signer.secret t.seconds (r.header? "token") = some .admin := by
  cases ha : h.answer .clock s with
  | some p =>
    refine ⟨p.1, p.2, rfl, ?_⟩
    by_contra hbearer
    exact hclock ((response_refused c hr ha hbearer).2 e he)
  | none =>
    obtain ⟨rest, hrespond⟩ := respond_judge c hr
    rw [hrespond] at he
    cases htoken : tokenIn? (r.header? "token") with
    | none =>
      rw [htoken] at he
      exact (List.not_mem_nil he).elim
    | some token =>
      rw [htoken, Host.exchanges, ha] at he
      rw [List.mem_singleton.mp he] at hclock
      exact (hclock rfl).elim

end

/-- Only the bearer of an admin's token comes to the stores through the resources of admins.
Everyone else is told the same, whatever the request asks for. -/
theorem admins_only {σ : Type} (h : Host σ) (c : Context) {r : Request} (hr : r.IsForAdmins)
    (s : σ) :
    let bearer (t : Clock.Timestamp) := bearer? c.signer.secret t.seconds (r.header? "token")
    let told (t : Clock.Timestamp) := refusal c.signer.secret t.seconds (r.header? "token")
    (∀ t s', h.answer .clock s = some (t, s') → bearer t ≠ some .admin →
      h.response c r s = told t ∧ ∀ e ∈ h.exchanges (respond c r) s, e.1 = .clock) ∧
    (∀ t, (bearer t = none → (told t).status = 401) ∧
      (bearer t = some .user → (told t).status = 403)) ∧
    (∀ e ∈ h.exchanges (respond c r) s, e.1 ≠ .clock →
      ∃ t s', h.answer .clock s = some (t, s') ∧ bearer t = some .admin) ∧
    ∀ (d : Deployment) (timeout : Nat), timeout ≠ 0 → bearer d.present ≠ some .admin →
      (d.request c timeout r).1 = told d.present := by
  intro bearer told
  refine ⟨fun t s' ha hb => response_refused c hr ha hb, fun t => refusal_status _ _ _,
    fun e he hclock => bearer_of_exchange c hr he hclock, fun d timeout ht hb => ?_⟩
  have hlate : d.now < d.now + timeout := Nat.lt_add_of_pos_right (Nat.pos_of_ne_zero ht)
  rw [Deployment.request_eq d c r ht]
  exact (response_refused c hr (Deployment.host_clock d hlate) hb).1

theorem admins_only_junk :
    let c : Context := ⟨⟨[1], 60⟩, 100⟩
    let r : Request := { method := .delete, path := "/banner/%ff".toList
                         headers := [("token", " junk ")] }
    let d : Deployment := { present := ⟨0, 0⟩, salt := .replicate 16 0, cache := { ttl := 60000 } }
    let told := refusal [1] 0 (some " junk ")
    r.IsForAdmins ∧ bearer? [1] 0 (some " junk ") = none ∧ (d.request c 1000 r).1 = told ∧
      told.status = 401 := by
  intro c r d told
  have hr : r.IsForAdmins :=
    .inr ⟨"%ff".toList, rfl, by decide, by decide, .inr rfl⟩
  have hbearer : bearer? [1] 0 (some " junk ") = none := by
    decide +kernel
  have hgate := admins_only (Deployment.host 1000) c hr d
  refine ⟨hr, hbearer, hgate.2.2.2 d 1000 (by decide) ?_, (hgate.2.1 ⟨0, 0⟩).1 hbearer⟩
  exact fun h => nomatch hbearer.symm.trans h

end Billboard.Http
