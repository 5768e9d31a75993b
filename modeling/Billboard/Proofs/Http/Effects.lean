import Billboard.Proofs.Http.Gate
import Billboard.Proofs.Http.Sites
import Billboard.Proofs.Store.Catalog

/-! What requests change in a server that keeps everything in memory. -/

namespace Billboard

def Http.Request.Writes (r : Request) : Prop :=
  r.method = .patch ∨ r.method = .delete ∨ (r.method = .post ∧
    (Resource.ofPath? r.path = some .banners ∨ Resource.ofPath? r.path = some .accounts))

lemma Http.Request.Writes.not_get {r : Request} (h : r.Writes) : r.method ≠ .get := by
  rcases h with hm | hm | ⟨hm, -⟩ <;> rw [hm] <;> nofun

namespace Site

variable {s t : Site}

section

open Http

variable (c : Context) (r : Request)

lemma reading_list (request : Service.ReadRequest) : Reading (Service.list request) := by
  have hstore : Reading (Service.listFromStore request) :=
    reading_ask trivial fun a => by cases a <;> exact reading_done _
  unfold Service.list
  split
  · exact hstore
  · refine reading_ask trivial fun a => ?_
    cases a with
    | ok b => exact reading_done _
    | error e => exact hstore

lemma reading_bearerIsAdmin (signer : Signer) (missing : String) :
    Reading (bearerIsAdmin signer r missing) := by
  unfold bearerIsAdmin
  split
  · exact reading_done _
  · rw [Service.isAdmin_eq]
    refine reading_ask trivial fun t => ?_
    simp only [Dialogue.bind]
    split <;> exact reading_done _

lemma reading_admitAdmin (signer : Signer) : Reading (admitAdmin signer r) := by
  refine (reading_bearerIsAdmin r signer _).bind fun a => ?_
  rcases a with e | admin
  · exact reading_done _
  · cases admin <;> exact reading_done _

lemma reading_userBanner : Reading (userBanner c r) := by
  refine (reading_bearerIsAdmin r c.signer _).bind fun a => ?_
  cases a with
  | error e => exact reading_done _
  | ok admin =>
    simp only
    split
    · exact reading_done _
    · refine (Reading.bind (reading_list _) fun bs => ?_).bind fun b => ?_
      · rcases bs with e | _ | ⟨b, rest⟩
        · exact reading_done _
        · exact reading_done _
        · exact reading_ask trivial fun i => reading_done _
      · cases b <;> exact reading_done _

lemma reading_listBanners : Reading (listBanners c r) := by
  refine (reading_admitAdmin r c.signer).bind fun a => ?_
  cases a with
  | error e => exact reading_done _
  | ok u =>
    simp only
    split
    · exact reading_done _
    · refine (reading_list _).bind fun bs => ?_
      cases bs <;> exact reading_done _

lemma reading_readiness : Reading readiness := by
  refine reading_ask trivial fun a => reading_ask trivial fun b => ?_
  cases a <;> cases b <;> exact reading_done _

lemma reading_login : Reading (login c r) := by
  unfold login
  split
  · exact reading_done _
  · refine Reading.bind ?_ fun _ => reading_done _
    rw [Service.login_eq]
    refine reading_ask trivial fun a => ?_
    rcases a with e | _ | a
    · exact reading_done _
    · exact reading_done _
    · simp only
      split
      · exact reading_done _
      · exact reading_done _
      · exact reading_ask trivial fun t => reading_done _

lemma reading_settled {a : Action Outcome} (ha : Reading a) : Reading (settled a) := by
  refine ha.bind fun o => ?_
  cases o <;> exact reading_done _

lemma reading_respond (hr : ¬r.Writes) : Reading (respond c r) := by
  unfold respond
  split_ifs
  · exact reading_done _
  · split
    · exact reading_done _
    · rename_i resource hpath
      refine Reading.bind ?_ fun _ => reading_done _
      unfold handle
      split
      · rename_i htakes
        cases resource with
        | health => exact reading_done _
        | readiness => exact reading_readiness
        | userBanner => exact reading_settled (reading_userBanner c r)
        | banners =>
          refine reading_settled ?_
          split
          · rename_i hpost
            exact (hr (.inr (.inr ⟨hpost, .inl hpath⟩))).elim
          · exact reading_listBanners c r
        | banner segment =>
          have hm : r.method = .patch ∨ r.method = .delete := by
            simpa [Resource.takes] using htakes
          exact (hr (or_assoc.mp (.inl hm))).elim
        | tokens => exact reading_settled (reading_login c r)
        | accounts =>
          have hpost : r.method = .post := by simpa [Resource.takes] using htakes
          exact (hr (.inr (.inr ⟨hpost, .inr hpath⟩))).elim
      · exact reading_done _

end

def Created (s : Site) (b : Banner) (t : Site) : Prop :=
  b.id = s.catalog.nextId ∧ t.catalog = ⟨s.catalog.rows ++ [b], s.catalog.nextId + 1⟩ ∧
    t.accounts = s.accounts ∧ ∃ time, s.now ≤ time ∧ time ≤ t.now ∧ t.cache = s.cache.put b time

def Revised (id : Int) (s t : Site) : Prop :=
  (∃ b ∈ s.catalog.rows, b.id = id) ∧
    (∃ d time, t.catalog = ⟨s.catalog.rows.map fun b => if b.id = id then b.revise d time else b,
      s.catalog.nextId⟩) ∧
    t.accounts = s.accounts ∧ t.cache = s.cache

def Removed (id : Int) (s t : Site) : Prop :=
  (∃ b ∈ s.catalog.rows, b.id = id) ∧
    t.catalog = ⟨s.catalog.rows.filter fun b => b.id != id, s.catalog.nextId⟩ ∧
    t.accounts = s.accounts ∧
    t.cache = { s.cache with payloads := s.cache.payloads.erase (Banner.payloadKey id) }

def Enrolled (s t : Site) : Prop :=
  (∃ a, a.id = s.accounts.nextId ∧
    t.accounts = ⟨s.accounts.rows ++ [a], s.accounts.nextId + 1⟩) ∧
    t.catalog = s.catalog ∧ t.cache = s.cache

lemma delayed_created : Delayed Created := by
  rintro s ms b t ⟨hid, hcatalog, haccounts, time, hle, hcache⟩
  exact ⟨hid, hcatalog, haccounts, time, (Nat.le_add_right _ _).trans hle, hcache⟩

lemma makes_create (d : Banner.Draft) : Makes Created (Service.create d) := by
  unfold Service.create
  split
  · exact makes_error _
  · refine makes_ask (q := .clock) (fun _ => rfl) delayed_created fun time => ?_
    rintro s o t ⟨_, ⟨m, rfl⟩, _, ⟨n, visit, rfl⟩, h⟩
    cases h
    refine ⟨rfl, rfl, rfl, _, ?_, Nat.le_refl _, rfl⟩
    exact Nat.le_trans (Nat.le_add_right _ _) (Nat.le_add_right _ _)

lemma makes_update (id : Int) (d : Banner.Draft) :
    Makes (fun s _ t => Revised id s t) (Service.update id d) := by
  unfold Service.update
  split
  · exact makes_error _
  · refine makes_ask (q := .clock) (fun _ => rfl) (fun _ _ _ _ h => h) fun time => ?_
    rintro s o t ⟨_, ⟨m, rfl⟩, h⟩
    simp only [Catalog.answer, Catalog.update] at h
    cases hrow : (s.wait m).catalog.find? id with
    | none =>
      rw [hrow] at h
      cases h
      exact ⟨m, rfl⟩
    | some b =>
      rw [hrow] at h
      cases h
      exact ⟨⟨b, Catalog.of_find? hrow⟩, ⟨_, _, rfl⟩, rfl, rfl⟩

lemma makes_delete (id : Int) : Makes (fun s _ t => Removed id s t) (Service.delete id) := by
  rintro s o t ⟨_, ⟨m, rfl⟩, h⟩
  simp only [Catalog.answer, Catalog.delete] at h
  cases hrow : (s.wait m).catalog.find? id with
  | none =>
    rw [hrow] at h
    cases h
    exact ⟨m, rfl⟩
  | some b =>
    rw [hrow] at h
    obtain ⟨_, ⟨n, visit, rfl⟩, h⟩ := h
    cases h
    refine ⟨⟨b, Catalog.of_find? hrow⟩, rfl, rfl, ?_⟩
    exact congrArg Prod.snd (LocalCache.delete_eq _ id _)

variable (signer : Signer)

lemma makes_enroll (r : Service.AccountRequest) :
    Makes (fun s _ t => Enrolled s t) (Service.enroll signer r) := by
  refine makes_ask (q := .salt) (fun _ => rfl) (fun _ _ _ _ h => h) fun salt => ?_
  rintro s o t ⟨_, ⟨m, rfl⟩, h⟩
  simp only [Accounts.answer, Accounts.create] at h
  cases hrow : (s.wait m).accounts.find? r.username with
  | some a =>
    rw [hrow] at h
    cases h
    exact ⟨m, rfl⟩
  | none =>
    rw [hrow] at h
    obtain ⟨⟨time, _⟩, ⟨n, rfl⟩, h⟩ := h
    cases h
    exact ⟨⟨.ofDraft s.accounts.nextId _, rfl, rfl⟩, rfl, rfl⟩

lemma makes_register (r : Service.AccountRequest) :
    Makes (fun s _ t => Enrolled s t) (Service.register signer r) := by
  rcases Service.register_cases signer r with ⟨e, he⟩ | ⟨-, he⟩ | ⟨token, -, he⟩
  · rw [he]
    exact makes_error e
  · rw [he]
    exact makes_enroll signer r
  · rw [he]
    refine makes_ask (q := .clock) (fun _ => rfl) (fun _ _ _ _ h => h) fun t => ?_
    unfold Service.enrollBy
    split
    · exact makes_error _
    · split_ifs
      · exact makes_enroll signer r
      · exact makes_error _

section

open Http

variable (c : Context) (r : Request)

lemma makes_admitAdmin (signer : Signer) :
    Makes (fun s _ t => Waited s t) (admitAdmin signer r) := by
  rw [admitAdmin_eq]
  split
  · exact makes_error _
  · refine makes_ask (q := .clock) (fun _ => rfl) (fun _ _ _ _ h => h.of_wait) fun t => ?_
    split
    · exact makes_error _
    · split_ifs
      · intro s o t h
        cases h
        exact .refl s
      · exact makes_error _

lemma makes_admitted {change : Site → Response → Site → Prop} (hdelay : Delayed change)
    {f : Except ApiError Unit → Action Outcome} (herror : ∀ e, f (.error e) = .done (.error e))
    (hok : Makes change (f (.ok ()))) : Makes change (admitAdmin c.signer r >>= f) := by
  intro s o t h
  obtain ⟨⟨x, u⟩, hx, ho⟩ := Dialogue.mem_outcomes_bind.mp h
  have hwaited := makes_admitAdmin r c.signer s x u hx
  cases x with
  | error e =>
    rw [herror] at ho
    cases ho
    exact hwaited
  | ok v =>
    obtain ⟨m, rfl⟩ := hwaited
    have hmade := hok _ o t ho
    cases o with
    | error e => exact hmade.of_wait
    | ok p => exact hdelay s m p t hmade

def CreatedBy (s : Site) (p : Response) (t : Site) : Prop :=
  ∃ b, p = .json 201 (Json.writeRecord (Api.CreatedBanner.fields ⟨b.id⟩)) ∧ Created s b t

lemma makes_createBanner : Makes CreatedBy (createBanner c r) := by
  refine makes_admitted c r ?_ (fun _ => rfl) ?_
  · rintro s ms p t ⟨b, hp, hb⟩
    exact ⟨b, hp, delayed_created s ms b t hb⟩
  · simp only
    split
    · exact makes_error _
    · refine (makes_create _).bind (fun e => ⟨_, rfl⟩) fun b => ⟨_, rfl, ?_⟩
      exact fun s t h => ⟨b, rfl, h⟩

lemma makes_updateBanner (segment : List Char) : Makes
    (fun s p t => p = .plain 200 ∧ ∃ id, readId segment = .ok id ∧ Revised id s t)
    (updateBanner c segment r) := by
  refine makes_admitted c r (fun _ _ _ _ h => h) (fun _ => rfl) ?_
  simp only
  split
  · exact makes_error _
  · exact makes_error _
  · rename_i id d hid _
    refine (makes_update id d).bind (fun e => ⟨_, rfl⟩) fun _ => ⟨_, rfl, ?_⟩
    exact fun s t h => ⟨rfl, id, hid, h⟩

lemma makes_deleteBanner (segment : List Char) : Makes
    (fun s p t => p = .plain 204 ∧ ∃ id, readId segment = .ok id ∧ Removed id s t)
    (deleteBanner c segment r) := by
  refine makes_admitted c r (fun _ _ _ _ h => h) (fun _ => rfl) ?_
  simp only
  split
  · exact makes_error _
  · rename_i id hid
    refine (makes_delete id).bind (fun e => ⟨_, rfl⟩) fun _ => ⟨_, rfl, ?_⟩
    exact fun s t h => ⟨rfl, id, hid, h⟩

lemma makes_createAccount : Makes
    (fun s p t => p.status = 201 ∧ Enrolled s t) (createAccount c r) := by
  unfold createAccount
  split
  · exact makes_error _
  · refine (makes_register c.signer _).bind (fun e => ⟨_, rfl⟩) fun token => ⟨_, rfl, ?_⟩
    exact fun s t h => ⟨rfl, h⟩

inductive Wrote (r : Request) (s : Site) : Response → Site → Prop
  | created {p t} (hm : r.method = .post) (hpath : Resource.ofPath? r.path = some .banners)
    (h : CreatedBy s p t) : Wrote r s (shared p) t
  | revised {segment id t} (hm : r.method = .patch)
    (hpath : Resource.ofPath? r.path = some (.banner segment)) (hid : readId segment = .ok id)
    (h : Revised id s t) : Wrote r s (shared (.plain 200)) t
  | removed {segment id t} (hm : r.method = .delete)
    (hpath : Resource.ofPath? r.path = some (.banner segment)) (hid : readId segment = .ok id)
    (h : Removed id s t) : Wrote r s (shared (.plain 204)) t
  | enrolled {p t} (hm : r.method = .post) (hpath : Resource.ofPath? r.path = some .accounts)
    (hp : p.status = 201) (h : Enrolled s t) : Wrote r s (shared p) t

lemma Wrote.accepted {p : Response} (h : Wrote r s p t) : r.method ≠ .get ∧ p.status < 400 := by
  cases h with
  | created hm hpath hb =>
    obtain ⟨b, rfl, hb⟩ := hb
    rw [hm]
    exact ⟨nofun, (by decide : 201 < 400)⟩
  | revised hm =>
    rw [hm]
    exact ⟨nofun, by decide⟩
  | removed hm =>
    rw [hm]
    exact ⟨nofun, by decide⟩
  | @enrolled q _ hm hpath hp =>
    have hstatus : q.status < 400 := by
      rw [hp]
      decide
    rw [hm]
    exact ⟨nofun, hstatus⟩

section

variable {r} {p : Response}

lemma Wrote.of_post_banners (h : Wrote r s p t) (hm : r.method = .post)
    (hpath : Resource.ofPath? r.path = some .banners) : ∃ q, p = shared q ∧ CreatedBy s q t := by
  cases h with
  | created _ _ hb => exact ⟨_, rfl, hb⟩
  | revised hm' => exact nomatch hm.symm.trans hm'
  | removed hm' => exact nomatch hm.symm.trans hm'
  | enrolled _ hpath' => exact nomatch hpath.symm.trans hpath'

lemma Wrote.of_patch (h : Wrote r s p t) (hm : r.method = .patch) : ∃ segment id,
    Resource.ofPath? r.path = some (.banner segment) ∧ readId segment = .ok id ∧
      Revised id s t := by
  cases h with
  | revised _ hpath hid hb => exact ⟨_, _, hpath, hid, hb⟩
  | created hm' => exact nomatch hm.symm.trans hm'
  | removed hm' => exact nomatch hm.symm.trans hm'
  | enrolled hm' => exact nomatch hm.symm.trans hm'

lemma Wrote.of_delete (h : Wrote r s p t) (hm : r.method = .delete) : ∃ segment id,
    Resource.ofPath? r.path = some (.banner segment) ∧ readId segment = .ok id ∧
      Removed id s t := by
  cases h with
  | removed _ hpath hid hb => exact ⟨_, _, hpath, hid, hb⟩
  | created hm' => exact nomatch hm.symm.trans hm'
  | revised hm' => exact nomatch hm.symm.trans hm'
  | enrolled hm' => exact nomatch hm.symm.trans hm'

lemma Wrote.of_post_accounts (h : Wrote r s p t) (hm : r.method = .post)
    (hpath : Resource.ofPath? r.path = some .accounts) : Enrolled s t := by
  cases h with
  | enrolled _ _ _ ha => exact ha
  | created _ hpath' => exact nomatch hpath.symm.trans hpath'
  | revised hm' => exact nomatch hm.symm.trans hm'
  | removed hm' => exact nomatch hm.symm.trans hm'

end

lemma Waited.untouched (h : Waited s t) : Untouched s t := by
  obtain ⟨ms, rfl⟩ := h
  exact .wait s ms

lemma status_failed (e : ApiError) : 400 ≤ (shared (failed e)).status := by
  change 400 ≤ e.status
  cases e <;> simp only [ApiError.status, Nat.reduceLeDiff]

lemma outcomes_settled {change : Site → Response → Site → Prop} {a : Action Outcome}
    (ha : Makes change a) {p : Response}
    (h : (p, t) ∈ (do return shared (← settled a) : Action Response).outcomes answers s) :
    (Untouched s t ∧ 400 ≤ p.status) ∨ ∃ q, p = shared q ∧ change s q t := by
  obtain ⟨⟨x, u⟩, hx, hp⟩ := Dialogue.mem_outcomes_bind.mp h
  obtain ⟨⟨o, v⟩, ho, hq⟩ := Dialogue.mem_outcomes_bind.mp hx
  have hmade := ha s o v ho
  cases o with
  | error e =>
    cases hq
    cases hp
    exact .inl ⟨hmade.untouched, status_failed e⟩
  | ok q =>
    cases hq
    cases hp
    exact .inr ⟨_, rfl, hmade⟩

lemma outcomes_writes (hr : r.Writes) {p : Response}
    (h : (p, t) ∈ (respond c r).outcomes answers s) :
    (Untouched s t ∧ 400 ≤ p.status) ∨ Wrote r s p t := by
  have hm : r.method ≠ .options := by
    rcases hr with hm | hm | ⟨hm, -⟩ <;> rw [hm] <;> nofun
  cases hpath : Resource.ofPath? r.path with
  | none =>
    rw [respond, if_neg hm, hpath] at h
    cases h
    exact .inl ⟨.refl s, by decide⟩
  | some resource =>
    rw [respond_eq c hm hpath] at h
    rcases hr with hm | hm | ⟨hm, hresource⟩
    · cases resource with
      | banner segment =>
        rw [handle, hm] at h
        refine (outcomes_settled (makes_updateBanner c r segment) h).imp_right ?_
        rintro ⟨_, rfl, rfl, id, hid, hrevised⟩
        exact .revised hm hpath hid hrevised
      | _ =>
        rw [handle, hm] at h
        cases h
        exact .inl ⟨.refl s, by decide⟩
    · cases resource with
      | banner segment =>
        rw [handle, hm] at h
        refine (outcomes_settled (makes_deleteBanner c r segment) h).imp_right ?_
        rintro ⟨_, rfl, rfl, id, hid, hremoved⟩
        exact .removed hm hpath hid hremoved
      | _ =>
        rw [handle, hm] at h
        cases h
        exact .inl ⟨.refl s, by decide⟩
    · rw [hpath] at hresource
      rcases hresource with hresource | hresource
      · cases hresource
        rw [handle, hm] at h
        refine (outcomes_settled (makes_createBanner c r) h).imp_right ?_
        rintro ⟨_, rfl, hcreated⟩
        exact .created hm hpath hcreated
      · cases hresource
        rw [handle, hm] at h
        refine (outcomes_settled (makes_createAccount c r) h).imp_right ?_
        rintro ⟨_, rfl, hp, henrolled⟩
        exact .enrolled hm hpath hp henrolled

lemma finish_status (p : Response) : (finish r p).status = p.status := by
  unfold finish
  split_ifs <;> rfl

lemma finish_body (hm : r.method ≠ .head) (p : Response) : (finish r p).body = p.body := by
  rw [finish, if_neg hm]
  rfl

/-- The stores are the same, and the cache answers all that it is asked later as it would have
before. -/
structure Unchanged (s t : Site) : Prop where
  catalog : t.catalog = s.catalog
  accounts : t.accounts = s.accounts
  replies : ∀ uses, (TimedCache.mk t.cache t.now).replies uses =
    (TimedCache.mk s.cache t.now).replies uses

lemma Untouched.unchanged (h : Untouched s t) : Unchanged s t :=
  ⟨h.catalog, h.accounts, h.cache.replies⟩

lemma Responds.cases {p : Response} (h : s.Responds c r p t) : ∃ q, p = finish r q ∧
    ((Untouched s t ∧ (r.Writes → 400 ≤ q.status)) ∨ Wrote r s q t ∨
      (r.Writes ∧ q.status = 408)) := by
  obtain ⟨o, ho, rfl⟩ := h
  refine ⟨_, rfl, ?_⟩
  by_cases hr : r.Writes
  · cases o with
    | none => exact .inr (.inr ⟨hr, rfl⟩)
    | some p =>
      rcases outcomes_writes c r hr (mem_endings_some.mp ho) with ⟨hs, hp⟩ | hwrote
      · exact .inl ⟨hs, fun _ => hp⟩
      · exact .inr (.inl hwrote)
  · exact .inl ⟨(reading_respond c r hr).untouched ho, fun h => (hr h).elim⟩

/-- A request that is rejected or that reads changes nothing, and one that succeeds changes only
what it names. -/
theorem requests_change {s t : Site} {p : Response} (h : s.Responds c r p t) :
    ((400 ≤ p.status ∧ p.status < 500 ∧ p.status ≠ 408) ∨ r.method = .get → Unchanged s t) ∧
    (r.method = .post ∧ Resource.ofPath? r.path = some .banners ∧ p.status = 201 →
      ∃ b, p.body = Json.writeRecord (Api.CreatedBanner.fields ⟨b.id⟩) ∧ Created s b t) ∧
    (r.method = .patch ∧ p.status = 200 → ∃ segment id,
      Resource.ofPath? r.path = some (.banner segment) ∧ readId segment = .ok id ∧
        Revised id s t) ∧
    (r.method = .delete ∧ p.status = 204 → ∃ segment id,
      Resource.ofPath? r.path = some (.banner segment) ∧ readId segment = .ok id ∧
        Removed id s t) ∧
    (r.method = .post ∧ Resource.ofPath? r.path = some .accounts ∧ p.status = 201 →
      Enrolled s t) := by
  obtain ⟨q, rfl, hs⟩ := h.cases
  rw [finish_status]
  -- a request that is made to change something and is not refused has changed it
  have hwrote (hr : r.Writes) (hq : q.status < 400) : Wrote r s q t := by
    rcases hs with ⟨-, hstatus⟩ | hwrote | ⟨-, hstatus⟩
    · exact (Nat.not_le.mpr hq (hstatus hr)).elim
    · exact hwrote
    · omega
  refine ⟨fun hp => ?_, ?_, ?_, ?_, ?_⟩
  · rcases hs with ⟨huntouched, -⟩ | hwrote | ⟨hr, hstatus⟩
    · exact huntouched.unchanged
    · obtain ⟨hget, hstatus⟩ := hwrote.accepted
      rcases hp with ⟨hp, -, -⟩ | hm
      · exact (Nat.not_le.mpr hstatus hp).elim
      · exact (hget hm).elim
    · rcases hp with ⟨-, -, hp⟩ | hm
      · exact (hp hstatus).elim
      · exact (hr.not_get hm).elim
  · rintro ⟨hm, hpath, hq⟩
    obtain ⟨_, rfl, b, rfl, hb⟩ :=
      (hwrote (.inr (.inr ⟨hm, .inl hpath⟩)) (by omega)).of_post_banners hm hpath
    exact ⟨b, finish_body r (hm ▸ nofun) _, hb⟩
  · rintro ⟨hm, hq⟩
    exact (hwrote (.inl hm) (by omega)).of_patch hm
  · rintro ⟨hm, hq⟩
    exact (hwrote (.inr (.inl hm)) (by omega)).of_delete hm
  · rintro ⟨hm, hpath, hq⟩
    exact (hwrote (.inr (.inr ⟨hm, .inr hpath⟩)) (by omega)).of_post_accounts hm hpath

end

theorem requests_change_login :
    let d : Deployment := { present := ⟨0, 0⟩, salt := .replicate 16 0, cache := { ttl := 60000 }
                            catalog := ⟨[], 9⟩, accounts := ⟨[], 5⟩ }
    let c : Http.Context := ⟨⟨[1], 60⟩, 100⟩
    let r : Http.Request := { method := .post, path := "/auth".toList
                              headers := [("content-type", "application/json")]
                              body := "[\"a\",\"b\"]".toUTF8 }
    let o := d.request c 1000 r
    d.site.Responds c r o.1 o.2.site ∧ o.1.status = 401 ∧ Unchanged d.site o.2.site := by
  intro d c r o
  have hcalm : d.Calm := ⟨rfl, rfl, rfl, rfl, rfl⟩
  have hresponds : d.site.Responds c r o.1 o.2.site := hcalm.responds c r (by decide)
  have hstatus : o.1.status = 401 := by decide +kernel
  refine ⟨hresponds, hstatus, (requests_change c r hresponds).1 (.inl ?_)⟩
  rw [hstatus]
  decide

end Site

end Billboard
