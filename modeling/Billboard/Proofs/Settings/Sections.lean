import Billboard.Proofs.Settings.Paths
import Billboard.Settings

namespace Billboard.Settings

variable {σ τ α β : Type}

def Field.Leaves (f : Field σ) (seen : σ → β) : Prop :=
  ∀ t g, f.tree t = .ok g → ∀ d, seen (g d) = seen d

@[simp] lemma name_defaulted (name : String) (s : Shape α) (put : α → σ → σ) :
    (Field.defaulted name s put).slot.name = name := rfl

@[simp] lemma name_required (name : String) (s : Shape α) (put : α → σ → σ) :
    (Field.required name s put).slot.name = name := rfl

lemma leaves_of_tree {f : Field σ} {s : Shape α} {put : α → σ → σ} {seen : σ → β}
    (htree : f.tree = fun t => (s.tree t).map put) (h : ∀ a d, seen (put a d) = seen d) :
    f.Leaves seen := by
  intro t g hg d
  rw [htree] at hg
  cases ht : s.tree t with
  | error path => simp [ht, Except.map] at hg
  | ok a =>
    simp only [ht, Except.map, Except.ok.injEq] at hg
    rw [← hg]
    exact h a d

@[simp] lemma leaves_defaulted {name : String} {s : Shape α} {put : α → σ → σ} {seen : σ → β}
    (h : ∀ a d, seen (put a d) = seen d) : (Field.defaulted name s put).Leaves seen :=
  leaves_of_tree rfl h

@[simp] lemma leaves_required {name : String} {s : Shape α} {put : α → σ → σ} {seen : σ → β}
    (h : ∀ a d, seen (put a d) = seen d) : (Field.required name s put).Leaves seen :=
  leaves_of_tree rfl h

def Shape.Reads (whole : Shape σ) (path : List String) (take : Tree → Option α)
    (get : σ → Option α) : Prop :=
  ∀ t d u, Tree.Neat t → whole.tree t = .ok d → t.at? path = some u → u ≠ .nil →
    ∃ a, take u = some a ∧ get d = some a

namespace Shape

variable {path : List String} {take : Tree → Option α} {get : σ → Option α}

lemma reads_self {s : Shape α} (h : s.tree = fun t => misfit (take t)) :
    s.Reads [] take some := by
  intro t d u _ hd hu _
  cases hu
  rw [h] at hd
  cases ht : take t with
  | none => simp [ht, misfit] at hd
  | some a =>
    simp only [ht, misfit, Except.ok.injEq] at hd
    exact ⟨a, rfl, congrArg some hd.symm⟩

lemma Reads.optional {s : Shape σ} (h : s.Reads path take get) :
    (Shape.optional s).Reads path take fun o => o.bind get := by
  intro t d u hneat hd hu hne
  have ht : t ≠ .nil := by
    rintro rfl
    cases path with
    | nil => exact hne (Option.some.inj hu).symm
    | cons k path => cases hu
  have hopt : (Shape.optional s).tree t = (s.tree t).map some := by
    cases t with
    | nil => exact (ht rfl).elim
    | _ => rfl
  rw [hopt] at hd
  cases hs : s.tree t with
  | error e => simp [hs, Except.map] at hd
  | ok a =>
    simp only [hs, Except.map, Except.ok.injEq] at hd
    rw [← hd]
    exact h t a u hneat hs hu hne

end Shape

variable {fields : List (Field σ)} {ms : Members} {draft d : σ} {k : String} {t : Tree}
  {f : Field σ} {seen : σ → β}

lemma Field.put_eq_ok {step : Json.Step} (h : f.put step t draft = .ok d) :
    ∃ g, f.tree t = .ok g ∧ d = g draft := by
  unfold Field.put at h
  split at h
  · rename_i g hg
    cases h
    exact ⟨g, hg, rfl⟩
  · cases h

lemma readMembers_cons (h : readMembers fields ((k, t) :: ms) draft = .ok d) :
    ∃ draft', readMembers fields ms draft' = .ok d ∧
      ((fields.find? (·.slot.name == k) = none ∧ draft' = draft) ∨
        ∃ f g, fields.find? (·.slot.name == k) = some f ∧ f.tree t = .ok g ∧ draft' = g draft) := by
  rw [readMembers] at h
  cases hf : fields.find? (·.slot.name == k) with
  | none =>
    rw [hf] at h
    exact ⟨draft, h, .inl ⟨rfl, rfl⟩⟩
  | some f =>
    simp only [hf] at h
    cases hput : f.put (.field k) t draft with
    | error path => simp only [hput, reduceCtorEq] at h
    | ok draft' =>
      simp only [hput] at h
      obtain ⟨g, hg, hdraft⟩ := Field.put_eq_ok hput
      exact ⟨draft', h, .inr ⟨f, g, rfl, hg, hdraft⟩⟩

lemma seen_readMembers_of_notMem (hleaves : ∀ f ∈ fields, f.slot.name ≠ k → f.Leaves seen)
    (hk : k ∉ ms.map (·.1)) (h : readMembers fields ms draft = .ok d) : seen d = seen draft := by
  induction ms generalizing draft with
  | nil =>
    cases h
    rfl
  | cons m ms ih =>
    obtain ⟨j, u⟩ := m
    rw [List.map_cons, List.mem_cons, not_or] at hk
    obtain ⟨draft', hrest, ⟨-, rfl⟩ | ⟨f, g, hf, hg, rfl⟩⟩ := readMembers_cons h
    · exact ih hk.2 hrest
    · have hname : f.slot.name = j := by simpa using List.find?_some hf
      rw [ih hk.2 hrest]
      exact hleaves f (List.mem_of_find?_eq_some hf) (hname ▸ Ne.symm hk.1) u g hg draft

lemma seen_readMembers (hfield : fields.find? (·.slot.name == k) = some f)
    (hleaves : ∀ f ∈ fields, f.slot.name ≠ k → f.Leaves seen) (hkeys : (ms.map (·.1)).Nodup)
    (ht : ms.get? k = some t) (h : readMembers fields ms draft = .ok d) :
    ∃ g d', f.tree t = .ok g ∧ seen d = seen (g d') := by
  induction ms generalizing draft with
  | nil => cases ht
  | cons m ms ih =>
    obtain ⟨j, u⟩ := m
    rw [List.map_cons, List.nodup_cons] at hkeys
    rw [Members.get?_cons] at ht
    obtain ⟨draft', hrest, hstep⟩ := readMembers_cons h
    split_ifs at ht with hj
    · cases ht
      subst hj
      rcases hstep with ⟨hnone, -⟩ | ⟨f', g, hf', hg, rfl⟩
      · cases hnone.symm.trans hfield
      · -- no later member has this key again
        cases hf'.symm.trans hfield
        exact ⟨g, draft, hg, seen_readMembers_of_notMem hleaves hkeys.1 hrest⟩
    · exact ih hkeys.2 ht hrest

lemma Shape.reads_record {title : String} {start : σ} {inner : Shape τ} {put : τ → σ → σ}
    (seen : σ → τ) {path : List String} {take : Tree → Option α} {get : τ → Option α}
    (hfield : fields.find? (·.slot.name == k) = some f)
    (htree : f.tree = fun t => (inner.tree t).map put) (hseen : ∀ a d, seen (put a d) = a)
    (hleaves : ∀ f ∈ fields, f.slot.name ≠ k → f.Leaves seen) (h : inner.Reads path take get) :
    (Shape.record title fields start).Reads (k :: path) take fun d => get (seen d) := by
  intro t d u hneat hd hu hne
  cases t with
  | table ms =>
    have hread : readMembers fields ms start = .ok d := by
      simp only [Shape.record] at hd
      split at hd
      · exact hd
      · split at hd <;> cases hd
    obtain ⟨v, hv, hu⟩ := Option.bind_eq_some_iff.mp hu
    obtain ⟨g, d', hg, hgd⟩ := seen_readMembers hfield hleaves hneat.keys hv hread
    rw [htree] at hg
    cases hi : inner.tree v with
    | error e => simp [hi, Except.map] at hg
    | ok a =>
      simp only [hi, Except.map, Except.ok.injEq] at hg
      rw [← hg, hseen] at hgd
      show ∃ b, take u = some b ∧ get (seen d) = some b
      rw [hgd]
      exact h v a u (hneat.member _ (Members.mem_of_get? hv)) hi hu hne
  | _ => cases hu

open Text (IntRange)

def texts : List (List String × (Settings → Option String)) :=
  [(["server", "host"], fun s => some s.server.host),
   (["storage", "postgres", "url"], fun s => some s.storage.postgres.url),
   (["redis", "url"], fun s => some s.redis.url),
   (["auth", "secret"], fun s => some s.auth.secret),
   (["logging", "level"], fun s => some s.logging.level),
   (["bootstrap", "admin_user", "username"], fun s => s.bootstrap.adminUser.map (·.username)),
   (["bootstrap", "admin_user", "password"], fun s => s.bootstrap.adminUser.map (·.password))]

structure NumberSetting where
  path : List String
  range : IntRange
  get : Settings → Option Nat

def numbers : List NumberSetting :=
  [⟨["server", "port"], .u16, fun s => some s.server.port⟩,
   ⟨["server", "request_timeout_ms"], .u64, fun s => some s.server.requestTimeout⟩,
   ⟨["server", "shutdown_grace_ms"], .u64, fun s => some s.server.shutdownGrace⟩,
   ⟨["server", "body_limit_bytes"], .u64, fun s => some s.server.bodyLimit⟩,
   ⟨["storage", "postgres", "pool_size"], .u32, fun s => some s.storage.postgres.poolSize⟩,
   ⟨["storage", "postgres", "connect_timeout_ms"], .u64,
     fun s => some s.storage.postgres.connectTimeout⟩,
   ⟨["storage", "postgres", "idle_timeout_ms"], .u64, fun s => s.storage.postgres.idleTimeout⟩,
   ⟨["redis", "pool_size"], .u64, fun s => some s.redis.poolSize⟩,
   ⟨["redis", "timeout_ms"], .u64, fun s => some s.redis.timeout⟩,
   ⟨["cache", "ttl_secs"], .u64, fun s => some s.cache.ttl⟩,
   ⟨["connect_retry", "initial_delay_ms"], .u64, fun s => some s.connectRetry.initialDelay⟩,
   ⟨["connect_retry", "max_delay_ms"], .u64, fun s => some s.connectRetry.maxDelay⟩,
   ⟨["connect_retry", "max_wait_ms"], .u64, fun s => some s.connectRetry.maxWait⟩,
   ⟨["auth", "token_ttl_secs"], .u64, fun s => some s.auth.tokenTtl⟩]

section

variable {path : List String} {take : Tree → Option α}

lemma reads_server (get : Server → Option α) (h : Server.shape.Reads path take get) :
    shape.Reads ("server" :: path) take fun s => get s.server :=
  Shape.reads_record _ rfl rfl (fun _ _ => rfl) (by simp) h

lemma reads_storage (get : Storage → Option α) (h : Storage.shape.Reads path take get) :
    shape.Reads ("storage" :: path) take fun s => get s.storage :=
  Shape.reads_record _ rfl rfl (fun _ _ => rfl) (by simp) h

lemma reads_postgres (get : Postgres → Option α) (h : Postgres.shape.Reads path take get) :
    shape.Reads ("storage" :: "postgres" :: path) take fun s => get s.storage.postgres :=
  reads_storage _ (Shape.reads_record _ rfl rfl (fun _ _ => rfl) (by simp) h)

lemma reads_redis (get : Redis → Option α) (h : Redis.shape.Reads path take get) :
    shape.Reads ("redis" :: path) take fun s => get s.redis :=
  Shape.reads_record _ rfl rfl (fun _ _ => rfl) (by simp) h

lemma reads_cache (get : Cache → Option α) (h : Cache.shape.Reads path take get) :
    shape.Reads ("cache" :: path) take fun s => get s.cache :=
  Shape.reads_record _ rfl rfl (fun _ _ => rfl) (by simp) h

lemma reads_retry (get : RetryPolicy → Option α) (h : retryShape.Reads path take get) :
    shape.Reads ("connect_retry" :: path) take fun s => get s.connectRetry :=
  Shape.reads_record _ rfl rfl (fun _ _ => rfl) (by simp) h

lemma reads_auth (get : Auth → Option α) (h : Auth.shape.Reads path take get) :
    shape.Reads ("auth" :: path) take fun s => get s.auth :=
  Shape.reads_record _ rfl rfl (fun _ _ => rfl) (by simp) h

lemma reads_logging (get : Logging → Option α) (h : Logging.shape.Reads path take get) :
    shape.Reads ("logging" :: path) take fun s => get s.logging :=
  Shape.reads_record _ rfl rfl (fun _ _ => rfl) (by simp) h

lemma reads_adminUser (get : AdminUser → Option α) (h : AdminUser.shape.Reads path take get) :
    shape.Reads ("bootstrap" :: "admin_user" :: path) take
      fun s => s.bootstrap.adminUser.bind get := by
  have hbootstrap : Bootstrap.shape.Reads ("admin_user" :: path) take
      fun b => b.adminUser.bind get :=
    Shape.reads_record _ rfl rfl (fun _ _ => rfl) (by simp) h.optional
  exact Shape.reads_record _ rfl rfl (fun _ _ => rfl) (by simp) hbootstrap

end

lemma reads_text : Shape.text.Reads [] Tree.toText? some := Shape.reads_self rfl

lemma reads_texts : ∀ x ∈ texts, shape.Reads x.1 Tree.toText? x.2 := by
  simp only [texts, List.forall_mem_cons, Option.map_eq_bind]
  refine ⟨reads_server (fun s => some s.host) ?_, reads_postgres (fun s => some s.url) ?_,
    reads_redis (fun s => some s.url) ?_, reads_auth (fun s => some s.secret) ?_,
    reads_logging (fun s => some s.level) ?_, reads_adminUser (fun s => some s.username) ?_,
    reads_adminUser (fun s => some s.password) ?_, List.forall_mem_nil _⟩
  all_goals exact Shape.reads_record _ rfl rfl (fun _ _ => rfl) (by simp) reads_text

lemma reads_numbers : ∀ x ∈ numbers, shape.Reads x.path (Tree.toNat? x.range) x.get := by
  simp only [numbers, List.forall_mem_cons]
  have hu16 : Shape.u16.Reads [] (Tree.toNat? .u16) some := Shape.reads_self rfl
  have hu32 : Shape.u32.Reads [] (Tree.toNat? .u32) some := Shape.reads_self rfl
  have hu64 : Shape.u64.Reads [] (Tree.toNat? .u64) some := Shape.reads_self rfl
  have husize : Shape.usize.Reads [] (Tree.toNat? .u64) some := Shape.reads_self rfl
  have hidle : (Shape.optional .u64).Reads [] (Tree.toNat? .u64) id := by
    simpa [Function.id_def] using hu64.optional
  refine ⟨reads_server (fun s => some s.port) ?_, reads_server (fun s => some s.requestTimeout) ?_,
    reads_server (fun s => some s.shutdownGrace) ?_, reads_server (fun s => some s.bodyLimit) ?_,
    reads_postgres (fun s => some s.poolSize) ?_,
    reads_postgres (fun s => some s.connectTimeout) ?_,
    reads_postgres (fun s => s.idleTimeout) ?_, reads_redis (fun s => some s.poolSize) ?_,
    reads_redis (fun s => some s.timeout) ?_, reads_cache (fun s => some s.ttl) ?_,
    reads_retry (fun s => some s.initialDelay) ?_, reads_retry (fun s => some s.maxDelay) ?_,
    reads_retry (fun s => some s.maxWait) ?_, reads_auth (fun s => some s.tokenTtl) ?_,
    List.forall_mem_nil _⟩
  case refine_1 => exact Shape.reads_record _ rfl rfl (fun _ _ => rfl) (by simp) hu16
  case refine_4 => exact Shape.reads_record _ rfl rfl (fun _ _ => rfl) (by simp) husize
  case refine_5 => exact Shape.reads_record _ rfl rfl (fun _ _ => rfl) (by simp) hu32
  case refine_7 =>
    exact Shape.reads_record Postgres.idleTimeout rfl rfl (fun _ _ => rfl) (by simp) hidle
  case refine_8 => exact Shape.reads_record _ rfl rfl (fun _ _ => rfl) (by simp) husize
  all_goals exact Shape.reads_record _ rfl rfl (fun _ _ => rfl) (by simp) hu64

end Billboard.Settings
