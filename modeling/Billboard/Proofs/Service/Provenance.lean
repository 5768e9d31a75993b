import Billboard.Proofs.Banner.Identity
import Billboard.Proofs.Cache.Alike
import Billboard.Proofs.Service.Alone

/-! Where a banner that a cached read returns comes from. -/

namespace Billboard.System

variable {ttl now : Nat} {s t : System} {history : List Event} {b : Banner}

lemma Run.of_handed (h : (start ttl now).Run history s) {i : Nat} (hb : b ∈ Handed history i) :
    ∃ newer e older c a, history = newer ++ e :: older ∧ e.move = .call i (.store c) a true ∧
      ((∃ d created updated, c = .create d created updated) ∨ ∃ f, c = .query f) ∧
      e.after.catalog.find? b.id = some b ∧
      ∀ e' ∈ newer, ∀ c a done, e'.move ≠ .call i (.store c) a done := by
  obtain ⟨newer, e, older, c, a, rfl, hm, hb, hn⟩ := hb
  refine ⟨newer, e, older, c, a, rfl, hm, ?_, ?_, hn⟩
  · cases c with
    | create d created updated => exact .inl ⟨d, created, updated, rfl⟩
    | query f => exact .inr ⟨f, rfl⟩
    | _ => cases a <;> exact hb.elim
  · obtain ⟨run, step, -⟩ := h.at_passage
    have hafter := Run.numbered (run.cons step)
    rw [hm] at step
    exact hafter.find? (step.hands hb).2

lemma Step.put_handed (hrun : (start ttl now).Run history s) {i : Nat} {a : Except CacheError Unit}
    {done : Bool} (h : s.Step (.call i (.cache (.put b)) a done) t) : b ∈ Handed history i := by
  obtain ⟨o, next, s₁, hi, -, -⟩ := h
  exact (hrun.honest i _ hi).1 b rfl

lemma Run.writable_of_handed (h : (start ttl now).Run history s)
    (hw : ∀ e ∈ history, e.move.Writable) {i : Nat} (hb : b ∈ Handed history i) : b.Writable := by
  obtain ⟨newer, e, older, c, a, rfl, -, -, hf, -⟩ := h.of_handed hb
  obtain ⟨run, step, -⟩ := h.at_passage
  have hrow := (Catalog.of_find? hf).1
  exact (Run.writable (run.cons step) fun e' he => hw e' (List.mem_append_right _ he)).1 b hrow

lemma Step.list_done {i : Nat} {f u : Int} {done : Bool} {r : Service.ReadRequest}
    (h : s.Step (.call i (.cache (.get f u)) (.ok b) done) t)
    (hr : s.tasks i = some ⟨.list r, Service.list r⟩) :
    r.cacheKey? = some (f, u) ∧ t.tasks i = some ⟨.list r, .done (.ok [b])⟩ := by
  obtain ⟨o, next, s₁, hi, -, rfl⟩ := h
  obtain ⟨rfl, he⟩ := Task.mk.inj (Option.some.inj (hr.symm.trans hi))
  have hl := eq_of_heq he
  unfold Service.list at hl
  cases hk : r.cacheKey? with
  | none =>
    rw [hk] at hl
    cases hl
  | some key =>
    rw [hk] at hl
    cases hl
    exact ⟨rfl, by simp only [Function.update_self]; rfl⟩

/-- A banner that a cached read returns was put less than a lifetime before, nothing was done to its
id since, and it was the row of its id when the operation of that put asked the store. -/
theorem Run.read_provenance (hrun : (start ttl now).Run history s)
    (hw : ∀ e ∈ history, e.move.Writable) {i : Nat} {f u : Int} {done : Bool}
    (hread : s.Step (.call i (.cache (.get f u)) (.ok b) done) t) :
    (∀ r, s.tasks i = some ⟨.list r, Service.list r⟩ →
      t.tasks i = some ⟨.list r, .done (.ok [b])⟩) ∧
    ∃ newer put older j a, history = newer ++ put :: older ∧
      put.move = .call j (.cache (.put b)) a true ∧ s.now < put.after.now + ttl ∧
      (∀ e ∈ newer, ¬ e.move.Touches b.id) ∧
      ∃ between source earlier c a', older = between ++ source :: earlier ∧
        source.move = .call j (.store c) a' true ∧
        ((∃ d created updated, c = .create d created updated) ∨ ∃ f, c = .query f) ∧
        source.after.catalog.find? b.id = some b ∧
        ∀ e ∈ between, ∀ c a done, e.move ≠ .call j (.store c) a done := by
  refine ⟨fun r hr => (hread.list_done hr).2, ?_⟩
  obtain ⟨id, x, hx, hexp, hdecode⟩ := hread.read
  obtain ⟨d, time, rfl, hlast, rfl⟩ := hrun.lastPut.2 id x hx
  obtain ⟨newer, put, older, j, a, rfl, hm, rfl, hn⟩ := hlast
  obtain ⟨run, step, -⟩ := hrun.at_passage
  rw [hm] at step
  have hd := Step.put_handed run step
  -- the decoded id is the written one and fits 64 bits, so ids of the catalog need no bound
  have hfits : d.Storable := by
    refine ⟨Run.writable_of_handed run (fun e he => hw e ?_) hd, ?_⟩
    · exact List.mem_append_right _ (List.mem_cons_of_mem _ he)
    · exact (Banner.id_of_decode hdecode).2
  have heq : d = b := by
    rw [Banner.decode_encode hfits] at hdecode
    exact Option.some.inj hdecode
  subst heq
  refine ⟨newer, put, older, j, a, rfl, hm, ?_, hn, Run.of_handed run hd⟩
  simp only [CacheEntry.expired, decide_eq_false_iff_not] at hexp
  omega

theorem Run.read_provenance_create : ∃ history s t, (start 10 0).Run history s ∧
    s.Step (.call 1 (.cache (.get 1 2)) (.ok (.sample 1)) true) t ∧
    ∃ put ∈ history, ∃ j a, put.move = .call j (.cache (.put (.sample 1))) a true ∧
      s.now < put.after.now + 10 := by
  obtain ⟨history, run, hw, -⟩ := (start 10 0).exists_run_create Banner.Draft.check_sample ⟨0, 0⟩
  have hwrite := hw Banner.Draft.writable_sample Clock.Timestamp.proper_epoch
  let cache : LocalCache := ({ ttl := 10 } : LocalCache).put (.sample 1) 0
  have hserved : .sample 1 ∈ cache.servables 1 2 0 := by
    refine ⟨1, LocalCache.mem_indexMembers_put.mpr (.inr ⟨by decide, rfl⟩), ⟨_, 0, 10⟩, ?_, rfl,
      Banner.decode_encode (Banner.storable_sample (by decide)), rfl, by decide⟩
    rw [LocalCache.kept?_put]
    rfl
  have hget : (.ok (.sample 1) : Except CacheError Banner) ∈
      {r | ∃ visit, (cache.get visit 1 2 0).1 = r} := by
    rw [LocalCache.get_results]
    exact .inl ⟨_, hserved, rfl⟩
  obtain ⟨visit, hvisit⟩ := hget
  let created : System := (start 10 0).withTask ⟨[.sample 1], 2⟩ cache
    ⟨.create .sample, .done (.ok (.sample 1))⟩
  let reading : System := created.withTask created.catalog cache
    ⟨.list (.one 1 2 false false), Service.list (.one 1 2 false false)⟩
  have launch : created.Step (.launch (.list (.one 1 2 false false))) reading := rfl
  have hread : reading.Step (.call 1 (.cache (.get 1 2)) (.ok (.sample 1)) true) _ :=
    ⟨.list (.one 1 2 false false), _, _, rfl, ⟨visit, hvisit.symm, rfl⟩, rfl⟩
  have hall : ∀ e ∈ ⟨created, .launch (.list (.one 1 2 false false)), reading⟩ :: history,
      e.move.Writable := List.forall_mem_cons.mpr ⟨trivial, hwrite⟩
  obtain ⟨-, newer, put, older, j, a, hsplit, hmove, htime, -⟩ :=
    Run.read_provenance (run.cons launch) hall hread
  exact ⟨_, _, _, run.cons launch, hread, put, hsplit ▸ by simp, j, a, hmove, htime⟩

end Billboard.System
