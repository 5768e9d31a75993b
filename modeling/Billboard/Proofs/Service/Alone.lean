import Billboard.Proofs.Service.Invariants

/-! Operations that go through without another one between their calls. -/

namespace Billboard.System

open Banner (Draft)
open Clock (Timestamp)

def withTask (s : System) (catalog : Catalog) (cache : LocalCache) (τ : Task) : System :=
  ⟨s.now, catalog, cache, Function.update s.tasks s.begun (some τ), s.begun + 1⟩

variable {s : System} {catalog : Catalog} {cache : LocalCache}

lemma step_clock {o : Operation} {next : Timestamp → Action o.Result} (time : Timestamp) :
    (s.withTask catalog cache ⟨o, .ask .clock next⟩).Step (.call s.begun .clock time true)
      (s.withTask catalog cache ⟨o, next time⟩) :=
  ⟨o, next, _, Function.update_self .., rfl, by simp only [withTask, Function.update_idem]⟩

lemma step_store {o : Operation} {c : StoreCall} {next : c.Answer → Action o.Result} :
    (s.withTask catalog cache ⟨o, .ask (.store c) next⟩).Step
      (.call s.begun (.store c) (catalog.answer c).1 true)
      (s.withTask (catalog.answer c).2 cache ⟨o, next (catalog.answer c).1⟩) :=
  ⟨o, next, _, Function.update_self .., ⟨rfl, rfl⟩, by simp only [withTask, Function.update_idem]⟩

lemma step_cache {o : Operation} {c : CacheCall} {next : c.Answer → Action o.Result}
    (visit : Visit) :
    (s.withTask catalog cache ⟨o, .ask (.cache c) next⟩).Step
      (.call s.begun (.cache c) (cache.answer visit s.now c).1 true)
      (s.withTask catalog (cache.answer visit s.now c).2
        ⟨o, next (cache.answer visit s.now c).1⟩) :=
  ⟨o, next, _, Function.update_self .., ⟨visit, rfl, rfl⟩,
    by simp only [withTask, Function.update_idem]⟩

lemma create_asks {d e : Draft} (hd : d.check = .ok e) :
    ∃ next, Service.create d = .ask .clock next ∧ ∀ time : Timestamp,
      ∃ next', next time = .ask (.store (.create e time.toMicros time.toMicros)) next' ∧ ∀ id : Int,
        ∃ next'', next' (.ok id) =
            .ask (.cache (.put (.ofDraft id e time.toMicros time.toMicros))) next'' ∧
          ∀ a, next'' a = .done (.ok (.ofDraft id e time.toMicros time.toMicros)) := by
  unfold Service.create
  rw [hd]
  exact ⟨_, rfl, fun _ => ⟨_, rfl, fun _ => ⟨_, rfl, fun _ => rfl⟩⟩⟩

lemma exists_run_create (s : System) {d e : Draft} (hd : d.check = .ok e) (time : Timestamp) :
    let b := Banner.ofDraft s.catalog.nextId e time.toMicros time.toMicros
    ∃ history,
      s.Run history (s.withTask ⟨s.catalog.rows ++ [b], s.catalog.nextId + 1⟩
        (s.cache.put b s.now) ⟨.create d, .done (.ok b)⟩) ∧
      (d.Writable → time.Proper → ∀ ev ∈ history, ev.move.Writable) ∧
      ∀ ev ∈ history, ∀ o, ev.move = .launch o → ev.before = s := by
  intro b
  obtain ⟨ask₁, h₁, h⟩ := create_asks hd
  obtain ⟨ask₂, h₂, h⟩ := h time
  obtain ⟨ask₃, h₃, h₄⟩ := h s.catalog.nextId
  have launch : s.Step (.launch (.create d))
      (s.withTask s.catalog s.cache ⟨.create d, .ask .clock ask₁⟩) := by
    rw [← h₁]
    rfl
  have clock : (s.withTask s.catalog s.cache ⟨.create d, .ask .clock ask₁⟩).Step _ _ :=
    step_clock time
  rw [h₂] at clock
  have store : (s.withTask s.catalog s.cache ⟨.create d, .ask (.store _) ask₂⟩).Step _ _ :=
    step_store
  have put : (s.withTask (s.catalog.create e time.toMicros time.toMicros).2 s.cache
      ⟨.create d, .ask (.cache (.put b)) ask₃⟩).Step _ _ := step_cache (.first 0)
  rw [h₄, ← h₃] at put
  refine ⟨_, (((Trace.nil.cons launch).cons clock).cons store).cons put, fun hw ht => ?_, ?_⟩
  · simp only [List.forall_mem_cons]
    exact ⟨trivial, trivial, ht, hw, List.forall_mem_nil _⟩
  · simp only [List.forall_mem_cons]
    exact ⟨nofun, nofun, nofun, fun _ _ => trivial, List.forall_mem_nil _⟩

end Billboard.System
