import Billboard.Proofs.Banner.Drafts
import Billboard.Store.Catalog
import Mathlib.Data.List.Pairwise

namespace Billboard

open Banner (Filter)

namespace Banner

variable {rows sorted : List Banner}

lemma eq_of_ascending (hid : rows.Pairwise fun a b => a.id ≠ b.id) {other : List Banner}
    (hs : sorted.Perm rows) (ho : other.Perm rows) (hsorted : sorted.Pairwise fun a b => a.id ≤ b.id)
    (hother : other.Pairwise fun a b => a.id ≤ b.id) : sorted = other := by
  refine (hs.trans ho.symm).eq_of_pairwise (fun a b ha hb hab hba => ?_) hsorted hother
  have hsymm : Std.Symm fun a b : Banner => a.id ≠ b.id := ⟨fun _ _ => Ne.symm⟩
  by_contra hne
  exact hid.forall (hs.mem_iff.mp ha) (ho.mem_iff.mp hb) hne (Int.le_antisymm hab hba)

lemma mergeSort_ascending (rows : List Banner) :
    (rows.mergeSort fun a b => a.id ≤ b.id).Pairwise fun a b => a.id ≤ b.id := by
  have htrans : ∀ a b c : Banner, decide (a.id ≤ b.id) = true → decide (b.id ≤ c.id) = true →
      decide (a.id ≤ c.id) = true := by
    simp only [decide_eq_true_eq]
    exact fun _ _ _ => Int.le_trans
  have htotal : ∀ a b : Banner, (decide (a.id ≤ b.id) || decide (b.id ≤ a.id)) = true := by
    simp only [Bool.or_eq_true, decide_eq_true_eq]
    exact fun a b => Int.le_total a.id b.id
  have h := List.pairwise_mergeSort htrans htotal rows
  exact h.imp of_decide_eq_true

end Banner

lemma Banner.Filter.mem_page {f : Filter} {rows : List Banner} {b : Banner} (h : b ∈ f.page rows) :
    b ∈ rows := by
  unfold page at h
  split at h
  · exact List.mem_of_mem_drop h
  · exact List.mem_of_mem_drop (List.mem_of_mem_take h)

lemma Banner.Filter.mem_select {f : Filter} {rows : List Banner} {b : Banner}
    (h : b ∈ f.select rows) : b ∈ rows ∧ f.admits b = true := by
  have hm := mem_page h
  rwa [List.mem_mergeSort, List.mem_filter] at hm

lemma Banner.Filter.mem_select_iff {f : Filter} (ho : f.offset = 0) (hl : f.limit = 0)
    {rows : List Banner} {b : Banner} : b ∈ f.select rows ↔ b ∈ rows ∧ f.admits b = true := by
  simp [select, page, limit?, ho, hl]

namespace Catalog

variable {c : Catalog} {q : StoreCall} {b : Banner} {id : Int}

lemma mem_query {f : Filter} (h : b ∈ c.query f) : b ∈ c.rows := (Banner.Filter.mem_select h).1

lemma of_find? (h : c.find? id = some b) : b ∈ c.rows ∧ b.id = id := by
  refine ⟨List.mem_of_find?_eq_some h, ?_⟩
  simpa using List.find?_some h

lemma find?_eq_none : c.find? id = none ↔ ∀ b ∈ c.rows, b.id ≠ id := by
  simp only [find?, List.find?_eq_none, beq_iff_eq, ne_eq]

lemma rows_update (c : Catalog) (id : Int) (d : Banner.Draft) (updatedAt : Clock.Timestamp) :
    (c.update id d updatedAt).2.rows =
      c.rows.map fun b => if b.id = id then b.revise d updatedAt else b := by
  rw [update]
  cases h : c.find? id with
  | some b => rfl
  | none =>
    refine (List.map_id c.rows).symm.trans (List.map_congr_left fun b hb => ?_)
    exact (if_neg (find?_eq_none.mp h b hb)).symm

lemma rows_delete (c : Catalog) (id : Int) :
    (c.delete id).2.rows = c.rows.filter fun b => b.id != id := by
  rw [delete]
  cases h : c.find? id with
  | some b => rfl
  | none =>
    refine (List.filter_eq_self.mpr fun b hb => ?_).symm
    rw [bne_iff_ne]
    exact find?_eq_none.mp h b hb

lemma mem_rows_answer (h : b ∈ (c.answer q).2.rows) : b ∈ c.rows ∨
    (∃ d created updated, q = .create d created updated ∧
      b = .ofDraft c.nextId d created updated) ∨
    ∃ id d updated, q = .update id d updated ∧ ∃ old ∈ c.rows, b = old.revise d updated := by
  cases q with
  | create d created updated =>
    rcases List.mem_append.mp h with h | h
    · exact .inl h
    · exact .inr (.inl ⟨d, created, updated, rfl, List.mem_singleton.mp h⟩)
  | update id d updated =>
    simp only [answer, update] at h
    split at h
    · exact .inl h
    · obtain ⟨old, ho, rfl⟩ := List.mem_map.mp h
      split_ifs
      · exact .inr (.inr ⟨id, d, updated, rfl, old, ho, rfl⟩)
      · exact .inl ho
  | delete id =>
    simp only [answer, delete] at h
    split at h
    · exact .inl h
    · exact .inl (List.mem_filter.mp h).1
  | get id => exact .inl h
  | query f => exact .inl h
  | ping => exact .inl h
  | close => exact .inl h

lemma nextId_le_answer (c : Catalog) (q : StoreCall) : c.nextId ≤ (c.answer q).2.nextId := by
  cases q with
  | create d created updated =>
    simp only [answer, create]
    omega
  | update id d updated =>
    simp only [answer, update]
    split <;> exact le_rfl
  | delete id =>
    simp only [answer, delete]
    split <;> exact le_rfl
  | _ => exact le_rfl

structure Numbered (c : Catalog) : Prop where
  ascending : c.rows.Pairwise fun a b => a.id < b.id
  below : ∀ b ∈ c.rows, b.id < c.nextId

lemma numbered_empty : ({} : Catalog).Numbered := ⟨.nil, nofun⟩

lemma Numbered.distinct (h : c.Numbered) : c.rows.Pairwise fun a b => a.id ≠ b.id :=
  h.ascending.imp fun hab => hab.ne

lemma Numbered.find? (h : c.Numbered) (hb : b ∈ c.rows) : c.find? b.id = some b := by
  have ha := h.ascending
  unfold Catalog.find?
  revert hb ha
  generalize c.rows = rows
  intro hb ha
  induction rows with
  | nil => cases hb
  | cons a rest ih =>
    obtain ⟨hlt, hrest⟩ := List.pairwise_cons.mp ha
    rcases List.mem_cons.mp hb with rfl | hb
    · simp
    · have hne : a.id ≠ b.id := (hlt b hb).ne
      simpa [hne] using ih hb hrest

lemma Numbered.answer (h : c.Numbered) (q : StoreCall) : (c.answer q).2.Numbered := by
  cases q with
  | create d created updated =>
    refine ⟨List.pairwise_append.mpr ⟨h.ascending, List.pairwise_singleton _ _, ?_⟩, ?_⟩
    · intro a ha b hb
      rw [List.mem_singleton.mp hb]
      exact h.below a ha
    · intro b hb
      rcases List.mem_append.mp hb with hb | hb
      · exact (h.below b hb).trans (Int.lt_succ _)
      · rw [List.mem_singleton.mp hb]
        exact Int.lt_succ _
  | update id d updated =>
    have hid : ∀ b : Banner, (if b.id = id then b.revise d updated else b).id = b.id := by
      intro b
      split_ifs <;> rfl
    simp only [Catalog.answer, update]
    split
    · exact h
    · refine ⟨List.pairwise_map.mpr (h.ascending.imp fun hab => by rwa [hid, hid]), fun b hb => ?_⟩
      obtain ⟨a, ha, rfl⟩ := List.mem_map.mp hb
      rw [hid]
      exact h.below a ha
  | delete id =>
    simp only [Catalog.answer, delete]
    split
    · exact h
    · exact ⟨h.ascending.filter _, fun b hb => h.below b (List.mem_filter.mp hb).1⟩
  | _ => exact h

lemma Numbered.query_all (h : c.Numbered) : c.query {} = c.rows := by
  have hs : c.rows.Pairwise fun a b => decide (a.id ≤ b.id) = true :=
    h.ascending.imp fun hab => decide_eq_true hab.le
  have ha : c.rows.filter (Banner.Filter.admits {}) = c.rows :=
    List.filter_eq_self.mpr fun b _ => by simp [Banner.Filter.admits, Banner.FeatureFilter.accepts]
  rw [query, Banner.Filter.select, ha, List.mergeSort_of_pairwise hs]
  simp [Banner.Filter.page, Banner.Filter.limit?]

structure Gone (c : Catalog) (id : Int) : Prop where
  absent : ∀ b ∈ c.rows, b.id ≠ id
  past : id < c.nextId

lemma Numbered.gone_of_delete (h : c.Numbered) (hd : (c.delete id).1 = .ok ()) :
    (c.delete id).2.Gone id := by
  unfold delete at hd ⊢
  cases hf : c.find? id with
  | none =>
    rw [hf] at hd
    cases hd
  | some b =>
    obtain ⟨hb, rfl⟩ := of_find? hf
    refine ⟨fun a ha => ?_, h.below b hb⟩
    have hne := (List.mem_filter.mp ha).2
    simpa using hne

lemma Gone.answer (h : c.Gone id) (q : StoreCall) : (c.answer q).2.Gone id := by
  refine ⟨fun b hb => ?_, h.past.trans_le (c.nextId_le_answer q)⟩
  rcases mem_rows_answer hb with hb | ⟨d, t, u, -, rfl⟩ | ⟨_, d, u, -, old, ho, rfl⟩
  · exact h.absent b hb
  · exact h.past.ne'
  · exact h.absent old ho

end Catalog

namespace StoreCall

/-- The rows that an answer hands to whoever made the call: the one created, or the ones listed. -/
def Hands : (c : StoreCall) → c.Answer → Set Banner
  | .create d createdAt updatedAt, .ok id => {.ofDraft id d createdAt updatedAt}
  | .query _, .ok bs => {b | b ∈ bs}
  | _, _ => ∅

def Writable : StoreCall → Prop
  | .create d createdAt updatedAt => d.Writable ∧ createdAt.Proper ∧ updatedAt.Proper
  | .update _ d updatedAt => d.Writable ∧ updatedAt.Proper
  | _ => True

end StoreCall

namespace Catalog

variable {c : Catalog} {q : StoreCall} {b : Banner}

lemma hands_error {e : StoreError} : q.Hands (.error e) = ∅ := by
  cases q <;> rfl

lemma mem_rows_of_hands (h : b ∈ q.Hands (c.answer q).1) : b ∈ (c.answer q).2.rows := by
  cases q with
  | create d created updated =>
    obtain rfl := Set.mem_singleton_iff.mp h
    exact List.mem_append_right _ List.mem_cons_self
  | query f => exact mem_query h
  | update id d updated => cases ((c.answer (.update id d updated)).1) <;> exact h.elim
  | delete id => exact h.elim
  | get id => exact h.elim
  | ping => exact h.elim
  | close => exact h.elim

lemma writable_answer (h : ∀ b ∈ c.rows, b.Writable) (hq : q.Writable) :
    ∀ b ∈ (c.answer q).2.rows, b.Writable := by
  intro b hb
  rcases mem_rows_answer hb with hb | ⟨d, t, u, rfl, rfl⟩ | ⟨_, d, u, rfl, old, ho, rfl⟩
  · exact h b hb
  · exact hq.1.ofDraft _ hq.2.1 hq.2.2
  · exact (h old ho).revise hq.1 hq.2

end Catalog

end Billboard
