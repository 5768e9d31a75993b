import Billboard.Proofs.Store.Catalog
import Mathlib.Data.List.Nodup
import Mathlib.Data.List.Perm.Basic

/-! Pages put together are the listing without a page, in whatever order the rows are visited. -/

namespace Billboard

namespace Banner.Filter

variable {α : Type} {f : Filter}

def whole (f : Filter) : Filter := { f with offset := 0, limit := 0 }

def sheet (f : Filter) (size k : Nat) : Filter := { f with offset := k * size, limit := size }

lemma page_eq (f : Filter) (rows : List α) : f.page rows =
    if f.limit = 0 then rows.drop f.offset else (rows.drop f.offset).take f.limit := by
  unfold page limit?
  split_ifs <;> rfl

lemma page_sheet {size : Nat} (hsize : 0 < size) (f : Filter) (k : Nat) (rows : List α) :
    (f.sheet size k).page rows = (rows.drop (k * size)).take size :=
  (page_eq _ rows).trans (if_neg hsize.ne')

lemma page_eq_nil {rows : List α} : f.page rows = [] ↔ rows.length ≤ f.offset := by
  rw [page_eq]
  split_ifs with h
  · exact List.drop_eq_nil_iff
  · rw [List.take_eq_nil_iff, List.drop_eq_nil_iff]
    exact or_iff_right h

lemma flatMap_sheets {size : Nat} (hsize : 0 < size) (f : Filter) (rows : List α) (n : Nat) :
    (List.range n).flatMap (fun k => (f.sheet size k).page rows) = rows.take (n * size) := by
  induction n with
  | zero => simp
  | succ n ih =>
    rw [List.range_succ, List.flatMap_append, ih, List.flatMap_singleton, page_sheet hsize,
      Nat.succ_mul, List.take_add]

end Banner.Filter

open Banner (Filter)

namespace Catalog

variable {c : Catalog} {f : Filter}

def after (c : Catalog) (calls : List StoreCall) : Catalog :=
  calls.foldl (fun c q => (c.answer q).2) c

def Keyed (c : Catalog) : Prop := c.rows.Pairwise fun a b => a.id ≠ b.id

lemma Numbered.after (h : c.Numbered) (calls : List StoreCall) : (c.after calls).Numbered := by
  induction calls generalizing c with
  | nil => exact h
  | cons q calls ih => exact ih (h.answer q)

def matching (c : Catalog) (f : Filter) : List Banner :=
  (c.rows.filter f.admits).mergeSort fun a b => a.id ≤ b.id

lemma query_eq_page (c : Catalog) (f : Filter) : c.query f = f.page (c.matching f) := rfl

lemma query_whole (c : Catalog) (f : Filter) : c.query f.whole = c.matching f := rfl

lemma matching_perm (c : Catalog) (f : Filter) : (c.matching f).Perm (c.rows.filter f.admits) :=
  List.mergeSort_perm _ _

lemma length_matching (c : Catalog) (f : Filter) :
    (c.matching f).length = c.rows.countP f.admits :=
  (c.matching_perm f).length_eq.trans (List.countP_eq_length_filter).symm

lemma mem_matching {b : Banner} : b ∈ c.matching f ↔ b ∈ c.rows ∧ f.admits b = true :=
  (c.matching_perm f).mem_iff.trans List.mem_filter

lemma mem_query_all {b : Banner} : b ∈ c.query {} ↔ b ∈ c.rows := by
  rw [query, Filter.mem_select_iff rfl rfl]
  exact and_iff_left rfl

lemma query_all_perm (c : Catalog) : (c.query {}).Perm c.rows := by
  have hall : c.rows.filter (Filter.admits {}) = c.rows :=
    List.filter_eq_self.mpr fun _ _ => rfl
  have hperm := c.matching_perm {}
  rwa [hall] at hperm

lemma Keyed.matching_ascending (h : c.Keyed) (f : Filter) :
    (c.matching f).Pairwise fun a b => a.id < b.id := by
  have hsymm : ∀ {a b : Banner}, a.id ≠ b.id → b.id ≠ a.id := Ne.symm
  have hne : (c.matching f).Pairwise fun a b => a.id ≠ b.id :=
    ((c.matching_perm f).pairwise_iff hsymm).mpr (h.filter f.admits)
  exact hne.imp₂ (fun a b hne hle => lt_of_le_of_ne hle hne) (Banner.mergeSort_ascending _)

lemma Keyed.matching_unique (h : c.Keyed) {scan sorted : List Banner} (hscan : scan.Perm c.rows)
    (hsorted : sorted.Perm (scan.filter f.admits))
    (hascending : sorted.Pairwise fun a b => a.id ≤ b.id) : sorted = c.matching f :=
  Banner.eq_of_ascending (h.filter f.admits) (hsorted.trans (hscan.filter f.admits))
    (c.matching_perm f) hascending (Banner.mergeSort_ascending _)

lemma Keyed.perm_rows (h : c.Keyed) {d : Catalog} (hd : d.Keyed)
    (hrows : ∀ b, b ∈ d.rows ↔ b ∈ c.rows) : d.rows.Perm c.rows := by
  have nodup : ∀ {c : Catalog}, c.Keyed → c.rows.Nodup := fun hc =>
    hc.imp fun hne => ne_of_apply_ne Banner.id hne
  exact (List.perm_ext_iff_of_nodup (nodup hd) (nodup h)).mpr hrows

def sheets (c : Catalog) (f : Filter) (size n : Nat) : List Banner :=
  (List.range n).flatMap fun k => c.query (f.sheet size k)

lemma sheets_eq_take {size : Nat} (hsize : 0 < size) (c : Catalog) (f : Filter) (n : Nat) :
    c.sheets f size n = (c.matching f).take (n * size) :=
  Filter.flatMap_sheets hsize f (c.matching f) n

/-- A listing shows the rows that the filter lets through by ascending id, cut to the page, and
pages of one size show each of them once. -/
theorem query_paged : (∀ calls, (Catalog.after {} calls).Keyed) ∧
    ∀ (c : Catalog) (f : Filter), c.Keyed →
      (∀ scan sorted : List Banner, scan.Perm c.rows → sorted.Perm (scan.filter f.admits) →
        (sorted.Pairwise fun a b => a.id ≤ b.id) → f.page sorted = c.query f) ∧
      ((c.query f.whole).Pairwise fun a b => a.id < b.id) ∧
      (∀ b, b ∈ c.query f.whole ↔ b ∈ c.rows ∧ f.admits b = true) ∧
      (c.query f = if f.limit = 0 then (c.query f.whole).drop f.offset
        else ((c.query f.whole).drop f.offset).take f.limit) ∧
      (∀ d : Catalog, d.Keyed → (∀ b, b ∈ d.rows ↔ b ∈ c.rows) → d.query f = c.query f) ∧
      (c.query f = [] ↔ c.rows.countP f.admits ≤ f.offset) ∧
      ∀ size, 0 < size → ∀ n,
        c.sheets f size n = (c.query f.whole).take (n * size) ∧
        (c.rows.countP f.admits ≤ n * size → c.sheets f size n = c.query f.whole ∧
          ∀ b ∈ c.rows, f.admits b = true → (c.sheets f size n).count b = 1) := by
  refine ⟨fun calls => (numbered_empty.after calls).distinct, fun c f h => ?_⟩
  rw [query_whole]
  refine ⟨fun scan sorted hscan hsorted hascending => ?_, h.matching_ascending f,
    fun b => mem_matching, Filter.page_eq f _, fun d hd hrows => ?_, ?_,
    fun size hsize n => ⟨sheets_eq_take hsize c f n, fun hall => ?_⟩⟩
  · rw [query_eq_page, h.matching_unique hscan hsorted hascending]
  · rw [query_eq_page, query_eq_page, ← h.matching_unique (h.perm_rows hd hrows)
      (d.matching_perm f) (Banner.mergeSort_ascending _)]
  · rw [query_eq_page, Filter.page_eq_nil, length_matching]
  · have heq : c.sheets f size n = c.matching f := by
      rw [sheets_eq_take hsize]
      apply List.take_of_length_le
      rwa [length_matching]
    refine ⟨heq, fun b hb ha => ?_⟩
    rw [heq]
    apply List.count_eq_one_of_mem
    · exact (h.matching_ascending f).imp fun hlt => ne_of_apply_ne Banner.id hlt.ne
    · exact mem_matching.mpr ⟨hb, ha⟩

theorem query_paged_three :
    let c : Catalog := ⟨[.sample 2, .sample 3, .sample 1], 4⟩
    let sorted : List Banner := [.sample 1, .sample 2, .sample 3]
    c.Keyed ∧ sorted.Perm c.rows ∧ (sorted.Pairwise fun a b => a.id ≤ b.id) ∧
    c.query {} = sorted ∧ c.query ({ offset := 2 } : Filter) = [.sample 3] ∧
    c.sheets {} 2 2 = sorted := by
  intro c sorted
  have hkeyed : c.Keyed := by simp [c, Keyed, Banner.sample]
  have hperm : sorted.Perm c.rows := by decide
  have hsorted : sorted.Pairwise fun a b => a.id ≤ b.id := by simp [sorted, Banner.sample]
  obtain ⟨hany, -, -, -, -, -, hsheets⟩ := query_paged.2 c {} hkeyed
  have hall : c.query {} = sorted := (hany sorted sorted hperm (by rfl) hsorted).symm
  have htail := (query_paged.2 c { offset := 2 } hkeyed).1 sorted sorted hperm (by rfl) hsorted
  refine ⟨hkeyed, hperm, hsorted, hall, htail.symm, ?_⟩
  exact (((hsheets 2 (by decide) 2).2 (by decide)).1).trans hall

end Catalog

end Billboard
