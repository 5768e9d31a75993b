import Billboard.Postgres.Store
import Billboard.Proofs.Dialogue
import Billboard.Proofs.Store.Catalog
import Mathlib.Data.List.Pairwise
import Mathlib.Tactic.Common

/-! The listing that is sent to the database returns what the catalog in memory lists. -/

namespace Billboard.Postgres

open Banner (Filter)

def bannerRow (b : Banner) : Row
  | "id" => .int b.id
  | "feature_id" => .int b.feature
  | "tag_ids" => .ints b.tags
  | "is_active" => .bool b.active
  | "content" => .json (Json.obj b.content).text
  | "created_at" => .time b.createdAt
  | "updated_at" => .time b.updatedAt
  | _ => .null

structure Selection where
  condition : Condition
  ascending : String
  offset : Nat
  limit : Nat

namespace Value

def le : Value → Value → Prop
  | .int i, .int j => i ≤ j
  | _, _ => False

def toOffset : Value → Nat
  | .int n => n.toNat
  | _ => 0

def toLimit : Value → Option Nat
  | .int n => some n.toNat
  | _ => none

end Value

namespace Selection

def text (s : Selection) : String :=
  " WHERE " ++ s.condition.text ++ " ORDER BY " ++ s.ascending ++ " ASC OFFSET "
    ++ (Term.param s.offset).text ++ " LIMIT " ++ (Term.param s.limit).text

def page {α : Type} (s : Selection) (ps : List Value) (rows : List α) : List α :=
  match (param ps s.limit).toLimit with
  | none => rows.drop (param ps s.offset).toOffset
  | some n => (rows.drop (param ps s.offset).toOffset).take n

/-- The database may return the result: it is a page of the rows whose condition is true, which
stand in any order in which the column ascends. -/
def Returns {α : Type} (s : Selection) (row : α → Row) (ps : List Value)
    (table result : List α) : Prop :=
  ∃ sorted : List α, sorted.Perm (table.filter fun a => s.condition.selects ps (row a)) ∧
    sorted.Pairwise (fun a b => (row a s.ascending).le (row b s.ascending)) ∧
    result = s.page ps sorted

end Selection

def bannerListing : Selection := ⟨Statement.listing, "id", 4, 5⟩

lemma sql_selectBanners (f : Filter) :
    (Statement.selectBanners f).sql = Statement.bannerColumns ++ bannerListing.text := by
  have htail : " ORDER BY id ASC OFFSET $4 LIMIT $5" = " ORDER BY " ++ "id" ++ " ASC OFFSET "
      ++ (Term.param 4).text ++ " LIMIT " ++ (Term.param 5).text := by
    rw [Term.text, Term.text, Text.natText, Text.natText, Text.natDigits_small (by decide),
      Text.natDigits_small (by decide)]
    rfl
  change Statement.bannerColumns ++ " WHERE " ++ bannerListing.condition.text
    ++ " ORDER BY id ASC OFFSET $4 LIMIT $5" = Statement.bannerColumns ++ bannerListing.text
  rw [htail, Selection.text]
  generalize bannerListing.condition.text = condition
  simp only [bannerListing, String.append_assoc]

def Serves (table : List Banner) : (r : Request) → r.Answer → Prop
  | .run (.selectBanners f), a => ∃ result,
    bannerListing.Returns bannerRow (Statement.selectBanners f).params table result ∧ a = .ok result
  | .run _, _ => True
  | .connect, a => a = .ok ()
  | .start, a => a = .ok ()
  | .commit, a => a = .ok ()
  | .rollback, a => a = .ok ()

namespace Truth

@[simp] lemma some_or (a b : Bool) : Truth.or (some a) (some b) = some (a || b) := by
  cases a <;> cases b <;> rfl

@[simp] lemma some_and (a b : Bool) : Truth.and (some a) (some b) = some (a && b) := by
  cases a <;> cases b <;> rfl

@[simp] lemma true_or (t : Truth) : Truth.or (some true) t = some true := by
  cases t <;> rfl

end Truth

namespace Condition

variable (row : Row) (ps : List Value) {s t : Term}

lemma truth_equal_int {i j : Int} (hs : s.value row ps = .int i) (ht : t.value row ps = .int j) :
    (equal s t).truth row ps = some (i == j) := by
  have he : (Value.int i == Value.int j) = (i == j) := by
    rw [Bool.eq_iff_iff, beq_iff_eq, beq_iff_eq, Value.int.injEq]
  simp only [truth, hs, ht, he]

lemma truth_overlap {is js : List Int} (hs : s.value row ps = .ints is)
    (ht : t.value row ps = .ints js) : (overlap s t).truth row ps = some (is.any js.contains) := by
  simp only [truth, hs, ht]

lemma truth_holds {b : Bool} (ht : t.value row ps = .bool b) :
    (holds t).truth row ps = some b := by
  simp only [truth, ht]

end Condition

section

variable (f : Filter) (b : Banner)

lemma truth_feature : (Condition.either (.isNull (.typed 1 "int4"))
    (.equal (.column "feature_id") (.param 1))).truth (bannerRow b) (Statement.filterParams f) =
      some (f.feature.accepts b.feature) := by
  obtain ⟨feature, tags, onlyActive, offset, limit⟩ := f
  cases feature with
  | all => exact Truth.true_or _
  | only x =>
    have hequal := Condition.truth_equal_int (bannerRow b)
      (Statement.filterParams ⟨.only x, tags, onlyActive, offset, limit⟩)
      (s := .column "feature_id") (t := .param 1) rfl rfl
    have hnull : (Condition.isNull (.typed 1 "int4")).truth (bannerRow b)
      (Statement.filterParams ⟨.only x, tags, onlyActive, offset, limit⟩) = some false := rfl
    rw [Condition.truth, hequal, hnull, Truth.some_or, Bool.false_or, Bool.beq_comm]
    rfl

lemma any_contains_comm (is js : List Int) : is.any js.contains = js.any is.contains := by
  rw [Bool.eq_iff_iff]
  simp only [List.any_eq_true, List.contains_iff_mem]
  exact ⟨fun ⟨i, hi, hj⟩ => ⟨i, hj, hi⟩, fun ⟨i, hj, hi⟩ => ⟨i, hi, hj⟩⟩

lemma truth_tags : (Condition.either (.equal (.cardinality (.typed 2 "int4[]")) (.number 0))
    (.overlap (.column "tag_ids") (.param 2))).truth (bannerRow b) (Statement.filterParams f) =
      some (f.tags.isEmpty || f.tags.any b.tags.contains) := by
  have hempty := Condition.truth_equal_int (bannerRow b) (Statement.filterParams f)
    (s := .cardinality (.typed 2 "int4[]")) (t := .number 0) rfl rfl
  have hoverlap := Condition.truth_overlap (bannerRow b) (Statement.filterParams f)
    (s := .column "tag_ids") (t := .param 2) rfl rfl
  have hlength : ((f.tags.length : Int) == 0) = f.tags.isEmpty := by
    rw [Bool.eq_iff_iff, beq_iff_eq, List.isEmpty_iff, Int.natCast_eq_zero,
      List.length_eq_zero_iff]
  rw [Condition.truth, hempty, hoverlap, Truth.some_or, any_contains_comm]
  exact congrArg (fun e => some (e || f.tags.any b.tags.contains)) hlength

lemma truth_active : (Condition.either (.not (.holds (.param 3)))
    (.holds (.column "is_active"))).truth (bannerRow b) (Statement.filterParams f) =
      some (!f.onlyActive || b.active) := by
  have hactive : (Condition.holds (.column "is_active")).truth (bannerRow b)
    (Statement.filterParams f) = some b.active := Condition.truth_holds _ _ rfl
  have honly : (Condition.holds (.param 3)).truth (bannerRow b)
    (Statement.filterParams f) = some f.onlyActive := Condition.truth_holds _ _ rfl
  change Truth.or (Truth.neg ((Condition.holds (.param 3)).truth _ _)) _ = _
  rw [hactive, honly, Truth.neg, Truth.some_or]

lemma selects_listing :
    Statement.listing.selects (Statement.filterParams f) (bannerRow b) = f.admits b := by
  have hall : Statement.listing.truth (bannerRow b) (Statement.filterParams f) =
      some (f.feature.accepts b.feature && (f.tags.isEmpty || f.tags.any b.tags.contains)
        && (!f.onlyActive || b.active)) := by
    rw [← Truth.some_and, ← Truth.some_and, ← truth_feature, ← truth_tags, ← truth_active]
    rfl
  rw [Condition.selects, hall]
  exact beq_true _

end

lemma page_bannerListing (f : Filter) {α : Type} (rows : List α) :
    bannerListing.page (Statement.filterParams f) rows = f.page rows := by
  have hlimit : (param (Statement.filterParams f) 5).toLimit = f.limit? := by
    change (Statement.optionalInt (f.limit?.map Int.ofNat)).toLimit = f.limit?
    cases f.limit? <;> rfl
  rw [Selection.page, bannerListing, hlimit]
  rfl

lemma returns_iff (f : Filter) {table rows : List Banner}
    (hid : table.Pairwise fun a b => a.id ≠ b.id) (hrows : rows.Perm table) (nextId : Int)
    (result : List Banner) :
    bannerListing.Returns bannerRow (Statement.selectBanners f).params table result ↔
      result = (Catalog.mk rows nextId).query f := by
  have hselected : (table.filter fun b =>
      bannerListing.condition.selects (Statement.filterParams f) (bannerRow b)) =
        table.filter f.admits := List.filter_congr fun b _ => selects_listing f b
  have hdistinct := hid.filter f.admits
  have hperm : (rows.filter f.admits).Perm (table.filter f.admits) := hrows.filter f.admits
  have hmerge := (List.mergeSort_perm (rows.filter f.admits) fun a b => a.id ≤ b.id).trans hperm
  have hquery : (Catalog.mk rows nextId).query f = bannerListing.page (Statement.filterParams f)
      ((rows.filter f.admits).mergeSort fun a b => a.id ≤ b.id) := (page_bannerListing f _).symm
  rw [hquery]
  constructor
  · -- the order that the database chose is that of the sort in memory, as no id stands twice
    rintro ⟨sorted, hsorted, hascending, rfl⟩
    rw [Statement.params, hselected] at hsorted
    rw [Banner.eq_of_ascending hdistinct hsorted hmerge hascending (Banner.mergeSort_ascending _)]
    rfl
  · rintro rfl
    refine ⟨_, ?_, Banner.mergeSort_ascending (rows.filter f.admits), rfl⟩
    rw [Statement.params, hselected]
    exact hmerge

/-- A table of rows with different ids answers a listing just as the catalog in memory that holds
the same rows in any order. -/
theorem listing_returns_query (f : Filter) {table rows : List Banner}
    (hid : table.Pairwise fun a b => a.id ≠ b.id) (hrows : rows.Perm table) (nextId : Int) :
    (Statement.selectBanners f).sql = Statement.bannerColumns ++ bannerListing.text ∧
    (∀ result, bannerListing.Returns bannerRow (Statement.selectBanners f).params table result ↔
      result = (Catalog.mk rows nextId).query f) ∧
    (storeCall (.query f)).Ends (Serves table)
      (· = ((Catalog.mk rows nextId).answer (.query f)).1) := by
  refine ⟨sql_selectBanners f, returns_iff f hid hrows nextId, ?_⟩
  rintro _ rfl _ ⟨result, hresult, rfl⟩ _ rfl
  exact congrArg Except.ok ((returns_iff f hid hrows nextId result).mp hresult)

theorem listing_returns_query_page :
    let table : List Banner := [.sample 3, { Banner.sample 2 with active := false }, .sample 1]
    let rows := table.reverse
    let f : Filter := ⟨.only 1, [2, 2], true, 1, 1⟩
    (table.Pairwise fun a b => a.id ≠ b.id) ∧ rows.Perm table ∧ ∀ result,
      bannerListing.Returns bannerRow (Statement.selectBanners f).params table result ↔
        result = [Banner.sample 3] := by
  intro table rows f
  have hid : table.Pairwise fun a b => a.id ≠ b.id := by simp [table, Banner.sample]
  have hrows : rows.Perm table := List.reverse_perm table
  refine ⟨hid, hrows, fun result => ?_⟩
  have hquery : (Catalog.mk rows 4).query f = [Banner.sample 3] := by
    have hfilter : rows.filter f.admits = [.sample 1, .sample 3] := rfl
    have hsorted : [Banner.sample 1, .sample 3].mergeSort (fun a b => decide (a.id ≤ b.id)) =
        [.sample 1, .sample 3] := List.mergeSort_of_pairwise (by simp [Banner.sample])
    rw [Catalog.query, Filter.select, hfilter, hsorted]
    rfl
  rw [(listing_returns_query f hid hrows 4).2.1, hquery]

end Billboard.Postgres
