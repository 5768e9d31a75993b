import Billboard.Proofs.Postgres.Listing
import Billboard.Proofs.Store.Catalog
import Mathlib.Data.Multiset.Filter
import Mathlib.Logic.Function.Basic

/-! What the statements that write do to the rows of the tables. -/

namespace Billboard.Postgres

open Banner (Draft)
open Clock (Timestamp)

def Row.with (fields : List (String × Value)) (row : Row) : Row :=
  fun name => (fields.lookup name).getD (row name)

def Row.fresh (id : Int) : Row := fun name => if name = "id" then .int id else .null

def Row.revise (row : Row) (d : Draft) (updatedAt : Timestamp) : Row :=
  row.with [("feature_id", .int d.feature), ("tag_ids", .ints d.tags),
    ("is_active", .bool d.active), ("content", .json (Json.obj d.content).text),
    ("updated_at", .time updatedAt)]

def accountRow (a : Account) : Row :=
  (Row.fresh a.id).with [("username", .text a.username), ("password_hash", .text a.passwordHash),
    ("user_role", .text a.role.name), ("feature_id", Statement.optionalInt a.feature),
    ("tag_ids", .ints a.tags)]

lemma bannerRow_eq_with (b : Banner) :
    bannerRow b = (Row.fresh b.id).with [("feature_id", .int b.feature), ("tag_ids", .ints b.tags),
      ("is_active", .bool b.active), ("content", .json (Json.obj b.content).text),
      ("created_at", .time b.createdAt), ("updated_at", .time b.updatedAt)] := by
  funext name
  unfold bannerRow
  split
  any_goals rfl
  rename_i hid hfeature htags hactive hcontent hcreated hupdated
  simp only [Row.with, List.lookup_cons, beq_eq_false_iff_ne.mpr hfeature,
    beq_eq_false_iff_ne.mpr htags, beq_eq_false_iff_ne.mpr hactive,
    beq_eq_false_iff_ne.mpr hcontent, beq_eq_false_iff_ne.mpr hcreated,
    beq_eq_false_iff_ne.mpr hupdated]
  exact (if_neg hid).symm

lemma bannerRow_revise (b : Banner) (d : Draft) (updatedAt : Timestamp) :
    bannerRow (b.revise d updatedAt) = Row.revise (bannerRow b) d updatedAt := by
  funext name
  unfold bannerRow
  split
  any_goals rfl
  rename_i hid hfeature htags hactive hcontent hcreated hupdated
  simp only [Row.revise, Row.with, List.lookup_cons, beq_eq_false_iff_ne.mpr hfeature,
    beq_eq_false_iff_ne.mpr htags, beq_eq_false_iff_ne.mpr hactive,
    beq_eq_false_iff_ne.mpr hcontent, beq_eq_false_iff_ne.mpr hupdated]
  rfl

inductive Change where
  | insert (columns : List (String × Nat))
  | update (columns : List (String × Nat)) (condition : Condition)
  | delete (condition : Condition)

namespace Change

def commas : List String → String
  | [] => ""
  | [s] => s
  | s :: rest => s ++ ", " ++ commas rest

def text (table : String) : Change → String
  | .insert columns =>
    "INSERT INTO " ++ table ++ " (" ++ commas (columns.map (·.1)) ++ ") VALUES ("
      ++ commas (columns.map fun c => (Term.param c.2).text) ++ ") RETURNING id"
  | .update columns condition =>
    "UPDATE " ++ table ++ " SET "
      ++ commas (columns.map fun c => c.1 ++ " = " ++ (Term.param c.2).text)
      ++ " WHERE " ++ condition.text
  | .delete condition => "DELETE FROM " ++ table ++ " WHERE " ++ condition.text

abbrev Result : Change → Type
  | .insert _ => Option Int
  | .update .. => Nat
  | .delete _ => Nat

def fields (columns : List (String × Nat)) (ps : List Value) : List (String × Value) :=
  columns.map fun c => (c.1, param ps c.2)

def Makes (ps : List Value) (rows : Multiset Row) :
    (c : Change) → c.Result → Multiset Row → Prop
  | .insert columns, result, after =>
    ∃ id, result = some id ∧ (∀ row ∈ rows, row "id" ≠ .int id) ∧
      after = (Row.fresh id).with (fields columns ps) ::ₘ rows
  | .update columns condition, result, after =>
    result = rows.countP (fun row => condition.selects ps row) ∧
      after = rows.map fun row =>
        if condition.selects ps row then row.with (fields columns ps) else row
  | .delete condition, result, after =>
    result = rows.countP (fun row => condition.selects ps row) ∧
      after = rows.filter fun row => ¬condition.selects ps row

end Change

def byId : Condition := .equal (.column "id") (.param 1)

def bannerInsertion : Change :=
  .insert [("feature_id", 1), ("tag_ids", 2), ("is_active", 3), ("content", 4), ("created_at", 5),
    ("updated_at", 6)]

def bannerUpdate : Change :=
  .update [("feature_id", 2), ("tag_ids", 3), ("is_active", 4), ("content", 5), ("updated_at", 6)]
    byId

def bannerDeletion : Change := .delete byId

def accountInsertion : Change :=
  .insert [("username", 1), ("password_hash", 2), ("user_role", 3), ("feature_id", 4),
    ("tag_ids", 5)]

lemma natText_small {n : Nat} (h : n < 10) : Text.natText n = String.singleton (Text.digit n) := by
  rw [Text.natText, Text.natDigits_small h]
  rfl

lemma sql_insertBanner (d : Draft) (createdAt updatedAt : Timestamp) :
    (Statement.insertBanner d createdAt updatedAt).sql = bannerInsertion.text "banners" := by
  -- `delta`, since the equation lemma of a definition with long literals is slow to derive
  delta bannerInsertion Change.text
  simp only [List.map, Term.text]
  repeat rw [natText_small (by decide)]
  rfl

lemma sql_updateBanner (id : Int) (d : Draft) (updatedAt : Timestamp) :
    (Statement.updateBanner id d updatedAt).sql = bannerUpdate.text "banners" := by
  delta bannerUpdate byId Change.text
  simp only [Condition.text, List.map, Term.text]
  repeat rw [natText_small (by decide)]
  rfl

lemma sql_deleteBanner (id : Int) :
    (Statement.deleteBanner id).sql = bannerDeletion.text "banners" := by
  delta bannerDeletion byId Change.text
  simp only [Condition.text, Term.text]
  rw [natText_small (by decide)]
  rfl

lemma sql_insertAccount (d : Account.Draft) :
    (Statement.insertAccount d).sql = accountInsertion.text "users" := by
  delta accountInsertion Change.text
  simp only [List.map, Term.text]
  repeat rw [natText_small (by decide)]
  rfl

lemma selects_byId (id : Int) (ps : List Value) (row : Row) :
    byId.selects (.int id :: ps) row = true ↔ row "id" = .int id := by
  have hparam : (Term.param 1).value row (.int id :: ps) = .int id := rfl
  have hcolumn : (Term.column "id").value row (.int id :: ps) = row "id" := rfl
  rw [Condition.selects, beq_iff_eq, byId, Condition.truth, hparam, hcolumn]
  cases h : row "id" <;> simp

variable {rows after : Multiset Row}

lemma makes_bannerInsertion {d : Draft} {createdAt updatedAt : Timestamp} {result : Option Int}
    (h : bannerInsertion.Makes (Statement.insertBanner d createdAt updatedAt).params rows result
      after) : ∃ id, result = some id ∧ (∀ row ∈ rows, row "id" ≠ .int id) ∧
    after = bannerRow (.ofDraft id d (Statement.columnTime createdAt)
      (Statement.columnTime updatedAt)) ::ₘ rows := by
  obtain ⟨id, hresult, hfresh, hafter⟩ := h
  refine ⟨id, hresult, hfresh, ?_⟩
  rw [hafter, bannerRow_eq_with]
  rfl

lemma makes_accountInsertion {d : Account.Draft} {result : Option Int}
    (h : accountInsertion.Makes (Statement.insertAccount d).params rows result after) :
    ∃ id, result = some id ∧ (∀ row ∈ rows, row "id" ≠ .int id) ∧
      after = accountRow (.ofDraft id d) ::ₘ rows := h

lemma countP_byId (id : Int) (ps : List Value) :
    0 < rows.countP (fun row => byId.selects (.int id :: ps) row) ↔
      ∃ row ∈ rows, row "id" = .int id := by
  rw [Multiset.countP_pos]
  exact exists_congr fun row => and_congr_right fun _ => selects_byId id ps row

lemma makes_bannerUpdate {id : Int} {d : Draft} {updatedAt : Timestamp} {result : Nat}
    (h : bannerUpdate.Makes (Statement.updateBanner id d updatedAt).params rows result after) :
    (0 < result ↔ ∃ row ∈ rows, row "id" = .int id) ∧
      after = rows.map fun row =>
        if row "id" = .int id then row.revise d (Statement.columnTime updatedAt) else row := by
  obtain ⟨hresult, hafter⟩ := h
  rw [hresult, hafter]
  refine ⟨countP_byId id _, Multiset.map_congr rfl fun row _ => ?_⟩
  exact if_congr (selects_byId id _ row) rfl rfl

lemma makes_bannerDeletion {id : Int} {result : Nat}
    (h : bannerDeletion.Makes (Statement.deleteBanner id).params rows result after) :
    (0 < result ↔ ∃ row ∈ rows, row "id" = .int id) ∧
      after = rows.filter fun row => row "id" ≠ .int id := by
  obtain ⟨hresult, hafter⟩ := h
  rw [hresult, hafter]
  refine ⟨countP_byId id _, Multiset.filter_congr fun row _ => ?_⟩
  exact not_congr (selects_byId id _ row)

def catalogTable (c : Catalog) : Multiset Row := (c.rows.map bannerRow : List Row)

variable (c : Catalog) (id : Int) (d : Draft)

lemma catalogTable_create (createdAt updatedAt : Timestamp) :
    catalogTable (c.create d createdAt updatedAt).2 =
      bannerRow (.ofDraft c.nextId d createdAt updatedAt) ::ₘ catalogTable c := by
  rw [catalogTable, Catalog.create, List.map_append]
  exact Multiset.coe_eq_coe.mpr (List.perm_append_singleton _ _)

lemma bannerRow_id (b : Banner) : bannerRow b "id" = .int id ↔ b.id = id := by
  rw [bannerRow, Value.int.injEq]

lemma catalogTable_update (updatedAt : Timestamp) :
    catalogTable (c.update id d updatedAt).2 = (catalogTable c).map fun row =>
      if row "id" = .int id then row.revise d updatedAt else row := by
  rw [catalogTable, Catalog.rows_update, catalogTable, Multiset.map_coe, List.map_map, List.map_map]
  refine congrArg _ (List.map_congr_left fun b _ => ?_)
  simp only [Function.comp_apply, bannerRow_id]
  split_ifs
  · exact bannerRow_revise b d updatedAt
  · rfl

lemma catalogTable_delete :
    catalogTable (c.delete id).2 = (catalogTable c).filter fun row => row "id" ≠ .int id := by
  rw [catalogTable, Catalog.rows_delete, catalogTable, Multiset.filter_coe, List.filter_map]
  refine congrArg _ (congrArg _ (List.filter_congr fun b _ => ?_))
  simp only [Function.comp_apply, ne_eq, bannerRow_id]
  exact (decide_not ..).symm

end Billboard.Postgres
