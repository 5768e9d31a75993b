import Billboard.Store.Call

/-! The catalog of banners in memory. An id is given out once, also if its row is deleted later. -/

namespace Billboard

open Banner (Draft Filter)
open Clock (Timestamp)

def Banner.Filter.select (f : Filter) (rows : List Banner) : List Banner :=
  f.page ((rows.filter f.admits).mergeSort fun a b => a.id ≤ b.id)

structure Catalog where
  rows : List Banner := []
  nextId : Int := 1
deriving DecidableEq, Repr

def Banner.revise (b : Banner) (d : Draft) (updatedAt : Timestamp) : Banner :=
  { b with feature := d.feature, tags := d.tags, active := d.active, content := d.content,
           updatedAt := updatedAt }

namespace Catalog

def find? (c : Catalog) (id : Int) : Option Banner := c.rows.find? (·.id == id)

def create (c : Catalog) (d : Draft) (createdAt updatedAt : Timestamp) : Int × Catalog :=
  (c.nextId, ⟨c.rows ++ [.ofDraft c.nextId d createdAt updatedAt], c.nextId + 1⟩)

def update (c : Catalog) (id : Int) (d : Draft) (updatedAt : Timestamp) :
    Except StoreError Unit × Catalog :=
  match c.find? id with
  | none => (.error (.noBanner id), c)
  | some _ =>
    (.ok (), { c with rows := c.rows.map fun b => if b.id = id then b.revise d updatedAt else b })

def delete (c : Catalog) (id : Int) : Except StoreError Unit × Catalog :=
  match c.find? id with
  | none => (.error (.noBanner id), c)
  | some _ => (.ok (), { c with rows := c.rows.filter (·.id != id) })

def query (c : Catalog) (f : Filter) : List Banner := f.select c.rows

def answer : (c : StoreCall) → Catalog → c.Answer × Catalog
  | .create d createdAt updatedAt, s =>
    let (id, s) := s.create d createdAt updatedAt
    (.ok id, s)
  | .update id d updatedAt, s => s.update id d updatedAt
  | .delete id, s => s.delete id
  | .get id, s => (.ok (s.find? id), s)
  | .query f, s => (.ok (s.query f), s)
  | .ping, s => (.ok (), s)
  | .close, s => (.ok (), s)

end Catalog

end Billboard
