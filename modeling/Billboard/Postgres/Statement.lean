import Billboard.Account
import Billboard.Banner.Filter
import Billboard.Json.Writer
import Billboard.Postgres.Condition

namespace Billboard.Postgres

open Banner (Draft Filter)
open Clock (Timestamp)

structure Migration where
  version : Int
  description : String
  script : String
deriving DecidableEq, Repr

structure AccountRow where
  id : Int
  username : String
  passwordHash : String
  role : String
  feature : Option Int
  tags : Option (List Int)
deriving DecidableEq, Repr

inductive Statement where
  | test
  | insertBanner (d : Draft) (createdAt updatedAt : Timestamp)
  | updateBanner (id : Int) (d : Draft) (updatedAt : Timestamp)
  | deleteBanner (id : Int)
  | findBanner (id : Int)
  | selectBanners (f : Filter)
  | insertAccount (d : Account.Draft)
  | findAccount (username : String)
  | databaseName
  | lockMigrations
  | unlockMigrations
  | createLedger
  | unfinishedMigration
  | appliedMigrations
  | runMigration (m : Migration)
  | recordMigration (m : Migration)
  | timeMigration (m : Migration)
deriving DecidableEq, Repr

namespace Statement

abbrev Result : Statement → Type
  | .insertBanner .. => Option Int
  | .updateBanner .. => Nat
  | .deleteBanner _ => Nat
  | .findBanner _ => Option Banner
  | .selectBanners _ => List Banner
  | .insertAccount _ => Option Int
  | .findAccount _ => Option AccountRow
  | .unfinishedMigration => Option Int
  | .appliedMigrations => List (Int × List UInt8)
  | _ => Unit

def epoch : Int := 946684800

def columnTime (t : Timestamp) : Timestamp :=
  let micros := Int.tdiv ((t.seconds - epoch) * 1000000000 + t.nanos) 1000
  ⟨micros / 1000000 + epoch, ((micros % 1000000) * 1000).toNat⟩

def bannerColumns : String :=
  "SELECT id, feature_id, tag_ids, is_active, content, created_at, updated_at FROM banners"

def listing : Condition :=
  .both (.both
    (.either (.isNull (.typed 1 "int4")) (.equal (.column "feature_id") (.param 1)))
    (.either (.equal (.cardinality (.typed 2 "int4[]")) (.number 0))
      (.overlap (.column "tag_ids") (.param 2))))
    (.either (.not (.holds (.param 3))) (.holds (.column "is_active")))

def sql : Statement → String
  | .test => "SELECT 1"
  | .insertBanner .. =>
    "INSERT INTO banners (feature_id, tag_ids, is_active, content, created_at, updated_at) "
      ++ "VALUES ($1, $2, $3, $4, $5, $6) RETURNING id"
  | .updateBanner .. =>
    "UPDATE banners SET feature_id = $2, tag_ids = $3, is_active = $4, content = $5, "
      ++ "updated_at = $6 WHERE id = $1"
  | .deleteBanner _ => "DELETE FROM banners WHERE id = $1"
  | .findBanner _ => bannerColumns ++ " WHERE id = $1"
  | .selectBanners _ =>
    bannerColumns ++ " WHERE " ++ listing.text ++ " ORDER BY id ASC OFFSET $4 LIMIT $5"
  | .insertAccount _ =>
    "INSERT INTO users (username, password_hash, user_role, feature_id, tag_ids) "
      ++ "VALUES ($1, $2, $3, $4, $5) RETURNING id"
  | .findAccount _ =>
    "SELECT id, username, password_hash, user_role, feature_id, tag_ids FROM users "
      ++ "WHERE username = $1"
  | .databaseName => "SELECT current_database()"
  | .lockMigrations => "SELECT pg_advisory_lock($1)"
  | .unlockMigrations => "SELECT pg_advisory_unlock($1)"
  | .createLedger =>
    "CREATE TABLE IF NOT EXISTS _sqlx_migrations ( version BIGINT PRIMARY KEY, "
      ++ "description TEXT NOT NULL, installed_on TIMESTAMPTZ NOT NULL DEFAULT now(), "
      ++ "success BOOLEAN NOT NULL, checksum BYTEA NOT NULL, execution_time BIGINT NOT NULL );"
  | .unfinishedMigration =>
    "SELECT version FROM _sqlx_migrations WHERE success = false ORDER BY version LIMIT 1"
  | .appliedMigrations => "SELECT version, checksum FROM _sqlx_migrations ORDER BY version"
  | .runMigration m => m.script
  | .recordMigration _ =>
    "INSERT INTO _sqlx_migrations ( version, description, success, checksum, execution_time ) "
      ++ "VALUES ( $1, $2, TRUE, $3, -1 )"
  | .timeMigration _ => "UPDATE _sqlx_migrations SET execution_time = $1 WHERE version = $2"

def optionalInt : Option Int → Value
  | some i => .int i
  | none => .null

def draftParams (d : Draft) : List Value :=
  [.int d.feature, .ints d.tags, .bool d.active, .json (Json.obj d.content).text]

def filterParams (f : Filter) : List Value :=
  [optionalInt f.feature.toOption, .ints f.tags, .bool f.onlyActive, .int f.offset,
   optionalInt (f.limit?.map Int.ofNat)]

def params : Statement → List Value
  | .insertBanner d createdAt updatedAt =>
    draftParams d ++ [.time (columnTime createdAt), .time (columnTime updatedAt)]
  | .updateBanner id d updatedAt => .int id :: draftParams d ++ [.time (columnTime updatedAt)]
  | .deleteBanner id => [.int id]
  | .findBanner id => [.int id]
  | .selectBanners f => filterParams f
  | .insertAccount d =>
    [.text d.username, .text d.passwordHash, .text d.role.name, optionalInt d.feature, .ints d.tags]
  | .findAccount username => [.text username]
  | .recordMigration m => [.int m.version, .text m.description, .bytes []]
  | _ => []

end Statement

end Billboard.Postgres
