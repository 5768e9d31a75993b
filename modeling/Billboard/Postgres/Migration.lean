import Billboard.Postgres.Store

/-! Migrations. Nothing is migrated if the ledger names one that was not ended or that is unknown.
-/

namespace Billboard.Postgres

namespace Migration

def banners : Migration where
  version := 20240410000001
  description := "banners"
  script :=
    "-- Banner catalog. CREATE TABLE IF NOT EXISTS banners ( id BIGSERIAL PRIMARY KEY, "
      ++ "feature_id INTEGER NOT NULL, tag_ids INTEGER[] NOT NULL, "
      ++ "is_active BOOLEAN NOT NULL DEFAULT TRUE, content JSONB NOT NULL DEFAULT '\x7b\x7d'::jsonb, "
      ++ "created_at TIMESTAMPTZ NOT NULL DEFAULT now(), "
      ++ "updated_at TIMESTAMPTZ NOT NULL DEFAULT now(), "
      ++ "CONSTRAINT banners_tags_not_empty CHECK (cardinality(tag_ids) > 0) ); "
      ++ "CREATE INDEX IF NOT EXISTS banners_feature_id_idx ON banners (feature_id); "
      ++ "CREATE INDEX IF NOT EXISTS banners_tag_ids_gin_idx ON banners USING GIN (tag_ids);"

def accounts : Migration where
  version := 20240410000002
  description := "users"
  script :=
    "-- Accounts that can obtain tokens. CREATE TABLE IF NOT EXISTS users ( "
      ++ "id BIGSERIAL PRIMARY KEY, username TEXT NOT NULL UNIQUE, password_hash TEXT NOT NULL, "
      ++ "user_role TEXT NOT NULL DEFAULT 'user', feature_id INTEGER, tag_ids INTEGER[], "
      ++ "CONSTRAINT users_role_known CHECK (user_role IN ('admin', 'user')) );"

def all : List Migration := [banners, accounts]

end Migration

inductive MigrationError where
  | ledger (e : ClientError)
  | script (version : Int) (e : ClientError)
  | unfinished (version : Int)
  | unknown (version : Int)
  | changed (version : Int)
deriving DecidableEq, Repr

def MigrationError.message : MigrationError → String
  | .ledger e => "while executing migrations: " ++ e.message
  | .script version e => "while executing migration " ++ Text.intText version ++ ": " ++ e.message
  | .unfinished version =>
    "migration " ++ Text.intText version
      ++ " is partially applied; fix and remove row from `_sqlx_migrations` table"
  | .unknown version =>
    "migration " ++ Text.intText version
      ++ " was previously applied but is missing in the resolved migrations"
  | .changed version =>
    "migration " ++ Text.intText version ++ " was previously applied but has been modified"

def bookkeep (r : Except ClientError α) : Except MigrationError α := r.mapError .ledger

def makeMigration (m : Migration) : Session (Except MigrationError Unit) := do
  match bookkeep (← Session.send .start) with
  | .error e => return .error e
  | .ok () =>
    match (← Session.run (.runMigration m)).mapError (MigrationError.script m.version) with
    | .error e => return .error e
    | .ok () =>
      match bookkeep (← Session.run (.recordMigration m)) with
      | .error e => return .error e
      | .ok () =>
        match bookkeep (← Session.send .commit) with
        | .error e => return .error e
        | .ok () => return bookkeep (← Session.run (.timeMigration m))

def makeMigrations (applied : List (Int × List UInt8)) :
    List Migration → Session (Except MigrationError Unit)
  | [] => return .ok ()
  | m :: rest =>
    match applied.find? (·.1 == m.version) with
    | some (_, checksum) =>
      if checksum = [] then makeMigrations applied rest else return .error (.changed m.version)
    | none => do
      match ← makeMigration m with
      | .error e => return .error e
      | .ok () => makeMigrations applied rest

def unknownMigration (applied : List (Int × List UInt8)) : Option Int :=
  (applied.find? fun a => !Migration.all.any (·.version == a.1)).map (·.1)

def updateTables : Session (Except MigrationError Unit) := do
  match bookkeep (← Session.run .createLedger) with
  | .error e => return .error e
  | .ok () =>
    match bookkeep (← Session.run .unfinishedMigration) with
    | .error e => return .error e
    | .ok (some version) => return .error (.unfinished version)
    | .ok none =>
      match bookkeep (← Session.run .appliedMigrations) with
      | .error e => return .error e
      | .ok applied =>
        match unknownMigration applied with
        | some version => return .error (.unknown version)
        | none => makeMigrations applied Migration.all

def migrate : Session (Except MigrationError Unit) := do
  match bookkeep (← Session.run .databaseName) with
  | .error e => return .error e
  | .ok () =>
    match bookkeep (← Session.run .lockMigrations) with
    | .error e => return .error e
    | .ok () =>
      match ← updateTables with
      | .error e => return .error e
      | .ok () => return bookkeep (← Session.run .unlockMigrations)

def connect (runMigrations : Bool) : Session (Except StoreError Unit) := do
  match ← Session.send .connect with
  | .error e => return .error (Failure.connection e).toStore
  | .ok () =>
    match ← test with
    | .error e => return .error e
    | .ok () =>
      if runMigrations then
        return (← migrate).mapError fun e => (Failure.migration e.message).toStore
      else return .ok ()

end Billboard.Postgres
