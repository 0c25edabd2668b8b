/-
  File:      MatriXpost/Store/Opening.lean
  Subject:   OPENING A DATABASE FILE, STATEMENT BY STATEMENT: the migrations with their tables,
             columns and the errors SQLite gives.

  Sources: `SqliteRepository::migrate` of `storage.rs`, `migrate` and
  `migrate_history_to_redacted_projection` of `storage/articles.rs`.

  `Store.Migrate` has what the migrations do to the rows of one process; here two processes may
  open the same file, so a statement meets tables another one has made. A call is one query, or
  one batch from BEGIN to COMMIT; a batch that fails leaves the file as it was. The text of a
  request is read by `parse`, which stands for serde_json.

  * `baseBatch`, `versionBatch` and the parts of `convertHistory` are the statements, as data;
  * `performMigrate` says what each call answers and leaves, `Opening.migrate` which calls an open
    makes.
-/
import MatriXpost.Store.Migrate
import MatriXpost.Lib.Catalog
import MatriXpost.Lib.Dialogue

namespace MatriXpost

/-! ## 1. The statements -/

/-- The value of a column. A column of JSON holds its text. -/
inductive SqlValue where
  | null
  | integer (value : Int)
  | text (value : String)
deriving DecidableEq, Repr

/-- `INSERT INTO schema_migrations(version) VALUES (version)`. -/
def recordVersion (version : Nat) : Ddl SqlValue :=
  .insert "schema_migrations" [.integer version]

/-- The first batch, which runs on every open. -/
def baseBatch : List (Ddl SqlValue) :=
  [.createTableIfNotExists "schema_migrations" ["version"],
    .createTableIfNotExists "accounts" ["id", "platform", "display_name", "status"],
    .createTableIfNotExists "article_accounts" ["id", "platform", "display_name", "status"],
    .createTableIfNotExists "history" ["id", "request_json", "state", "recorded_at", "detail"],
    .createTableIfNotExists "jobs"
      ["id", "request_json", "state", "due_at", "revision", "updated_at"],
    .createTableIfNotExists "config" ["key", "value"],
    .createTableIfNotExists "job_sequence" ["id"],
    .insertOrIgnore "schema_migrations" [.integer 2],
    .insertOrIgnore "schema_migrations" [.integer 3]]

/-- The statements of the versions 4 to 8, before the version is recorded. -/
def versionStatements : Nat → List (Ddl SqlValue)
  | 4 =>
    [.addColumn "accounts" "phone" (.text ""), .addColumn "accounts" "partition" (.text ""),
      .addColumn "article_accounts" "phone" (.text ""),
      .addColumn "article_accounts" "partition" (.text "")]
  | 5 =>
    [.createTable "business_objects"
        ["id", "kind", "external_id", "display_name", "lifecycle_status", "approval_status",
          "revision", "attributes_json", "created_at", "updated_at"],
      .createUniqueIndex "business_objects_kind_external_id_unique",
      .createTable "ledger_entries"
        ["id", "business_object_id", "direction", "category", "amount_minor", "currency",
          "occurred_at", "approval_status", "counterparty", "reference", "description",
          "created_at"],
      .createTable "content_attributions" ["business_object_id", "history_id", "created_at"]]
  | 6 =>
    [.createTable "business_relations"
      ["id", "source_business_object_id", "target_business_object_id", "relation_type",
        "attributes_json", "created_at"]]
  | 7 => [.createTable "history_sequence" ["id"]]
  | 8 =>
    [.createTable "article_jobs"
        ["id", "request_json", "state", "due_at", "revision", "updated_at"],
      .createTable "article_history" ["id", "request_json", "state", "recorded_at", "detail"],
      .createTable "article_job_sequence" ["id"], .createTable "article_history_sequence" ["id"]]
  | _ => []

/-- `BEGIN; …; INSERT INTO schema_migrations(version) VALUES (version); COMMIT`. -/
def versionBatch (version : Nat) : List (Ddl SqlValue) :=
  versionStatements version ++ [recordVersion version]

def redactedTable : Ddl SqlValue :=
  .createTable "article_history_redacted"
    ["id", "platform", "title", "state", "recorded_at", "detail"]

/-- What follows the rows of the redacted history, before version 9 is recorded. -/
def redactedSwap : List (Ddl SqlValue) :=
  [.dropTable "article_history", .renameTable "article_history_redacted" "article_history"]

/-! ## 2. The legacy history -/

/-- A row of `SELECT id, request_json, state, recorded_at FROM article_history`. -/
structure LegacyRow where
  id : String
  requestJson : String
  state : String
  recordedAt : String
deriving DecidableEq, Repr

/-- `row.get::<_, String>(..)` of its columns. -/
def legacyRow : List SqlValue → Except DomainError LegacyRow
  | [.text id, .text requestJson, .text state, .text recordedAt] =>
    .ok ⟨id, requestJson, state, recordedAt⟩
  | _ => .error (.database "Invalid column type")

/-- An SQL error, as `DomainError::database` carries it. -/
def databaseResult {α : Type} (r : Except String α) : Except DomainError α :=
  r.mapError DomainError.database

/-- The legacy history, `ORDER BY recorded_at, id`. -/
def selectHistory (db : Catalog SqlValue) : Except DomainError (List LegacyRow) :=
  match db.tables "article_history" with
  | none => .error (.database "no such table: article_history")
  | some table => do
    let rows ← databaseResult (table.select ["id", "request_json", "state", "recorded_at"])
    let legacy ← rows.mapM legacyRow
    .ok (orderBy (fun _ => true) (fun row => (toLex (row.recordedAt, row.id) : String ×ₗ String))
      legacy)

/-- One row of the redacted history; `parse` reads the JSON text of the request. -/
def redactLegacy (parse : String → Except DomainError Json) (row : LegacyRow) :
    Except DomainError (List SqlValue) := do
  let request ← parse row.requestJson
  let redacted ← redactHistoryRow ⟨row.id, request, row.state, row.recordedAt, none⟩
  .ok [.text redacted.id, .text redacted.platform, .text redacted.title, .text redacted.state,
    .text redacted.recordedAt, (redacted.detail.map SqlValue.text).getD .null]

/-- The loop over the legacy rows. -/
def insertRedacted (parse : String → Except DomainError Json) :
    List LegacyRow → Catalog SqlValue → Except DomainError (Catalog SqlValue)
  | [], db => .ok db
  | row :: rest, db => do
    let redacted ← redactLegacy parse row
    let db' ← databaseResult ((Ddl.insert "article_history_redacted" redacted).run db)
    insertRedacted parse rest db'

/-- `BEGIN; …; COMMIT` of `migrate_history_to_redacted_projection`. -/
def convertHistory (parse : String → Except DomainError Json) (legacy : List LegacyRow)
    (db : Catalog SqlValue) : Except DomainError (Catalog SqlValue) := do
  let created ← databaseResult (redactedTable.run db)
  let filled ← insertRedacted parse legacy created
  databaseResult (runAll (redactedSwap ++ [recordVersion 9]) filled)

/-! ## 3. The program -/

/-- A call to the database: a query, or a batch. -/
inductive MigrateCall where
  | base
  | hasVersion (version : Nat)
  | batch (version : Nat)
  | selectHistory
  | convertHistory (legacy : List LegacyRow)
deriving DecidableEq, Repr

abbrev MigrateReply : MigrateCall → Type
  | .hasVersion _ => Except DomainError Bool
  | .selectHistory => Except DomainError (List LegacyRow)
  | _ => Except DomainError Unit

/-- `SELECT EXISTS(SELECT 1 FROM schema_migrations WHERE version=version)`. -/
def Catalog.hasVersion (version : Nat) (db : Catalog SqlValue) : Except DomainError Bool :=
  match db.tables "schema_migrations" with
  | none => .error (.database "no such table: schema_migrations")
  | some table => .ok ([SqlValue.integer version] ∈ table.rows)

/-- A batch: what it makes of the file, or its error and the file as it was. -/
def committed (r : Except DomainError (Catalog SqlValue)) (db : Catalog SqlValue) :
    Except DomainError Unit × Catalog SqlValue :=
  match r with
  | .ok db' => (.ok (), db')
  | .error e => (.error e, db)

/-- What a call answers, and the file it leaves. -/
def performMigrate (parse : String → Except DomainError Json) :
    (c : MigrateCall) → Catalog SqlValue → MigrateReply c × Catalog SqlValue
  | .base, db => committed (databaseResult (runAll baseBatch db)) db
  | .hasVersion version, db => (db.hasVersion version, db)
  | .batch version, db => committed (databaseResult (runAll (versionBatch version) db)) db
  | .selectHistory, db => (selectHistory db, db)
  | .convertHistory legacy, db => committed (convertHistory parse legacy db) db

/-- A program of such calls. -/
abbrev MigrateFlow (α : Type) := Talk MigrateCall MigrateReply DomainError α

namespace Opening

def base : MigrateFlow Unit := do
  Talk.lift (← Talk.ask .base)

def hasVersion (version : Nat) : MigrateFlow Bool := do
  Talk.lift (← Talk.ask (.hasVersion version))

def batch (version : Nat) : MigrateFlow Unit := do
  Talk.lift (← Talk.ask (.batch version))

/-- `migrate_history_to_redacted_projection`. -/
def migrateHistory : MigrateFlow Unit := do
  let legacy ← Talk.lift (← Talk.ask .selectHistory)
  Talk.lift (← Talk.ask (.convertHistory legacy))

/-- One guarded version. -/
def migrateVersion (version : Nat) : MigrateFlow Unit := do
  if ← hasVersion version then pure () else batch version

/-- The versions from this list on, and then version 9. -/
def migrateFrom : List Nat → MigrateFlow Unit
  | [] => do if ← hasVersion 9 then pure () else migrateHistory
  | version :: rest => do
    migrateVersion version
    migrateFrom rest

/-- `SqliteRepository::migrate`. -/
def migrate : MigrateFlow Unit := do
  base
  migrateFrom [4, 5, 6, 7, 8]

end Opening

end MatriXpost
