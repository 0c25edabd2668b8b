/-
  File:      MatriXpost/Store/Migrate.lean
  Subject:   OPENING A DATABASE: `SqliteRepository::open` applies the migrations whose versions
             are not yet recorded.

  Of what the migrations create and alter only the tables of `Store` are here, and the rows of
  `article_history` as they are before version 9.

  * `migrate_jobs`: no migration touches the rows of `jobs`;
  * `migrate_current`: on a database at the last version nothing changes at all.
-/
import MatriXpost.Store.Articles

namespace MatriXpost

/-- A database file: its tables, the recorded versions, and the rows of `article_history` as they
    stand between the versions 8 and 9, with the request in full. -/
structure Database where
  store : Store
  versions : List Nat
  legacy : List HistoryRow

/-! ## 1. The migrations -/

/-- `INSERT OR IGNORE INTO schema_migrations(version)`. -/
def Database.record (db : Database) (version : Nat) : Database :=
  if version ∈ db.versions then db else { db with versions := db.versions ++ [version] }

/-- `BEGIN; CREATE TABLE IF NOT EXISTS …; INSERT OR IGNORE …; COMMIT`. -/
def migrateBase (db : Database) : Database := (db.record 2).record 3

/-- `SELECT EXISTS(SELECT 1 FROM schema_migrations WHERE version = version)`. -/
def hasVersion (version : Nat) : Sql DomainError Database Bool :=
  Sql.query fun db => decide (version ∈ db.versions)

/-- What the batches of the versions 4 to 8 create among the tables here, all of it empty. -/
def migrateBatch (version : Nat) (db : Database) : Database :=
  let store :=
    if version = 7 then { db.store with historySequence := 0 }
    else if version = 8 then
      { db.store with
        articleJobs := .empty, articleHistory := .empty, articleJobSequence := 0,
        articleHistorySequence := 0 }
    else db.store
  { db with store := store, versions := db.versions ++ [version] }

/-- One row of the redacted history. -/
def redactHistoryRow (row : HistoryRow) : Except DomainError ArticleHistoryRow := do
  let request ← PublishArticleRequest.fromJson row.requestJson
  let platform ← request.articlePlatform
  let state ← PublishState.fromDb row.state
  .ok ⟨row.id, articlePlatformDb platform, request.title, state.db, row.recordedAt,
    some (fixedHistoryDetail state)⟩

/-- The rows `ORDER BY recorded_at, id`, redacted into an empty table. -/
def redactHistory (legacy : List HistoryRow) : Except DomainError (Table ArticleHistoryRow.id) :=
  let ordered := legacy.insertionSort fun a b =>
    (toLex (a.recordedAt, a.id) : String ×ₗ String) ≤ toLex (b.recordedAt, b.id)
  ordered.foldlM (fun table row => do
    match table.insert (← redactHistoryRow row) with
    | some table => .ok table
    | none => .error (uniqueViolation "article_history_redacted.id")) .empty

/-- `migrate_history_to_redacted_projection`: an error in its batch is rolled back. -/
def migrateHistoryToRedactedProjection (db : Database) : Except DomainError (Unit × Database) := do
  let table ← redactHistory db.legacy
  .ok ((), { db with
    store := { db.store with articleHistory := table }, versions := db.versions ++ [9],
    legacy := [] })

/-- One guarded migration. -/
def migrateVersion (version : Nat) (batch : Sql DomainError Database Unit) :
    Sql DomainError Database Unit := do
  if ← hasVersion version then pure () else batch

/-- `SqliteRepository::migrate`. -/
def migrate : Sql DomainError Database Unit := do
  Sql.execute fun db => ((), migrateBase db)
  migrateVersion 4 (Sql.execute fun db => ((), migrateBatch 4 db))
  migrateVersion 5 (Sql.execute fun db => ((), migrateBatch 5 db))
  migrateVersion 6 (Sql.execute fun db => ((), migrateBatch 6 db))
  migrateVersion 7 (Sql.execute fun db => ((), migrateBatch 7 db))
  migrateVersion 8 (Sql.execute fun db => ((), migrateBatch 8 db))
  migrateVersion 9 (Sql.statement migrateHistoryToRedactedProjection)

/-! ## 2. What they leave alone -/

theorem record_store (db : Database) (version : Nat) : (db.record version).store = db.store := by
  unfold Database.record
  split <;> rfl

theorem migrateBatch_jobs (version : Nat) (db : Database) :
    (migrateBatch version db).store.jobs = db.store.jobs := by
  unfold migrateBatch
  dsimp only
  split
  · rfl
  · split <;> rfl

theorem redactedProjection_jobs {db db' : Database} {u : Unit}
    (h : migrateHistoryToRedactedProjection db = .ok (u, db')) :
    db'.store.jobs = db.store.jobs := by
  unfold migrateHistoryToRedactedProjection at h
  cases hr : redactHistory db.legacy with
  | error e =>
    rw [hr] at h
    cases h
  | ok table =>
    rw [hr] at h
    cases h
    rfl

section Runs
variable {db db' : Database} {version : Nat}

theorem hasVersion_ok {b : Bool} (h : Sql.Runs (hasVersion version) db (.ok b) db') :
    b = decide (version ∈ db.versions) ∧ db' = db := Sql.runs_query_ok.mp h

/-- A guarded migration that keeps the jobs when it runs keeps them. -/
theorem migrateVersion_jobs {batch : Sql DomainError Database Unit}
    (hbatch : ∀ m m', Sql.Runs batch m (.ok ()) m' → m'.store.jobs = m.store.jobs)
    (h : Sql.Runs (migrateVersion version batch) db (.ok ()) db') :
    db'.store.jobs = db.store.jobs := by
  obtain ⟨b, m, hquery, hrest⟩ := Sql.runs_bind_ok h
  obtain ⟨-, rfl⟩ := hasVersion_ok hquery
  split at hrest
  · rw [(Sql.runs_pure.mp hrest).2]
  · exact hbatch m db' hrest

theorem migrateBatch_version_jobs
    (h : Sql.Runs (migrateVersion version (Sql.execute fun db => ((), migrateBatch version db))) db
      (.ok ()) db') : db'.store.jobs = db.store.jobs := by
  refine migrateVersion_jobs (fun m m' hrun => ?_) h
  rw [Sql.runs_execute_ok] at hrun
  rw [← (Prod.mk.inj hrun).2, migrateBatch_jobs]

/-- **Opening a database keeps every row of `jobs`, whatever version it is at.** -/
theorem migrate_jobs (h : Sql.Runs migrate db (.ok ()) db') : db'.store.jobs = db.store.jobs := by
  obtain ⟨u, m, hbase, h⟩ := Sql.runs_bind_ok h
  obtain ⟨u4, m4, h4, h⟩ := Sql.runs_bind_ok h
  obtain ⟨u5, m5, h5, h⟩ := Sql.runs_bind_ok h
  obtain ⟨u6, m6, h6, h⟩ := Sql.runs_bind_ok h
  obtain ⟨u7, m7, h7, h⟩ := Sql.runs_bind_ok h
  obtain ⟨u8, m8, h8, h9⟩ := Sql.runs_bind_ok h
  have hprojection : db'.store.jobs = m8.store.jobs := by
    refine migrateVersion_jobs (fun n n' hrun => ?_) h9
    rw [Sql.runs_statement_ok] at hrun
    exact redactedProjection_jobs hrun
  rw [Sql.runs_execute_ok] at hbase
  rw [hprojection, migrateBatch_version_jobs h8, migrateBatch_version_jobs h7,
    migrateBatch_version_jobs h6, migrateBatch_version_jobs h5, migrateBatch_version_jobs h4,
    ← (Prod.mk.inj hbase).2, migrateBase, record_store, record_store]

/-- All versions are recorded. -/
def Database.Current (db : Database) : Prop :=
  ∀ version, 2 ≤ version → version ≤ 9 → version ∈ db.versions

theorem record_current (hcur : db.Current) (hlow : 2 ≤ version) (hhigh : version ≤ 9) :
    db.record version = db := if_pos (hcur version hlow hhigh)

theorem migrateVersion_current (batch : Sql DomainError Database Unit) (hcur : db.Current)
    (hlow : 2 ≤ version) (hhigh : version ≤ 9) :
    Sql.Clean (migrateVersion version batch) db (.ok ()) db := by
  refine Sql.Clean.bind (Sql.clean_query _ db) ?_
  rw [decide_eq_true (hcur version hlow hhigh)]
  exact Sql.clean_pure _ _

/-- **On a database at the last version opening changes nothing.** -/
theorem migrate_current (hcur : db.Current) : Sql.Clean migrate db (.ok ()) db := by
  have hbase : migrateBase db = db := by
    rw [migrateBase, record_current hcur (by omega) (by omega),
      record_current hcur (by omega) (by omega)]
  refine Sql.Clean.bind (a := ()) (m := db) ?_ ?_
  · have hexec := Sql.clean_execute (ε := DomainError) (fun db => ((), migrateBase db)) db
    dsimp only at hexec
    rwa [hbase] at hexec
  refine (migrateVersion_current _ hcur (by omega) (by omega)).bind ?_
  refine (migrateVersion_current _ hcur (by omega) (by omega)).bind ?_
  refine (migrateVersion_current _ hcur (by omega) (by omega)).bind ?_
  refine (migrateVersion_current _ hcur (by omega) (by omega)).bind ?_
  refine (migrateVersion_current _ hcur (by omega) (by omega)).bind ?_
  exact migrateVersion_current _ hcur (by omega) (by omega)

end Runs

end MatriXpost
