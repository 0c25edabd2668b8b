/-
  File:      MatriXpost/Store/Redaction.lean
  Subject:   THE MIGRATIONS STATEMENT BY STATEMENT, and what becomes of a legacy article history.

  Sources: `SqliteRepository::migrate` of `storage.rs`, `migrate` and
  `migrate_history_to_redacted_projection` of `storage/articles.rs`.

  `Store.Opening` has a batch as one call, which fails as a whole. Here BEGIN, COMMIT and ROLLBACK
  are statements of their own: the conversion of the history begins its transaction in one batch,
  inserts row by row, and commits in another batch, so what an error in the middle undoes is a
  theorem about the statements.

  * `does_batch`, `does_convertRows`: the statements of a call do what the call does in
    `Store.Opening` (`perform_statements`), so `Store.VersionNine` says what they make of a file;
  * **`redaction_lossless_atomic`**: the migration of a file at version 8 redacts its history
    row by row, if every row can be redacted, and otherwise leaves it as it was; a second one
    changes nothing.
-/
import MatriXpost.Store.VersionNine
import MatriXpost.Lib.Connection

namespace MatriXpost

/-- A program on a connection to a database file. -/
abbrev Session (α : Type) := Sql DomainError (Connection (Catalog SqlValue)) α

namespace Session

open Connection

/-! ## 1. The program -/

/-- `connection.execute`. -/
def execute (statement : Statement (Ddl SqlValue)) : Session Unit :=
  Connection.execute Ddl.run statement

/-- `connection.execute_batch`. -/
def executeBatch (statements : List (Statement (Ddl SqlValue))) : Session Unit :=
  Connection.executeBatch Ddl.run statements

/-- `SELECT EXISTS(SELECT 1 FROM schema_migrations WHERE version=version)`. -/
def hasVersion (version : Nat) : Session Bool := query (Catalog.hasVersion version)

/-- `SELECT id, request_json, state, recorded_at FROM article_history ORDER BY recorded_at, id`. -/
def legacyHistory : Session (List LegacyRow) := query MatriXpost.selectHistory

/-- The loop over the legacy rows: decode one, insert what it is redacted to. -/
def insertRedacted (parse : String → Except DomainError Json) : List LegacyRow → Session Unit
  | [] => pure ()
  | row :: rest => do
    let redacted ← Sql.lift (redactLegacy parse row)
    execute (.apply (.insert "article_history_redacted" redacted))
    insertRedacted parse rest

/-- The closure of `migrate_history_to_redacted_projection`. -/
def fillAndSwap (parse : String → Except DomainError Json) (legacy : List LegacyRow) :
    Session Unit := do
  insertRedacted parse legacy
  executeBatch ((redactedSwap ++ [recordVersion 9]).map .apply ++ [.commit])

/-- What follows the query: the first batch opens the transaction, the closure fills and commits
    it, and an error of the closure rolls it back. -/
def convertRows (parse : String → Except DomainError Json) (legacy : List LegacyRow) :
    Session Unit := do
  executeBatch [.beginTransaction, .apply redactedTable]
  Sql.onError (fillAndSwap parse legacy) (executeBatch [.rollback])

/-- `migrate_history_to_redacted_projection`. -/
def migrateHistoryToRedactedProjection (parse : String → Except DomainError Json) :
    Session Unit := do
  let legacy ← legacyHistory
  convertRows parse legacy

/-- One guarded version. -/
def migrateVersion (version : Nat) (change : Session Unit) : Session Unit := do
  if ← hasVersion version then pure () else change

/-- `articles::migrate`. -/
def articlesMigrate (parse : String → Except DomainError Json) : Session Unit := do
  migrateVersion 8 (executeBatch (transaction (versionBatch 8)))
  migrateVersion 9 (migrateHistoryToRedactedProjection parse)

/-- `SqliteRepository::migrate`. -/
def migrate (parse : String → Except DomainError Json) : Session Unit := do
  executeBatch (transaction baseBatch)
  migrateVersion 4 (executeBatch (transaction (versionBatch 4)))
  migrateVersion 5 (executeBatch (transaction (versionBatch 5)))
  migrateVersion 6 (executeBatch (transaction (versionBatch 6)))
  migrateVersion 7 (executeBatch (transaction (versionBatch 7)))
  articlesMigrate parse

/-! ## 2. Statements and calls -/

section Calls
variable {parse : String → Except DomainError Json} {db db' : Catalog SqlValue}
variable {file : Catalog SqlValue} {legacy : List LegacyRow}

theorem applyAll_run (ds : List (Ddl SqlValue)) (db : Catalog SqlValue) :
    applyAll Ddl.run ds db = runAll ds db := by
  induction ds generalizing db with
  | nil => rfl
  | cons d rest ih =>
    show (d.run db >>= applyAll Ddl.run rest) = (d.run db).bind (runAll rest)
    rw [show applyAll Ddl.run rest = runAll rest from funext ih]
    rfl

/-- A batch from BEGIN to COMMIT. -/
theorem does_batch (ds : List (Ddl SqlValue)) (db : Catalog SqlValue) :
    Does (executeBatch (transaction ds)) (closed db) (databaseResult (runAll ds db)) closed
      (FileIs db) := by
  rw [← applyAll_run]
  exact does_transaction ds

/-- **The loop in the transaction fills the table row by row**, and stops at the first row that
    cannot be redacted. -/
theorem does_insertRedacted (legacy : List LegacyRow) (m : Catalog SqlValue) :
    Does (insertRedacted parse legacy) (inside file m) (MatriXpost.insertRedacted parse legacy m)
      (inside file) (Open file) := by
  induction legacy generalizing m with
  | nil => exact does_pure m
  | cons row rest ih =>
    refine does_lift (fun redacted _ => ?_) ⟨m, rfl⟩
    exact (does_apply (Ddl.insert "article_history_redacted" redacted)).bind fun m' _ => ih m'

theorem does_fillAndSwap (legacy : List LegacyRow) (m : Catalog SqlValue) :
    Does (fillAndSwap parse legacy) (inside file m)
      (MatriXpost.insertRedacted parse legacy m >>= fun filled =>
        databaseResult (runAll (redactedSwap ++ [recordVersion 9]) filled)) closed (Open file) := by
  refine (does_insertRedacted legacy m).bind fun filled _ => ?_
  rw [← applyAll_run]
  exact does_committed _

/-- The first batch of the conversion leaves its transaction open. -/
theorem does_openRedacted (db : Catalog SqlValue) :
    Does (executeBatch [.beginTransaction, .apply redactedTable]) (closed db)
      (databaseResult (redactedTable.run db)) (inside db) (FileIs db) := by
  have hbegin : Does (execute .beginTransaction) (closed db) (.ok db) (inside db) (FileIs db) :=
    does_begin rfl
  refine hbegin.first ?_
  show Does (Connection.executeBatch Ddl.run [.apply redactedTable]) _ _ _ _
  rw [executeBatch_single]
  exact (does_apply redactedTable).weaken fun _ => Open.fileIs

/-- **The statements of the conversion do what the call of it does.** -/
theorem does_convertRows (legacy : List LegacyRow) (db : Catalog SqlValue) :
    Does (convertRows parse legacy) (closed db) (convertHistory parse legacy db) closed
      (FileIs db) :=
  (does_openRedacted db).bind fun m _ => (does_fillAndSwap legacy m).rescue

theorem does_migrateHistory (db : Catalog SqlValue) :
    Does (migrateHistoryToRedactedProjection parse) (closed db)
      (selectHistory db >>= fun legacy => convertHistory parse legacy db) closed (FileIs db) :=
  does_query (fun legacy _ => does_convertRows legacy db) rfl

/-- Without faults a program that does this is one call: its answer, and the file it leaves. -/
theorem committed_of_does {x : Session Unit} {outcome : Except DomainError (Catalog SqlValue)}
    (h : Does x (closed db) outcome closed (FileIs db)) :
    ∃ c', Sql.Clean x (closed db) (committed outcome db).1 c' ∧
      c'.file = (committed outcome db).2 := by
  obtain ⟨s', rfl, hx⟩ | ⟨e, c', rfl, hx, hfile⟩ := h.clean
  · exact ⟨closed s', hx, rfl⟩
  · exact ⟨c', hx, hfile⟩

/-- **What the calls of an open do is what their statements do.** -/
theorem perform_statements (parse : String → Except DomainError Json) (db : Catalog SqlValue) :
    (∃ c', Sql.Clean (executeBatch (transaction baseBatch)) (closed db)
        (performMigrate parse .base db).1 c' ∧ c'.file = (performMigrate parse .base db).2) ∧
      (∀ version, ∃ c', Sql.Clean (executeBatch (transaction (versionBatch version))) (closed db)
        (performMigrate parse (.batch version) db).1 c' ∧
          c'.file = (performMigrate parse (.batch version) db).2) ∧
      ∀ legacy, ∃ c', Sql.Clean (convertRows parse legacy) (closed db)
        (performMigrate parse (.convertHistory legacy) db).1 c' ∧
          c'.file = (performMigrate parse (.convertHistory legacy) db).2 :=
  ⟨committed_of_does (does_batch baseBatch db),
    fun version => committed_of_does (does_batch (versionBatch version) db),
    fun legacy => committed_of_does (does_convertRows legacy db)⟩

/-- **An error of the loop or of the last batch rolls the transaction back.** -/
theorem convertRows_rolledBack {created : Catalog SqlValue} {e : DomainError}
    (hcreated : redactedTable.run db = .ok created)
    (h : convertHistory parse legacy db = .error e) :
    Sql.Clean (convertRows parse legacy) (closed db) (.error e) (closed db) := by
  have hopen := does_openRedacted db
  unfold convertHistory at h
  rw [hcreated] at hopen h
  have hfill : Does (fillAndSwap parse legacy) (inside db created) (.error e) closed (Open db) := by
    rw [← h]
    exact does_fillAndSwap legacy created
  exact hopen.clean_ok.bind hfill.rolledBack

end Calls

/-! ## 3. The migration -/

section Migration
variable {parse : String → Except DomainError Json} {db db' : Catalog SqlValue}
variable {rows : List (List SqlValue)} {version recorded : Nat} {change : Session Unit}
variable {outcome : Except DomainError (Catalog SqlValue)}

/-- A version that is recorded is passed. -/
theorem does_recorded
    (hversions : db.tables "schema_migrations" = some ⟨["version"], versionRows version⟩)
    (hrecorded : 2 ≤ recorded ∧ recorded ≤ version) :
    Does (migrateVersion recorded change) (closed db) (.ok db) closed (FileIs db) := by
  have hread : Catalog.hasVersion recorded (closed db).visible = .ok true := by
    rw [show (closed db).visible = db from rfl, hasVersion_recorded hversions,
      decide_eq_true hrecorded]
  have hquery : Does (migrateVersion recorded change) (closed db)
      (Catalog.hasVersion recorded (closed db).visible >>= fun _ => .ok db) closed (FileIs db) := by
    refine does_query (fun found hfound => ?_) rfl
    obtain rfl : true = found := Except.ok.inj (hread.symm.trans hfound)
    exact does_pure db
  rwa [hread] at hquery

/-- One that is not is run. -/
theorem does_due
    (hversions : db.tables "schema_migrations" = some ⟨["version"], versionRows version⟩)
    (hrecorded : version < recorded)
    (hchange : Does change (closed db) outcome closed (FileIs db)) :
    Does (migrateVersion recorded change) (closed db) outcome closed (FileIs db) := by
  have hread : Catalog.hasVersion recorded (closed db).visible = .ok false := by
    rw [show (closed db).visible = db from rfl, hasVersion_recorded hversions,
      decide_eq_false (by omega)]
  have hquery : Does (migrateVersion recorded change) (closed db)
      (Catalog.hasVersion recorded (closed db).visible >>= fun _ => outcome) closed
        (FileIs db) := by
    refine does_query (fun found hfound => ?_) rfl
    obtain rfl : false = found := Except.ok.inj (hread.symm.trans hfound)
    exact hchange
  rwa [hread] at hquery

/-- The first batch finds everything there. -/
theorem does_base (hshape : db.shape = shapeAt version)
    (hversions : db.tables "schema_migrations" = some ⟨["version"], versionRows version⟩)
    (hlow : 8 ≤ version) (hhigh : version ≤ 9) :
    Does (executeBatch (transaction baseBatch)) (closed db) (.ok db) closed (FileIs db) := by
  have hbatch := does_batch baseBatch db
  rw [base_present hshape hversions (by omega) hhigh] at hbatch
  exact hbatch

/-- **From version 8 on the migration is that of version 9.** -/
theorem does_migrate (hshape : db.shape = shapeAt version)
    (hversions : db.tables "schema_migrations" = some ⟨["version"], versionRows version⟩)
    (hlow : 8 ≤ version) (hhigh : version ≤ 9)
    (hnine : Does (migrateVersion 9 (migrateHistoryToRedactedProjection parse)) (closed db)
      outcome closed (FileIs db)) :
    Does (migrate parse) (closed db) outcome closed (FileIs db) := by
  refine (does_base hshape hversions hlow hhigh).first ?_
  refine (does_recorded hversions (by omega)).first ?_
  refine (does_recorded hversions (by omega)).first ?_
  refine (does_recorded hversions (by omega)).first ?_
  refine (does_recorded hversions (by omega)).first ?_
  exact (does_recorded hversions (by omega)).first hnine

/-- **At version 8 it does the conversion.** -/
theorem does_migrate_eight (h : VersionEight db rows) :
    Does (migrate parse) (closed db) (conversion parse db) closed (FileIs db) :=
  does_migrate h.shape h.versions (by omega) (by omega)
    (does_due h.versions (by omega) (does_migrateHistory db))

/-- **At version 9 it does nothing.** -/
theorem does_migrate_nine (hshape : db.shape = shapeAt 9)
    (hversions : db.tables "schema_migrations" = some ⟨["version"], versionRows 9⟩) :
    Does (migrate parse) (closed db) (.ok db) closed (FileIs db) :=
  does_migrate hshape hversions (by omega) (by omega) (does_recorded hversions (by omega))

/-- **A history that cannot be converted is left as it is**, and no transaction is left open. -/
theorem migrate_rolledBack (h : VersionEight db rows) {e : DomainError}
    (hconvert : conversion parse db = .error e) :
    Sql.Clean (migrate parse) (closed db) (.error e) (closed db) := by
  have hpassed : ∀ {recorded : Nat} {change : Session Unit}, 2 ≤ recorded → recorded ≤ 8 →
      Sql.Clean (migrateVersion recorded change) (closed db) (.ok ()) (closed db) :=
    fun hlow hhigh => (does_recorded h.versions ⟨hlow, hhigh⟩).clean_ok
  refine (does_base h.shape h.versions (by omega) (by omega)).clean_ok.bind ?_
  refine (hpassed (by omega) (by omega)).bind ?_
  refine (hpassed (by omega) (by omega)).bind ?_
  refine (hpassed (by omega) (by omega)).bind ?_
  refine (hpassed (by omega) (by omega)).bind ?_
  refine (hpassed (by omega) (by omega)).bind ?_
  have hnine : Sql.Clean (hasVersion 9) (closed db) (.ok false) (closed db) := by
    refine clean_query ?_
    rw [show (closed db).visible = db from rfl, hasVersion_recorded h.versions,
      decide_eq_false (by omega)]
  refine hnine.bind ?_
  show Sql.Clean (migrateHistoryToRedactedProjection parse) (closed db) _ _
  cases hselect : selectHistory db with
  | error e' =>
    unfold conversion at hconvert
    rw [hselect] at hconvert
    cases hconvert
    exact Sql.clean_bind_error (clean_query hselect)
  | ok legacy =>
    unfold conversion at hconvert
    rw [hselect] at hconvert
    obtain ⟨created, hcreated, -⟩ := redactedTable_run h.shape
    exact Sql.Clean.bind (clean_query hselect) (convertRows_rolledBack hcreated hconvert)

/-- Whatever fails, every row is redacted or the file is as it was. -/
theorem migrate_outcome (h : VersionEight db rows) {reply : Except DomainError Unit}
    {c' : Connection (Catalog SqlValue)} (hrun : Sql.Runs (migrate parse) (closed db) reply c') :
    (reply = .ok () ∧ ∃ db', c' = closed db' ∧ HistoryRedacted parse db rows db') ∨
      ∃ e, reply = .error e ∧ c'.file = db := by
  obtain ⟨db', hconvert, hreply, rfl⟩ | hfailed := (does_migrate_eight h).runs hrun
  · exact .inl ⟨hreply, db', rfl, conversion_ok h hconvert⟩
  · exact .inr hfailed

theorem migrate_redactable (h : VersionEight db rows)
    (hrows : ∀ row ∈ rows, ∃ new, Redacts parse row new) :
    ∃ db', Sql.Clean (migrate parse) (closed db) (.ok ()) (closed db') ∧
      HistoryRedacted parse db rows db' := by
  have hdoes : Does (migrate parse) (closed db) (conversion parse db) closed (FileIs db) :=
    does_migrate_eight h
  obtain ⟨db', hconvert⟩ := (conversion_iff h).mpr hrows
  rw [hconvert] at hdoes
  exact ⟨db', hdoes.clean_ok, conversion_ok h hconvert⟩

/-- **One row that cannot be redacted undoes all of it.** -/
theorem migrate_broken (h : VersionEight db rows)
    (hbroken : ∃ row ∈ rows, ∀ new, ¬ Redacts parse row new) :
    (∃ e, Sql.Clean (migrate parse) (closed db) (.error e) (closed db)) ∧
      ∀ reply c', Sql.Runs (migrate parse) (closed db) reply c' →
        ∃ e, reply = .error e ∧ c'.file = db := by
  have hnot : ∀ db', conversion parse db ≠ .ok db' := by
    intro db' hconvert
    obtain ⟨row, hrow, hnew⟩ := hbroken
    obtain ⟨new, hredacts⟩ := (conversion_iff h).mp ⟨db', hconvert⟩ row hrow
    exact hnew new hredacts
  constructor
  · cases hconvert : conversion parse db with
    | ok db' => exact absurd hconvert (hnot db')
    | error e => exact ⟨e, migrate_rolledBack h hconvert⟩
  · intro reply c' hrun
    obtain ⟨db', hconvert, -⟩ | hfailed := (does_migrate_eight h).runs hrun
    · exact absurd hconvert (hnot db')
    · exact hfailed

/-- **After a migration that succeeded another one changes nothing.** -/
theorem migrate_again (h : VersionEight db rows) {c' : Connection (Catalog SqlValue)}
    (hrun : Sql.Runs (migrate parse) (closed db) (.ok ()) c') :
    Sql.Clean (migrate parse) c' (.ok ()) c' ∧
      ∀ reply c'', Sql.Runs (migrate parse) c' reply c'' → c''.file = c'.file := by
  obtain ⟨db', hconvert, rfl⟩ := (does_migrate_eight h).of_ok hrun
  have hredacted := conversion_ok h hconvert
  have hagain : Does (migrate parse) (closed db') (.ok db') closed (FileIs db') :=
    does_migrate_nine hredacted.shape hredacted.versions
  refine ⟨hagain.clean_ok, fun reply c'' hsecond => ?_⟩
  obtain ⟨s', hs, -, rfl⟩ | ⟨e, -, hfile⟩ := hagain.runs hsecond
  · cases hs
    rfl
  · exact hfile

/-- **The redaction of the article history is lossless and atomic.** From a file at version 8 with
    any history, under any faults of the database, the migration redacts every row, or fails and
    leaves the file as it was; it succeeds if every row can be redacted, fails if one cannot, and
    after it has succeeded another one changes nothing. -/
theorem redaction_lossless_atomic (h : VersionEight db rows) :
    (∀ reply c', Sql.Runs (migrate parse) (closed db) reply c' →
        (reply = .ok () ∧ ∃ db', c' = closed db' ∧ HistoryRedacted parse db rows db') ∨
          ∃ e, reply = .error e ∧ c'.file = db) ∧
      ((∀ row ∈ rows, ∃ new, Redacts parse row new) →
        ∃ db', Sql.Clean (migrate parse) (closed db) (.ok ()) (closed db') ∧
          HistoryRedacted parse db rows db') ∧
      ((∃ row ∈ rows, ∀ new, ¬ Redacts parse row new) →
        (∃ e, Sql.Clean (migrate parse) (closed db) (.error e) (closed db)) ∧
          ∀ reply c', Sql.Runs (migrate parse) (closed db) reply c' →
            ∃ e, reply = .error e ∧ c'.file = db) ∧
      ∀ c', Sql.Runs (migrate parse) (closed db) (.ok ()) c' →
        Sql.Clean (migrate parse) c' (.ok ()) c' ∧
          ∀ reply c'', Sql.Runs (migrate parse) c' reply c'' → c''.file = c'.file :=
  ⟨fun _ _ => migrate_outcome h, migrate_redactable h, migrate_broken h, fun _ => migrate_again h⟩

/-- A file at version 8 with this history and nothing in its other tables. -/
def versionEightFile (rows : List (List SqlValue)) : Catalog SqlValue :=
  (fileAt 8).set "article_history" (some ⟨historyColumns, rows⟩)

theorem versionEight_file (hkeys : (rows.map List.head?).Nodup)
    (hwidth : ∀ row ∈ rows, row.length = historyColumns.length) :
    VersionEight (versionEightFile rows) rows where
  shape := by
    unfold versionEightFile
    rw [shape_set, shape_fileAt (by decide) (by decide)]
    exact shape_set_same rfl
  versions := rfl
  history := rfl
  keys := hkeys
  width := hwidth

def legacyRequest : PublishArticleRequest where
  platform := "掘金"
  account := ⟨some "13800138000", none⟩
  title := "Legacy article"
  content := some "private body"
  file := some (.utf8 "/private/article.md")
  cover := none
  category := none
  tags := []
  summary := none
  scheduledAt := none

/-- The text of this request, as it is stored. -/
def legacyText : String :=
  "\x7b\"platform\":\"掘金\",\"account\":\x7b\"phone\":\"13800138000\"\x7d," ++
    "\"title\":\"Legacy article\",\"content\":\"private body\"," ++
    "\"file\":\"/private/article.md\",\"cover\":null,\"category\":null,\"tags\":[]," ++
    "\"summary\":null,\"scheduled_at\":null\x7d"

/-- A `parse` that knows this text. -/
def parseLegacy (text : String) : Except DomainError Json :=
  if text = legacyText then legacyRequest.toJson else .error (.serialization "expected value")

/-- A row of version 8 with this request, and one whose request is no JSON. -/
def legacyRows : List (List SqlValue) :=
  [[.text "article-history-1", .text legacyText, .text "published",
      .text "2026-07-30T08:00:00+00:00", .text "legacy runner detail"],
    [.text "article-history-2", .text "not json", .text "published",
      .text "2026-07-30T09:00:00+00:00", .null]]

theorem redacts_legacy : Redacts parseLegacy
    [.text "article-history-1", .text legacyText, .text "published",
      .text "2026-07-30T08:00:00+00:00", .text "legacy runner detail"]
    [.text "article-history-1", .text "juejin", .text "Legacy article", .text "published",
      .text "2026-07-30T08:00:00+00:00",
      .text "scheduled local article runner workflow completed"] := by
  obtain ⟨value, hvalue⟩ : ∃ value, legacyRequest.toJson = .ok value := ⟨_, rfl⟩
  have hparse : parseLegacy legacyText = .ok value := (if_pos rfl).trans hvalue
  have hplatform : legacyRequest.articlePlatform = .ok .juejin := by decide +kernel
  have hstate : PublishState.fromDb "published" = .ok .published := rfl
  exact .row hparse (PublishArticleRequest.fromJson_toJson hvalue) hplatform hstate

theorem not_redacts_broken (new : List SqlValue) : ¬ Redacts parseLegacy
    [.text "article-history-2", .text "not json", .text "published",
      .text "2026-07-30T09:00:00+00:00", .null] new := by
  intro h
  cases h with
  | row hparse _ _ _ =>
    have hother : "not json" ≠ legacyText := by decide +kernel
    cases (if_neg hother).symm.trans hparse

/-- The first row alone is redacted; with the second one the file stays as it is. -/
theorem redaction_lossless_atomic_sample :
    (∃ db', Sql.Clean (migrate parseLegacy) (closed (versionEightFile (legacyRows.take 1)))
        (.ok ()) (closed db') ∧
      HistoryRedacted parseLegacy (versionEightFile (legacyRows.take 1)) (legacyRows.take 1) db') ∧
      ∃ e, Sql.Clean (migrate parseLegacy) (closed (versionEightFile legacyRows)) (.error e)
        (closed (versionEightFile legacyRows)) := by
  have hone : VersionEight (versionEightFile (legacyRows.take 1)) (legacyRows.take 1) :=
    versionEight_file (by decide) (by decide)
  have hboth : VersionEight (versionEightFile legacyRows) legacyRows :=
    versionEight_file (by decide) (by decide)
  constructor
  · refine (redaction_lossless_atomic hone).2.1 fun row hrow => ?_
    obtain rfl := List.mem_singleton.mp hrow
    exact ⟨_, redacts_legacy⟩
  · have hbroken : ∃ row ∈ legacyRows, ∀ new, ¬ Redacts parseLegacy row new :=
      ⟨_, List.mem_cons_of_mem _ List.mem_cons_self, not_redacts_broken⟩
    exact ((redaction_lossless_atomic hboth).2.2.1 hbroken).1

end Migration

end Session

end MatriXpost
