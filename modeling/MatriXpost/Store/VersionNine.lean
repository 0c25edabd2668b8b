/-
  File:      MatriXpost/Store/VersionNine.lean
  Subject:   FROM VERSION 8 TO VERSION 9: the legacy article history, and what the conversion makes
             of it.

  * `convertHistory_ok`: a conversion that succeeds has run the statements of `projection` on the
    redacted rows; on a file at version 8 they leave nothing but these and the version
    (`projection_run`);
  * `VersionEight db rows`: a file at version 8 with this article history, whatever its rows hold;
    `Redacts row new` says what a legacy row becomes. The conversion succeeds exactly if every row
    becomes one (`conversion_iff`), and has then redacted all of them (`conversion_ok`);
  * `select_next`, `convert_next`: the two calls on a file that `AtVersion` admits; at version 9
    both fail (`select_again`, `convert_again`);
  * no call takes a row out of a table that is not about versions or the article history
    (`perform_rowsStay`).
-/
import MatriXpost.Store.Versions

namespace MatriXpost

section Statements
variable {parse : String → Except DomainError Json} {db db' : Catalog SqlValue}

/-! ## 1. The statements -/

theorem databaseResult_ok {α : Type} {r : Except String α} {a : α} :
    databaseResult r = .ok a ↔ r = .ok a := by
  cases r with
  | error e => exact iff_of_false (fun h => by cases h) fun h => by cases h
  | ok b => exact ⟨fun h => by cases h; rfl, fun h => by cases h; rfl⟩

/-- What version 9 runs, once the rows are redacted. -/
def projection (redacted : List (List SqlValue)) : List (Ddl SqlValue) :=
  redactedTable :: (redacted.map (.insert "article_history_redacted") ++ redactedSwap) ++
    [recordVersion 9]

/-- The statements before the version is recorded. -/
theorem mem_statements {redacted : List (List SqlValue)} {d : Ddl SqlValue}
    (hd : d ∈
      redactedTable :: (redacted.map (.insert "article_history_redacted") ++ redactedSwap)) :
    d = redactedTable ∨ (∃ row, d = .insert "article_history_redacted" row) ∨
      d = .dropTable "article_history" ∨
      d = .renameTable "article_history_redacted" "article_history" := by
  rcases List.mem_cons.mp hd with hcreate | hd
  · exact .inl hcreate
  rcases List.mem_append.mp hd with hd | hd
  · obtain ⟨row, -, rfl⟩ := List.mem_map.mp hd
    exact .inr (.inl ⟨row, rfl⟩)
  · exact .inr (.inr (List.mem_pair.mp hd))

/-- **They write the two tables of the history, and no other.** -/
theorem projection_frame (redacted : List (List SqlValue)) {name : String}
    (hhistory : name ≠ "article_history") (hredacted : name ≠ "article_history_redacted") :
    ∀ d ∈ redactedTable :: (redacted.map (.insert "article_history_redacted") ++ redactedSwap),
      name ∉ d.writes := by
  have hone : ∀ {other : String}, name ≠ other → name ∉ [other] :=
    fun hne hmem => hne (List.mem_singleton.mp hmem)
  intro d hd
  obtain rfl | ⟨row, rfl⟩ | rfl | rfl := mem_statements hd
  · exact hone hredacted
  · exact hone hredacted
  · exact hone hhistory
  · exact fun hmem => (List.mem_pair.mp hmem).elim hredacted hhistory

/-- The loop over the rows inserts what they are redacted to. -/
theorem insertRedacted_ok {legacy : List LegacyRow} :
    insertRedacted parse legacy db = .ok db' ↔
      ∃ redacted, legacy.mapM (redactLegacy parse) = .ok redacted ∧
        runAll (redacted.map (.insert "article_history_redacted")) db = .ok db' := by
  induction legacy generalizing db with
  | nil =>
    constructor
    · intro h
      cases h
      exact ⟨[], rfl, rfl⟩
    · intro h
      obtain ⟨redacted, hredacted, h⟩ := h
      cases hredacted
      cases h
      rfl
  | cons row rest ih =>
    unfold insertRedacted
    rw [List.mapM_cons, except_bind_ok]
    constructor
    · intro h
      obtain ⟨redacted, hrow, h⟩ := h
      obtain ⟨m, hinsert, h⟩ := except_bind_ok.mp h
      obtain ⟨others, hothers, hrun⟩ := ih.mp h
      refine ⟨redacted :: others, ?_, ?_⟩
      · rw [hrow, hothers]
        rfl
      · exact runAll_cons_ok.mpr ⟨m, databaseResult_ok.mp hinsert, hrun⟩
    · intro h
      obtain ⟨all, hall, hrun⟩ := h
      obtain ⟨redacted, hrow, hall⟩ := except_bind_ok.mp hall
      obtain ⟨others, hothers, hall⟩ := except_bind_ok.mp hall
      cases hall
      obtain ⟨m, hinsert, hrun⟩ := runAll_cons_ok.mp hrun
      exact ⟨redacted, hrow, except_bind_ok.mpr
        ⟨m, databaseResult_ok.mpr hinsert, ih.mpr ⟨others, hothers, hrun⟩⟩⟩

/-- **A conversion that succeeds has run the statements of version 9** on the redacted rows. -/
theorem convertHistory_ok {legacy : List LegacyRow} :
    convertHistory parse legacy db = .ok db' ↔
      ∃ redacted, legacy.mapM (redactLegacy parse) = .ok redacted ∧
        runAll (projection redacted) db = .ok db' := by
  unfold convertHistory projection
  rw [except_bind_ok]
  constructor
  · intro h
    obtain ⟨created, hcreated, h⟩ := h
    obtain ⟨filled, hfilled, h⟩ := except_bind_ok.mp h
    obtain ⟨redacted, hredacted, hinserted⟩ := insertRedacted_ok.mp hfilled
    obtain ⟨swapped, hswapped, hrecorded⟩ := runAll_append_ok.mp (databaseResult_ok.mp h)
    refine ⟨redacted, hredacted, runAll_append_ok.mpr ⟨swapped, ?_, hrecorded⟩⟩
    exact runAll_cons_ok.mpr ⟨created, databaseResult_ok.mp hcreated,
      runAll_append_ok.mpr ⟨filled, hinserted, hswapped⟩⟩
  · intro h
    obtain ⟨redacted, hredacted, hrun⟩ := h
    obtain ⟨swapped, hrun, hrecorded⟩ := runAll_append_ok.mp hrun
    obtain ⟨created, hcreated, hrun⟩ := runAll_cons_ok.mp hrun
    obtain ⟨filled, hinserted, hswapped⟩ := runAll_append_ok.mp hrun
    refine ⟨created, databaseResult_ok.mpr hcreated, except_bind_ok.mpr ⟨filled, ?_, ?_⟩⟩
    · exact insertRedacted_ok.mpr ⟨redacted, hredacted, hinserted⟩
    · exact databaseResult_ok.mpr (runAll_append_ok.mpr ⟨swapped, hswapped, hrecorded⟩)

/-- **Where version 9 is recorded the conversion fails**, whatever rows it was given. -/
theorem convert_again (h : AtVersion parse 9 db) (legacy : List LegacyRow) :
    ∃ e, convertHistory parse legacy db = .error e := by
  cases hconvert : convertHistory parse legacy db with
  | error e => exact ⟨e, rfl⟩
  | ok db' =>
    obtain ⟨redacted, -, hrun⟩ := convertHistory_ok.mp hconvert
    obtain ⟨table, htable, hkey⟩ :=
      free_of_runAll hrun (projection_frame redacted (by decide) (by decide))
    rw [h.taken (by omega) (by omega) (by omega) htable] at hkey
    cases hkey

/-- And so does the query for the legacy rows. -/
theorem select_again (h : AtVersion parse 9 db) : ∃ e, selectHistory db = .error e := by
  have hcolumns : db.shape.columns "article_history" =
      some ["id", "platform", "title", "state", "recorded_at", "detail"] := by
    rw [h.shape]
    rfl
  obtain ⟨rows, htable⟩ := shape_some hcolumns
  refine ⟨.database "no such column: request_json", ?_⟩
  unfold selectHistory
  rw [htable]
  rfl

def redactedColumns : List String :=
  ["id", "platform", "title", "state", "recorded_at", "detail"]

/-- The shape while the redacted history is filled. -/
def redactedShape : Shape := (shapeAt 8).set "article_history_redacted" (some redactedColumns)

/-- The redacted table is not there before version 9. -/
theorem redactedTable_run (hshape : db.shape = shapeAt 8) :
    ∃ created, redactedTable.run db = .ok created ∧ created.shape = redactedShape := by
  have hcreate : redactedTable.onShape db.shape = some redactedShape := by
    rw [hshape]
    rfl
  exact run_of_onShape hcreate trivial

/-- What version 9 makes of a file: the redacted rows in place of the history, and nothing else
    but the version. -/
structure Projected (redacted : List (List SqlValue)) (db db' : Catalog SqlValue) : Prop where
  shape : db'.shape = shapeAt 9
  versions : db'.tables "schema_migrations" = some ⟨["version"], versionRows 9⟩
  history : db'.tables "article_history" = some ⟨redactedColumns, redacted⟩
  others : ∀ name, name ≠ "schema_migrations" → name ≠ "article_history" →
    db'.tables name = db.tables name

/-- The redacted table takes the place of the other one. -/
theorem swap_history {table : SqlTable SqlValue}
    (htable : db.tables "article_history_redacted" = some table)
    (h : runAll redactedSwap db = .ok db') : db'.tables "article_history" = some table := by
  obtain ⟨m, hdrop, hrename⟩ := runAll_cons_ok.mp h
  have hm : m.tables "article_history_redacted" = some table :=
    (run_frame hdrop (by decide)).trans htable
  have hrename := runAll_single_ok.mp hrename
  simp only [Ddl.run] at hrename
  rw [hm] at hrename
  cases hfree : m.tables "article_history" with
  | some found =>
    rw [hfree] at hrename
    cases hrename
  | none =>
    rw [hfree] at hrename
    cases hrename
    exact set_self _ _ _

/-- **The statements of version 9 succeed on a file at version 8**, if no key is there twice. -/
theorem projection_run {redacted : List (List SqlValue)} (hshape : db.shape = shapeAt 8)
    (hversions : db.tables "schema_migrations" = some ⟨["version"], versionRows 8⟩)
    (hkeys : (redacted.map List.head?).Nodup) :
    ∃ db', runAll (projection redacted) db = .ok db' ∧ Projected redacted db db' := by
  -- The redacted table is created and filled.
  obtain ⟨created, hcreated, hcreatedShape⟩ := redactedTable_run hshape
  have htable : created.tables "article_history_redacted" = some ⟨redactedColumns, []⟩ := by
    cases did_of_run hcreated with
    | created _ => exact set_self _ _ _
  have hfilled := runAll_inserts htable (by rwa [List.nil_append])
  rw [List.nil_append] at hfilled
  -- It takes the place of the legacy one.
  have hswap : onShapeAll redactedSwap (created.set "article_history_redacted"
      (some ⟨redactedColumns, redacted⟩)).shape = some (shapeAt 9) := by
    have hsame : redactedShape.set "article_history_redacted" (some redactedColumns) =
        redactedShape := shape_set_same rfl
    rw [shape_set, hcreatedShape]
    show onShapeAll redactedSwap (redactedShape.set _ (some redactedColumns)) = _
    rw [hsame]
    rfl
  obtain ⟨swapped, hswapped, hdb⟩ := runAll_of_onShape hswap (by decide)
  have hstatements : runAll (redactedTable ::
      (redacted.map (.insert "article_history_redacted") ++ redactedSwap)) db = .ok swapped :=
    runAll_cons_ok.mpr ⟨created, hcreated, runAll_append_ok.mpr ⟨_, hfilled, hswapped⟩⟩
  -- And the version is recorded.
  have hrecorded : swapped.tables "schema_migrations" = some ⟨["version"], versionRows 8⟩ :=
    (runAll_frame hstatements (projection_frame redacted (by decide) (by decide))).trans hversions
  obtain ⟨db', hrecord, hdb', hversions', hothers⟩ := record_next hrecorded (by omega)
  have hrun : runAll (projection redacted) db = .ok db' :=
    runAll_append_ok.mpr ⟨swapped, hstatements, runAll_single_ok.mpr hrecord⟩
  refine ⟨db', hrun, hdb'.trans hdb, hversions', ?_, ?_⟩
  · exact (hothers _ (by decide)).trans (swap_history (set_self _ _ _) hswapped)
  · intro name hmigrations hhistory
    by_cases hredacted : name = "article_history_redacted"
    · -- It is in neither file.
      subst hredacted
      have hbefore : db.tables "article_history_redacted" = none := by
        refine shape_none ?_
        rw [hshape]
        rfl
      have hafter : db'.tables "article_history_redacted" = none := by
        refine shape_none ?_
        rw [hdb'.trans hdb]
        rfl
      rw [hbefore, hafter]
    · have hframe := runAll_frame hstatements (projection_frame redacted hhistory hredacted)
      exact (hothers name hmigrations).trans hframe

end Statements

/-! ## 2. What a row becomes -/

/-- The columns of the article history at version 8. -/
def historyColumns : List String := ["id", "request_json", "state", "recorded_at", "detail"]

/-- **What version 9 makes of a legacy row**: its id, state and time as they are, the title and
    the canonical platform of its request, and the detail every record in this state has. Body,
    file, account and the old detail are in no column. -/
inductive Redacts (parse : String → Except DomainError Json) :
    List SqlValue → List SqlValue → Prop
  | row {id json state recordedAt : String} {detail : SqlValue} {value : Json}
      {request : PublishArticleRequest} {platform : ArticlePlatform} {reached : PublishState} :
      parse json = .ok value → PublishArticleRequest.fromJson value = .ok request →
      request.articlePlatform = .ok platform → PublishState.fromDb state = .ok reached →
      Redacts parse [.text id, .text json, .text state, .text recordedAt, detail]
        [.text id, .text (articlePlatformDb platform), .text request.title, .text state,
          .text recordedAt, .text (fixedHistoryDetail reached)]

section Rows
variable {parse : String → Except DomainError Json} {row new : List SqlValue}
variable {rows redacted : List (List SqlValue)} {legacy : LegacyRow} {db : Catalog SqlValue}

/-- The row a legacy row was read from. -/
def ReadFrom (row : List SqlValue) (legacy : LegacyRow) : Prop :=
  ∃ detail, row = [.text legacy.id, .text legacy.requestJson, .text legacy.state,
    .text legacy.recordedAt, detail]

theorem redactHistoryRow_ok {row : HistoryRow} {redacted : ArticleHistoryRow} :
    redactHistoryRow row = .ok redacted ↔ ∃ request platform state,
      PublishArticleRequest.fromJson row.requestJson = .ok request ∧
      request.articlePlatform = .ok platform ∧ PublishState.fromDb row.state = .ok state ∧
      redacted = ⟨row.id, articlePlatformDb platform, request.title, row.state, row.recordedAt,
        some (fixedHistoryDetail state)⟩ := by
  unfold redactHistoryRow
  rw [except_bind_ok]
  constructor
  · intro h
    obtain ⟨request, hrequest, h⟩ := h
    obtain ⟨platform, hplatform, h⟩ := except_bind_ok.mp h
    obtain ⟨state, hstate, h⟩ := except_bind_ok.mp h
    cases h
    refine ⟨request, platform, state, hrequest, hplatform, hstate, ?_⟩
    rw [← PublishState.db_of_fromDb hstate]
  · intro h
    obtain ⟨request, platform, state, hrequest, hplatform, hstate, rfl⟩ := h
    refine ⟨request, hrequest, except_bind_ok.mpr ⟨platform, hplatform, ?_⟩⟩
    refine except_bind_ok.mpr ⟨state, hstate, ?_⟩
    rw [← PublishState.db_of_fromDb hstate]

theorem redactLegacy_ok {new : List SqlValue} :
    redactLegacy parse legacy = .ok new ↔ ∃ value request platform state,
      parse legacy.requestJson = .ok value ∧ PublishArticleRequest.fromJson value = .ok request ∧
      request.articlePlatform = .ok platform ∧ PublishState.fromDb legacy.state = .ok state ∧
      new = [.text legacy.id, .text (articlePlatformDb platform), .text request.title,
        .text legacy.state, .text legacy.recordedAt, .text (fixedHistoryDetail state)] := by
  unfold redactLegacy
  rw [except_bind_ok]
  constructor
  · intro h
    obtain ⟨value, hparse, h⟩ := h
    obtain ⟨redacted, hredacted, h⟩ := except_bind_ok.mp h
    obtain ⟨request, platform, state, hrequest, hplatform, hstate, rfl⟩ :=
      redactHistoryRow_ok.mp hredacted
    cases h
    exact ⟨value, request, platform, state, hparse, hrequest, hplatform, hstate, rfl⟩
  · intro h
    obtain ⟨value, request, platform, state, hparse, hrequest, hplatform, hstate, rfl⟩ := h
    refine ⟨value, hparse, except_bind_ok.mpr ⟨_, redactHistoryRow_ok.mpr
      ⟨request, platform, state, hrequest, hplatform, hstate, rfl⟩, rfl⟩⟩

theorem redacts_iff (h : ReadFrom row legacy) :
    Redacts parse row new ↔ redactLegacy parse legacy = .ok new := by
  obtain ⟨detail, rfl⟩ := h
  rw [redactLegacy_ok]
  constructor
  · intro h
    cases h with
    | row hparse hrequest hplatform hstate =>
      exact ⟨_, _, _, _, hparse, hrequest, hplatform, hstate, rfl⟩
  · intro h
    obtain ⟨value, request, platform, state, hparse, hrequest, hplatform, hstate, rfl⟩ := h
    exact .row hparse hrequest hplatform hstate

theorem redacts_head (h : Redacts parse row new) : new.head? = row.head? := by
  cases h
  rfl

/-- **Two rows with the same id, state and time, whose requests have the same title and platform,
    become the same row**, whatever else is in them. -/
theorem redacts_agree {id json json' state recordedAt : String} {detail detail' : SqlValue}
    {value value' : Json} {request request' : PublishArticleRequest} {new' : List SqlValue}
    (h : Redacts parse [.text id, .text json, .text state, .text recordedAt, detail] new)
    (h' : Redacts parse [.text id, .text json', .text state, .text recordedAt, detail'] new')
    (hparse : parse json = .ok value) (hparse' : parse json' = .ok value')
    (hrequest : PublishArticleRequest.fromJson value = .ok request)
    (hrequest' : PublishArticleRequest.fromJson value' = .ok request')
    (htitle : request.title = request'.title)
    (hplatform : request.articlePlatform = request'.articlePlatform) : new = new' := by
  cases h with
  | row hp hr ha hs =>
  cases h' with
  | row hp' hr' ha' hs' =>
  cases hparse.symm.trans hp
  cases hparse'.symm.trans hp'
  cases hrequest.symm.trans hr
  cases hrequest'.symm.trans hr'
  rw [ha, ha'] at hplatform
  cases hplatform
  cases hs.symm.trans hs'
  rw [htitle]

/-- The columns of a row that the query asks for. -/
def selected (row : List SqlValue) : List SqlValue :=
  ["id", "request_json", "state", "recorded_at"].filterMap fun name =>
    row[historyColumns.idxOf name]?

/-- What the query reads of a row with all its columns. -/
theorem readFrom_iff (hwidth : row.length = historyColumns.length) :
    legacyRow (selected row) = .ok legacy ↔ ReadFrom row legacy := by
  obtain ⟨id, json, state, recordedAt, detail, rfl⟩ : ∃ id json state recordedAt detail,
      row = [id, json, state, recordedAt, detail] := by
    match row, hwidth with
    | [id, json, state, recordedAt, detail], _ => exact ⟨id, json, state, recordedAt, detail, rfl⟩
  have hselected : selected [id, json, state, recordedAt, detail] =
      [id, json, state, recordedAt] := rfl
  rw [hselected]
  constructor
  · intro h
    unfold legacyRow at h
    split at h
    · rename_i heq
      cases heq
      cases h
      exact ⟨detail, rfl⟩
    · cases h
  · intro h
    obtain ⟨detail', h⟩ := h
    cases h
    rfl

/-! ## 3. A history at version 8 -/

/-- **A file at version 8 with this article history.** Its rows hold anything. -/
structure VersionEight (db : Catalog SqlValue) (rows : List (List SqlValue)) : Prop where
  shape : db.shape = shapeAt 8
  versions : db.tables "schema_migrations" = some ⟨["version"], versionRows 8⟩
  history : db.tables "article_history" = some ⟨historyColumns, rows⟩
  keys : (rows.map List.head?).Nodup
  width : ∀ row ∈ rows, row.length = historyColumns.length

/-- **What the migration makes of it**: version 9, the history redacted row by row, every other
    table and all indexes as they are. -/
structure HistoryRedacted (parse : String → Except DomainError Json) (db : Catalog SqlValue)
    (rows : List (List SqlValue)) (db' : Catalog SqlValue) : Prop where
  shape : db'.shape = shapeAt 9
  versions : db'.tables "schema_migrations" = some ⟨["version"], versionRows 9⟩
  history : ∃ news, db'.tables "article_history" = some ⟨redactedColumns, news⟩ ∧
    news.length = rows.length ∧ (news.map List.head?).Perm (rows.map List.head?) ∧
    ∃ ordered, ordered.Perm rows ∧ List.Forall₂ (Redacts parse) ordered news
  others : ∀ name, name ≠ "schema_migrations" → name ≠ "article_history" →
    db'.tables name = db.tables name

theorem redacted_heads {ordered news : List (List SqlValue)}
    (h : List.Forall₂ (Redacts parse) ordered news) :
    news.map List.head? = ordered.map List.head? := by
  induction h with
  | nil => rfl
  | cons hrow _ ih => rw [List.map_cons, List.map_cons, redacts_head hrow, ih]

/-- What the query answers on such a file. -/
theorem VersionEight.select (h : VersionEight db rows) :
    selectHistory db = (do
      let legacy ← (rows.map selected).mapM legacyRow
      .ok (orderBy (fun _ => true)
        (fun row => (toLex (row.recordedAt, row.id) : String ×ₗ String)) legacy)) := by
  unfold selectHistory
  rw [h.history]
  rfl

/-- The rows the query reads are those of the table, in some order. -/
theorem VersionEight.read (h : VersionEight db rows) {legacies : List LegacyRow}
    (hselect : selectHistory db = .ok legacies) :
    ∃ ordered, ordered.Perm rows ∧ List.Forall₂ ReadFrom ordered legacies := by
  rw [h.select] at hselect
  obtain ⟨found, hfound, hordered⟩ := except_bind_ok.mp hselect
  cases hordered
  have hall : List.Forall₂ ReadFrom rows found := by
    have hread := List.forall₂_map_left_iff.mp (mapM_ok_iff.mp hfound)
    refine (List.forall₂_and_left (p := fun row => row.length = historyColumns.length)
      rows found |>.mpr ⟨h.width, hread⟩).imp ?_
    intro row legacy hrow
    exact (readFrom_iff hrow.1).mp hrow.2
  have hperm := (orderBy_perm (fun _ => true)
    (fun row : LegacyRow => (toLex (row.recordedAt, row.id) : String ×ₗ String)) found)
  rw [List.filter_eq_self.mpr fun _ _ => rfl] at hperm
  obtain ⟨ordered, hflip, hrows⟩ := List.perm_comp_forall₂ hperm hall.flip
  exact ⟨ordered, hrows, hflip.flip⟩

/-- **It can be read if every row has its four texts.** -/
theorem VersionEight.exists_select (h : VersionEight db rows)
    (hrows : ∀ row ∈ rows, ∃ legacy, ReadFrom row legacy) :
    ∃ legacies, selectHistory db = .ok legacies := by
  have hcolumns : ∀ columns ∈ rows.map selected, ∃ legacy, legacyRow columns = .ok legacy := by
    intro columns hcolumns
    obtain ⟨row, hrow, rfl⟩ := List.mem_map.mp hcolumns
    obtain ⟨legacy, hlegacy⟩ := hrows row hrow
    exact ⟨legacy, (readFrom_iff (h.width row hrow)).mpr hlegacy⟩
  obtain ⟨found, hfound⟩ := exists_mapM_ok hcolumns
  rw [h.select, hfound]
  exact ⟨_, rfl⟩

/-- The conversion of such a file. -/
def conversion (parse : String → Except DomainError Json) (db : Catalog SqlValue) :
    Except DomainError (Catalog SqlValue) :=
  selectHistory db >>= fun legacy => convertHistory parse legacy db

/-- What the rows that were read are redacted to. -/
theorem redacts_all {ordered : List (List SqlValue)} {legacies : List LegacyRow}
    (hread : List.Forall₂ ReadFrom ordered legacies)
    (h : legacies.mapM (redactLegacy parse) = .ok redacted) :
    List.Forall₂ (Redacts parse) ordered redacted := by
  refine forall₂_comp ?_ hread (mapM_ok_iff.mp h)
  intro row legacy new hfrom hnew
  exact (redacts_iff hfrom).mpr hnew

/-- The keys of the redacted rows are the keys of the history, so none is there twice. -/
theorem VersionEight.redacted_keys {ordered : List (List SqlValue)} (h : VersionEight db rows)
    (hrows : ordered.Perm rows) (hall : List.Forall₂ (Redacts parse) ordered redacted) :
    (redacted.map List.head?).Nodup := by
  rw [redacted_heads hall, (hrows.map _).nodup_iff]
  exact h.keys

/-- **A conversion that succeeds has redacted every row**, and changed nothing else but the
    version. -/
theorem conversion_ok {db' : Catalog SqlValue} (h : VersionEight db rows)
    (hconvert : conversion parse db = .ok db') : HistoryRedacted parse db rows db' := by
  obtain ⟨legacies, hselect, hconvert⟩ := except_bind_ok.mp hconvert
  obtain ⟨redacted, hredacted, hrun⟩ := convertHistory_ok.mp hconvert
  obtain ⟨ordered, hrows, hread⟩ := h.read hselect
  have hall : List.Forall₂ (Redacts parse) ordered redacted := redacts_all hread hredacted
  obtain ⟨db₁, hrun₁, hprojected⟩ :=
    projection_run h.shape h.versions (h.redacted_keys hrows hall)
  obtain rfl : db₁ = db' := Except.ok.inj (hrun₁.symm.trans hrun)
  refine ⟨hprojected.shape, hprojected.versions, ⟨redacted, hprojected.history, ?_, ?_, ordered,
    hrows, hall⟩, hprojected.others⟩
  · rw [← hall.length_eq, hrows.length_eq]
  · rw [redacted_heads hall]
    exact hrows.map _

/-- **It succeeds exactly if every row can be redacted.** -/
theorem conversion_iff (h : VersionEight db rows) :
    (∃ db', conversion parse db = .ok db') ↔ ∀ row ∈ rows, ∃ new, Redacts parse row new := by
  constructor
  · intro hconvert
    obtain ⟨db', hconvert⟩ := hconvert
    obtain ⟨news, -, -, -, ordered, hrows, hall⟩ := (conversion_ok h hconvert).history
    intro row hrow
    obtain ⟨new, -, hnew⟩ := mem_of_forall₂ hall (hrows.mem_iff.mpr hrow)
    exact ⟨new, hnew⟩
  · intro hrows
    have hread : ∀ row ∈ rows, ∃ legacy, ReadFrom row legacy := by
      intro row hrow
      obtain ⟨new, hnew⟩ := hrows row hrow
      cases hnew with
      | @row id json state recordedAt detail => exact ⟨⟨id, json, state, recordedAt⟩, detail, rfl⟩
    obtain ⟨legacies, hselect⟩ := h.exists_select hread
    obtain ⟨ordered, hperm, hall⟩ := h.read hselect
    have hredact : ∀ legacy ∈ legacies, ∃ new, redactLegacy parse legacy = .ok new := by
      intro legacy hlegacy
      obtain ⟨row, hrow, hfrom⟩ := mem_of_forall₂ hall.flip hlegacy
      obtain ⟨new, hnew⟩ := hrows row (hperm.mem_iff.mp hrow)
      exact ⟨new, (redacts_iff hfrom).mp hnew⟩
    obtain ⟨redacted, hredacted⟩ := exists_mapM_ok hredact
    obtain ⟨db', hrun, -⟩ :=
      projection_run h.shape h.versions (h.redacted_keys hperm (redacts_all hall hredacted))
    exact ⟨db', except_bind_ok.mpr ⟨legacies, hselect,
      convertHistory_ok.mpr ⟨redacted, hredacted, hrun⟩⟩⟩

end Rows

/-! ## 4. The two calls -/

section Calls
variable {parse : String → Except DomainError Json} {db db' : Catalog SqlValue}

/-- The history of such a file can be redacted. -/
theorem AtVersion.eight (h : AtVersion parse 8 db) :
    ∃ rows, VersionEight db rows ∧ ∀ row ∈ rows, ∃ new, Redacts parse row new := by
  have hcolumns : db.shape.columns "article_history" = some historyColumns := by
    rw [h.shape]
    rfl
  obtain ⟨rows, htable⟩ := shape_some hcolumns
  have hdecodable := h.history rfl _ htable
  refine ⟨rows, ⟨h.shape, h.versions (by omega), htable, hdecodable.keys, ?_⟩, ?_⟩
  · intro row hrow
    obtain ⟨legacy, detail, redacted, rfl, -⟩ := hdecodable.rows row hrow
    rfl
  · intro row hrow
    obtain ⟨legacy, detail, redacted, rfl, hredacted⟩ := hdecodable.rows row hrow
    exact ⟨redacted, (redacts_iff ⟨detail, rfl⟩).mpr hredacted⟩

/-- **At version 8 the legacy rows can be read.** -/
theorem select_next (h : AtVersion parse 8 db) : ∃ legacy, selectHistory db = .ok legacy := by
  obtain ⟨rows, height, hrows⟩ := h.eight
  obtain ⟨db', hconvert⟩ := (conversion_iff height).mpr hrows
  obtain ⟨legacy, hselect, -⟩ := except_bind_ok.mp hconvert
  exact ⟨legacy, hselect⟩

/-- **The conversion takes a file from version 8 to version 9.** -/
theorem convert_next (h : AtVersion parse 8 db) {legacy : List LegacyRow}
    (hselect : selectHistory db = .ok legacy) :
    ∃ db', convertHistory parse legacy db = .ok db' ∧ AtVersion parse 9 db' := by
  obtain ⟨rows, height, hrows⟩ := h.eight
  obtain ⟨db', hconvert⟩ := (conversion_iff height).mpr hrows
  have hredacted := conversion_ok height hconvert
  unfold conversion at hconvert
  rw [hselect] at hconvert
  refine ⟨db', hconvert, .inr ⟨by omega, by omega⟩, hredacted.shape, ?_, fun he => by cases he⟩
  intro table hfound
  cases hredacted.versions.symm.trans hfound
  rfl

/-! ## 5. Rows that stay -/

/-- Every row of the tables that are not about versions or the article history is still there. -/
def RowsStay (db db' : Catalog SqlValue) : Prop :=
  ∀ name, name ≠ "schema_migrations" → name ≠ "article_history" →
    name ≠ "article_history_redacted" → ∀ table, db.tables name = some table →
    ∃ table', db'.tables name = some table' ∧ table.Kept table'

theorem RowsStay.refl (db : Catalog SqlValue) : RowsStay db db :=
  fun _ _ _ _ table htable => ⟨table, htable, .refl table⟩

theorem RowsStay.trans {a b c : Catalog SqlValue} (hab : RowsStay a b) (hbc : RowsStay b c) :
    RowsStay a c := by
  intro name h1 h2 h3 table htable
  obtain ⟨table₁, htable₁, hkept₁⟩ := hab name h1 h2 h3 table htable
  obtain ⟨table₂, htable₂, hkept₂⟩ := hbc name h1 h2 h3 table₁ htable₁
  exact ⟨table₂, htable₂, hkept₁.trans hkept₂⟩

/-- A batch that inserts into, drops and renames no other table. -/
def PlainBatch (ds : List (Ddl SqlValue)) : Prop :=
  ∀ name, name ≠ "schema_migrations" → name ≠ "article_history" →
    name ≠ "article_history_redacted" → ∀ d ∈ ds, d.Keeps name

theorem plain_base : PlainBatch baseBatch := by
  intro name h1 h2 h3
  unfold baseBatch
  simp only [List.forall_mem_cons, Ddl.Keeps]
  exact ⟨trivial, trivial, trivial, trivial, trivial, trivial, trivial, h1, h1,
    fun d hd => absurd hd List.not_mem_nil⟩

theorem plain_version (version : Nat) : PlainBatch (versionBatch version) := by
  intro name h1 h2 h3 d hd
  rcases List.mem_append.mp hd with hd | hd
  · exact keeps_of_grows (versionStatements_plain d hd).1 name
  · obtain rfl := List.mem_singleton.mp hd
    exact h1

theorem plain_projection (redacted : List (List SqlValue)) : PlainBatch (projection redacted) := by
  intro name h1 h2 h3 d hd
  rcases List.mem_append.mp hd with hd | hd
  · obtain rfl | ⟨row, rfl⟩ | rfl | rfl := mem_statements hd
    · exact trivial
    · exact h3
    · exact h2
    · exact ⟨h3, h2⟩
  · obtain rfl := List.mem_singleton.mp hd
    exact h1

/-- **No call takes such a row away.** -/
theorem perform_rowsStay (c : MigrateCall) (db : Catalog SqlValue) :
    RowsStay db (performMigrate parse c db).2 := by
  have hbatch : ∀ {ds : List (Ddl SqlValue)}, PlainBatch ds →
      RowsStay db (committed (databaseResult (runAll ds db)) db).2 := by
    intro ds hds
    cases hrun : runAll ds db with
    | error e => exact .refl db
    | ok db' => exact fun name h1 h2 h3 table => runAll_kept hrun (hds name h1 h2 h3)
  cases c with
  | base => exact hbatch plain_base
  | hasVersion version => exact .refl db
  | batch version => exact hbatch (plain_version version)
  | selectHistory => exact .refl db
  | convertHistory legacy =>
    show RowsStay db (committed (convertHistory parse legacy db) db).2
    cases hconvert : convertHistory parse legacy db with
    | error e => exact .refl db
    | ok db' =>
      obtain ⟨redacted, -, hrun⟩ := convertHistory_ok.mp hconvert
      exact fun name h1 h2 h3 table => runAll_kept hrun (plain_projection redacted name h1 h2 h3)

end Calls

end MatriXpost
