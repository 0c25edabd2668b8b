/-
  File:      MatriXpost/Store/Versions.lean
  Subject:   FILES AT A VERSION, and what the batches of the migrations do to them.

  `shapeAt version` is computed from the statements: the tables and columns they make of a new
  file. `AtVersion` is a file at a version, with any rows; `fileAt version` is the one whose other
  tables are empty.

  Each batch of the versions 3 to 8 takes a file from the version before it to its own
  (`base_fresh`, `version_next`), and fails at any later one (`version_again`); the first batch
  changes no file but a new one (`base_present`). Version 9 has a module of its own.
-/
import MatriXpost.Store.Opening
import Mathlib.Tactic.IntervalCases

namespace MatriXpost

/-! ## 1. Shapes and versions -/

/-- The statements that lead to a version. -/
def migrations : Nat → List (Ddl SqlValue)
  | 3 => baseBatch
  | 4 => versionBatch 4
  | 5 => versionBatch 5
  | 6 => versionBatch 6
  | 7 => versionBatch 7
  | 8 => versionBatch 8
  | 9 => redactedTable :: (redactedSwap ++ [recordVersion 9])
  | _ => []

/-- The tables and columns the migrations up to a version make of a new file. -/
def shapeAt : Nat → Shape
  | 0 => .empty
  | version + 1 =>
    (onShapeAll (migrations (version + 1)) (shapeAt version)).getD (shapeAt version)

/-- The rows of `schema_migrations` at a version. -/
def versionRows (version : Nat) : List (List SqlValue) :=
  (List.range' 2 (version - 1)).map fun recorded : Nat => [.integer recorded]

/-- A legacy article history that can be redacted. -/
structure Decodable (parse : String → Except DomainError Json) (table : SqlTable SqlValue) :
    Prop where
  keys : (table.rows.map List.head?).Nodup
  rows : ∀ row ∈ table.rows, ∃ legacy detail redacted,
    row = [.text legacy.id, .text legacy.requestJson, .text legacy.state, .text legacy.recordedAt,
      detail] ∧ redactLegacy parse legacy = .ok redacted

/-- **A file at a version**: new, or at one from 3 to 9, with any rows that version admits. -/
structure AtVersion (parse : String → Except DomainError Json) (version : Nat)
    (db : Catalog SqlValue) : Prop where
  range : version = 0 ∨ 3 ≤ version ∧ version ≤ 9
  shape : db.shape = shapeAt version
  recorded : ∀ table, db.tables "schema_migrations" = some table → table.rows = versionRows version
  history : version = 8 → ∀ table, db.tables "article_history" = some table → Decodable parse table

/-- A file at a version whose other tables have no rows. -/
def fileAt (version : Nat) : Catalog SqlValue :=
  let empty : Catalog SqlValue :=
    ⟨fun name => ((shapeAt version).columns name).map (⟨·, []⟩), (shapeAt version).indexes⟩
  empty.set "schema_migrations" (some ⟨["version"], versionRows version⟩)

theorem shapeAt_versions {version : Nat} (hlow : 3 ≤ version) (hhigh : version ≤ 9) :
    (shapeAt version).columns "schema_migrations" = some ["version"] := by
  interval_cases version <;> rfl

theorem shape_fileAt {version : Nat} (hlow : 3 ≤ version) (hhigh : version ≤ 9) :
    (fileAt version).shape = shapeAt version := by
  unfold fileAt
  have hempty : Catalog.shape (⟨fun name => ((shapeAt version).columns name).map (⟨·, []⟩),
      (shapeAt version).indexes⟩ : Catalog SqlValue) = shapeAt version := by
    refine Shape.ext (funext fun name => ?_) rfl
    show (((shapeAt version).columns name).map _).map _ = _
    rw [Option.map_map]
    exact Option.map_id'
  rw [shape_set, hempty]
  exact shape_set_same (shapeAt_versions hlow hhigh)

theorem shapeAt_base {version : Nat} (hlow : 3 ≤ version) (hhigh : version ≤ 9) :
    ∀ name ∈ ["accounts", "article_accounts", "history", "jobs", "config", "job_sequence"],
      (shapeAt version).columns name ≠ none := by
  interval_cases version <;> decide +kernel

theorem shapeAt_next {version : Nat} (hlow : 3 ≤ version) (hhigh : version < 8) :
    onShapeAll (versionStatements (version + 1)) (shapeAt version) =
      some (shapeAt (version + 1)) := by
  interval_cases version <;> rfl

theorem versionRows_succ {version : Nat} (hlow : 2 ≤ version) :
    versionRows (version + 1) =
      versionRows version ++ [[.integer ((version + 1 : Nat) : Int)]] := by
  obtain ⟨n, rfl⟩ : ∃ n, version = n + 2 := ⟨version - 2, by omega⟩
  unfold versionRows
  rw [show n + 2 + 1 - 1 = n + 1 + 1 from rfl, show n + 2 - 1 = n + 1 from rfl, List.range'_concat,
    List.map_append, Nat.one_mul, Nat.add_comm 2 (n + 1)]
  rfl

theorem mem_versionRows {version recorded : Nat} :
    [SqlValue.integer recorded] ∈ versionRows version ↔ 2 ≤ recorded ∧ recorded ≤ version := by
  unfold versionRows
  rw [List.mem_map]
  constructor
  · intro h
    obtain ⟨n, hn, he⟩ := h
    cases he
    obtain ⟨hlow, hhigh⟩ := List.mem_range'_1.mp hn
    omega
  · intro h
    obtain ⟨hlow, hhigh⟩ := h
    exact ⟨recorded, List.mem_range'_1.mpr (by omega), rfl⟩

/-- The key of a version is there exactly if the version is recorded. -/
theorem hasKey_versionRows {version recorded : Nat} {columns : List String} :
    (⟨columns, versionRows version⟩ : SqlTable SqlValue).hasKey [.integer recorded] = true ↔
      2 ≤ recorded ∧ recorded ≤ version := by
  rw [← mem_versionRows]
  show decide _ = true ↔ _
  rw [decide_eq_true_iff, List.mem_map]
  constructor
  · intro h
    obtain ⟨row, hrow, hhead⟩ := h
    obtain ⟨n, hn, rfl⟩ := List.mem_map.mp hrow
    cases hhead
    exact hrow
  · exact fun hrow => ⟨_, hrow, rfl⟩

section AtVersion
variable {parse : String → Except DomainError Json} {version : Nat} {db db' : Catalog SqlValue}

/-- From version 3 on the versions are recorded. -/
theorem AtVersion.versions (h : AtVersion parse version db) (hlow : 3 ≤ version) :
    db.tables "schema_migrations" = some ⟨["version"], versionRows version⟩ := by
  have hhigh : version ≤ 9 := by
    have := h.range
    omega
  have hcolumns := shapeAt_versions hlow hhigh
  rw [← h.shape] at hcolumns
  obtain ⟨rows, htable⟩ := shape_some hcolumns
  rw [htable, ← h.recorded _ htable]

/-- The key of a recorded version is taken. -/
theorem AtVersion.taken (h : AtVersion parse version db) (hlow : 3 ≤ version) {recorded : Nat}
    (h2 : 2 ≤ recorded) (hle : recorded ≤ version) {table : SqlTable SqlValue}
    (htable : db.tables "schema_migrations" = some table) :
    table.hasKey [.integer recorded] = true := by
  cases (h.versions hlow).symm.trans htable
  exact hasKey_versionRows.mpr ⟨h2, hle⟩

/-- What the query for a version answers, by the rows of `schema_migrations`. -/
theorem hasVersion_recorded
    (hversions : db.tables "schema_migrations" = some ⟨["version"], versionRows version⟩)
    (recorded : Nat) :
    db.hasVersion recorded = .ok (decide (2 ≤ recorded ∧ recorded ≤ version)) := by
  unfold Catalog.hasVersion
  rw [hversions]
  exact congrArg Except.ok (decide_eq_decide.mpr mem_versionRows)

theorem AtVersion.hasVersion (h : AtVersion parse version db) (hlow : 3 ≤ version)
    (recorded : Nat) :
    db.hasVersion recorded = .ok (decide (2 ≤ recorded ∧ recorded ≤ version)) :=
  hasVersion_recorded (h.versions hlow) recorded

/-- A file is at one version only. -/
theorem AtVersion.unique {version' : Nat} (h : AtVersion parse version db)
    (h' : AtVersion parse version' db) : version = version' := by
  have hnew : ∀ {v v' : Nat}, AtVersion parse v db → AtVersion parse v' db → v = 0 → 3 ≤ v' →
      False := by
    rintro v v' hv hv' rfl hlow
    have htable := hv'.versions hlow
    have hnone : db.tables "schema_migrations" = none := shape_none (by rw [hv.shape]; rfl)
    rw [hnone] at htable
    cases htable
  rcases h.range with hzero | ⟨hlow, -⟩
  · rcases h'.range with hzero' | ⟨hlow', -⟩
    · rw [hzero, hzero']
    · exact (hnew h h' hzero hlow').elim
  · rcases h'.range with hzero' | ⟨hlow', -⟩
    · exact (hnew h' h hzero' hlow).elim
    · have hlength := congrArg List.length (h'.recorded _ (h.versions hlow))
      unfold versionRows at hlength
      rw [List.length_map, List.length_map, List.length_range', List.length_range'] at hlength
      omega

/-! ## 2. The first batch -/

theorem run_present {name : String} {columns : List String} (h : db.shape.columns name ≠ none) :
    (Ddl.createTableIfNotExists name columns).run db = .ok db := by
  cases hc : db.shape.columns name with
  | none => exact absurd hc h
  | some found =>
    obtain ⟨rows, htable⟩ := shape_some hc
    simp only [Ddl.run]
    rw [htable]

/-- **On any file but a new one the first batch changes nothing**, whatever rows its tables
    have. -/
theorem base_present (hshape : db.shape = shapeAt version)
    (hversions : db.tables "schema_migrations" = some ⟨["version"], versionRows version⟩)
    (hlow : 3 ≤ version) (hhigh : version ≤ 9) : runAll baseBatch db = .ok db := by
  have hbase := shapeAt_base hlow hhigh
  rw [← hshape] at hbase
  have hpresent : db.shape.columns "schema_migrations" ≠ none := by
    rw [hshape, shapeAt_versions hlow hhigh]
    exact Option.some_ne_none _
  have hignored : ∀ recorded : Nat, 2 ≤ recorded → recorded ≤ 3 →
      (Ddl.insertOrIgnore "schema_migrations" [.integer recorded]).run db = .ok db := by
    intro recorded h2 h3
    simp only [Ddl.run]
    rw [hversions]
    exact if_pos (hasKey_versionRows.mpr ⟨h2, by omega⟩)
  refine runAll_same ?_
  simp only [baseBatch, List.forall_mem_cons]
  exact ⟨run_present hpresent, run_present (hbase _ (by decide)),
    run_present (hbase _ (by decide)), run_present (hbase _ (by decide)),
    run_present (hbase _ (by decide)), run_present (hbase _ (by decide)),
    run_present (hbase _ (by decide)), hignored 2 (by omega) (by omega),
    hignored 3 (by omega) (by omega), fun d hd => absurd hd List.not_mem_nil⟩

theorem base_again (h : AtVersion parse version db) (hlow : 3 ≤ version) :
    runAll baseBatch db = .ok db := by
  have hhigh : version ≤ 9 := by
    have := h.range
    omega
  exact base_present h.shape (h.versions hlow) hlow hhigh

/-- **The first batch takes a new file to version 3.** -/
theorem base_fresh (h : AtVersion parse 0 db) :
    ∃ db', runAll baseBatch db = .ok db' ∧ AtVersion parse 3 db' := by
  have hshape : onShapeAll baseBatch db.shape = some (shapeAt 3) := by
    rw [h.shape]
    rfl
  obtain ⟨db', hrun, hdb'⟩ := runAll_of_onShape hshape (by decide)
  refine ⟨db', hrun, .inr ⟨by omega, by omega⟩, hdb', ?_, fun he => by cases he⟩
  -- The table is created empty, the other tables leave it alone, and both versions are added.
  obtain ⟨created, rest, hbatch, hrest⟩ : ∃ created rest,
      baseBatch = created ++ ([.insertOrIgnore "schema_migrations" [.integer 2],
        .insertOrIgnore "schema_migrations" [.integer 3]] : List (Ddl SqlValue)) ∧
      created = .createTableIfNotExists "schema_migrations" ["version"] :: rest ∧
      ∀ d ∈ rest, "schema_migrations" ∉ d.writes :=
    ⟨baseBatch.take 7, (baseBatch.take 7).tail, rfl, rfl, by decide⟩
  obtain ⟨rfl, hframe⟩ := hrest
  rw [hbatch, List.cons_append] at hrun
  obtain ⟨m, hcreate, hrun⟩ := runAll_cons_ok.mp hrun
  have hm : m.tables "schema_migrations" = some ⟨["version"], []⟩ := by
    have hnone : db.tables "schema_migrations" = none := shape_none (by rw [h.shape]; rfl)
    simp only [Ddl.run] at hcreate
    rw [hnone] at hcreate
    cases hcreate
    exact set_self _ _ _
  obtain ⟨m', hothers, hrun⟩ := runAll_append_ok.mp hrun
  have hm' := (runAll_frame hothers hframe).trans hm
  obtain ⟨m₂, hsecond, hthird⟩ := runAll_cons_ok.mp hrun
  simp only [Ddl.run] at hsecond
  rw [hm'] at hsecond
  cases hsecond
  replace hthird := runAll_single_ok.mp hthird
  simp only [Ddl.run] at hthird
  rw [set_self] at hthird
  cases hthird
  intro table htable
  rw [set_self] at htable
  cases htable
  rfl

/-! ## 3. The versions 4 to 8 -/

theorem versionStatements_plain {version : Nat} :
    ∀ d ∈ versionStatements version, d.grows = true ∧ "schema_migrations" ∉ d.writes := by
  intro d hd
  unfold versionStatements at hd
  split at hd
  · revert d
    decide
  · revert d
    decide
  · revert d
    decide
  · revert d
    decide
  · revert d
    decide
  · exact absurd hd List.not_mem_nil

/-- The INSERT of the next version. -/
theorem record_next
    (htable : db.tables "schema_migrations" = some ⟨["version"], versionRows version⟩)
    (hlow : 2 ≤ version) :
    ∃ db', (recordVersion (version + 1)).run db = .ok db' ∧ db'.shape = db.shape ∧
      db'.tables "schema_migrations" = some ⟨["version"], versionRows (version + 1)⟩ ∧
      ∀ name, name ≠ "schema_migrations" → db'.tables name = db.tables name := by
  have hkey : (⟨["version"], versionRows version⟩ : SqlTable SqlValue).hasKey
      [.integer ((version + 1 : Nat) : Int)] = false := by
    rw [Bool.eq_false_iff]
    intro hkey
    have := hasKey_versionRows.mp hkey
    omega
  have hrun : (recordVersion (version + 1)).run db =
      .ok (db.set "schema_migrations" (some ⟨["version"], versionRows (version + 1)⟩)) := by
    unfold recordVersion
    simp only [Ddl.run]
    rw [htable, versionRows_succ hlow]
    dsimp only
    rw [hkey]
    rfl
  refine ⟨_, hrun, ?_, set_self _ _ _, fun name hname => set_other _ _ hname⟩
  rw [shape_set]
  refine shape_set_same ?_
  show (db.tables "schema_migrations").map SqlTable.columns = _
  rw [htable]
  rfl

/-- **The batch of a version takes a file there from the version before it.** -/
theorem version_next (h : AtVersion parse version db) (hlow : 3 ≤ version) (hhigh : version < 8) :
    ∃ db', runAll (versionBatch (version + 1)) db = .ok db' ∧
      AtVersion parse (version + 1) db' := by
  have hshape := shapeAt_next hlow hhigh
  rw [← h.shape] at hshape
  obtain ⟨m, hrun, hm⟩ :=
    runAll_of_onShape hshape fun d hd => isInsert_of_grows (versionStatements_plain d hd).1
  have hversions : m.tables "schema_migrations" = some ⟨["version"], versionRows version⟩ :=
    (runAll_frame hrun fun d hd => (versionStatements_plain d hd).2).trans (h.versions hlow)
  obtain ⟨db', hrecord, hdb', htable, hothers⟩ := record_next hversions (by omega)
  have hall : runAll (versionBatch (version + 1)) db = .ok db' :=
    runAll_append_ok.mpr ⟨m, hrun, runAll_single_ok.mpr hrecord⟩
  refine ⟨db', hall, .inr ⟨by omega, by omega⟩, hdb'.trans hm, ?_, ?_⟩
  · intro table hfound
    cases htable.symm.trans hfound
    rfl
  · -- Version 8 creates the article history, without rows.
    intro height table hfound
    obtain rfl : version = 7 := by omega
    have hcreated : db'.tables "article_history" =
        some ⟨["id", "request_json", "state", "recorded_at", "detail"], []⟩ := by
      refine (hothers _ (by decide)).trans ?_
      exact created_of_runAll ((versionStatements 8).take 1) ((versionStatements 8).drop 2) hrun
        (by decide)
    cases hcreated.symm.trans hfound
    exact ⟨List.nodup_nil, fun row hrow => absurd hrow List.not_mem_nil⟩

/-- **It fails where the version is recorded.** -/
theorem version_again {recorded : Nat} (h : AtVersion parse version db) (hlow : 3 ≤ version)
    (hrecorded : 2 ≤ recorded ∧ recorded ≤ version) :
    ∃ e, runAll (versionBatch recorded) db = .error e := by
  cases hrun : runAll (versionBatch recorded) db with
  | error e => exact ⟨e, rfl⟩
  | ok db' =>
    obtain ⟨table, htable, hkey⟩ :=
      free_of_runAll hrun fun d hd => (versionStatements_plain d hd).2
    rw [h.taken hlow hrecorded.1 hrecorded.2 htable] at hkey
    cases hkey

end AtVersion

end MatriXpost
