/-
  File:      MatriXpost/Lib/Catalog.lean
  Subject:   DATABASE FILES UNDER DATA DEFINITION STATEMENTS. Nothing here names a program.

  A `Catalog` is a file: which tables there are, with their columns and rows, and which indexes.
  A `Ddl` is a statement that creates, alters, renames or drops a table, or inserts a row; it
  fails where SQLite refuses it. The first column of a table is its primary key. `runAll` is a
  batch.

  * whether a statement succeeds, and what columns it leaves, is decided by the columns before it
    (`Ddl.onShape`), and for an INSERT by its key being free (`run_of_onShape`);
  * `run_frame`: a table the statement does not write is as it was;
  * `run_kept`: a table it does not insert into, drop or rename keeps its rows, each at most with
    new columns at its end (`SqlTable.Kept`).
-/
import MatriXpost.Lib.Select
import Mathlib.Data.List.Basic
import Mathlib.Data.List.Infix
import Mathlib.Data.List.Forall2
import Mathlib.Logic.Function.Basic

namespace MatriXpost

/-- A table: the names of its columns, and its rows. -/
structure SqlTable (ν : Type) where
  columns : List String
  rows : List (List ν)

/-- A database file. -/
@[ext] structure Catalog (ν : Type) where
  tables : String → Option (SqlTable ν)
  indexes : List String

/-- A statement of a migration. -/
inductive Ddl (ν : Type) where
  | createTable (table : String) (columns : List String)
  | createTableIfNotExists (table : String) (columns : List String)
  | createUniqueIndex (index : String)
  | addColumn (table column : String) (default : ν)
  | insert (table : String) (row : List ν)
  | insertOrIgnore (table : String) (row : List ν)
  | dropTable (table : String)
  | renameTable (table name : String)

section Catalog

variable {ν : Type}

/-! ## 1. Statements -/

namespace Catalog

/-- A file just created. -/
def empty : Catalog ν := ⟨fun _ => none, []⟩

def set (db : Catalog ν) (name : String) (table : Option (SqlTable ν)) : Catalog ν :=
  { db with tables := Function.update db.tables name table }

end Catalog

/-- The key of a row is in the table. -/
def SqlTable.hasKey [DecidableEq ν] (table : SqlTable ν) (row : List ν) : Bool :=
  row.head? ∈ table.rows.map List.head?

/-- `SELECT names FROM table`. -/
def SqlTable.select (table : SqlTable ν) (names : List String) : Except String (List (List ν)) :=
  match names.find? fun name => name ∉ table.columns with
  | some name => .error ("no such column: " ++ name)
  | none => .ok (table.rows.map fun row => names.filterMap fun name =>
      row[table.columns.idxOf name]?)

variable [DecidableEq ν]

/-- What a statement does, or the error it fails with. -/
def Ddl.run (d : Ddl ν) (db : Catalog ν) : Except String (Catalog ν) :=
  match d with
  | createTable name columns =>
    match db.tables name with
    | some _ => .error ("table " ++ name ++ " already exists")
    | none => .ok (db.set name (some ⟨columns, []⟩))
  | createTableIfNotExists name columns =>
    match db.tables name with
    | some _ => .ok db
    | none => .ok (db.set name (some ⟨columns, []⟩))
  | createUniqueIndex index =>
    if index ∈ db.indexes then .error ("index " ++ index ++ " already exists")
    else .ok { db with indexes := db.indexes ++ [index] }
  | addColumn name column value =>
    match db.tables name with
    | none => .error ("no such table: " ++ name)
    | some table =>
      if column ∈ table.columns then .error ("duplicate column name: " ++ column)
      else .ok (db.set name (some ⟨table.columns ++ [column], table.rows.map (· ++ [value])⟩))
  | insert name row =>
    match db.tables name with
    | none => .error ("no such table: " ++ name)
    | some table =>
      if table.hasKey row then
        .error ("UNIQUE constraint failed: " ++ name ++ "." ++ table.columns.headD "")
      else .ok (db.set name (some ⟨table.columns, table.rows ++ [row]⟩))
  | insertOrIgnore name row =>
    match db.tables name with
    | none => .error ("no such table: " ++ name)
    | some table =>
      if table.hasKey row then .ok db
      else .ok (db.set name (some ⟨table.columns, table.rows ++ [row]⟩))
  | dropTable name =>
    match db.tables name with
    | none => .error ("no such table: " ++ name)
    | some _ => .ok (db.set name none)
  | renameTable name other =>
    match db.tables name, db.tables other with
    | none, _ => .error ("no such table: " ++ name)
    | some _, some _ =>
      .error ("there is already another table or index with this name: " ++ other)
    | some table, none => .ok ((db.set name none).set other (some table))

/-- A batch: every statement, or the error of the first that fails. -/
def runAll : List (Ddl ν) → Catalog ν → Except String (Catalog ν)
  | [], db => .ok db
  | d :: rest, db => (d.run db).bind (runAll rest)

/-- **A batch that succeeds did so statement by statement.** -/
theorem runAll_cons_ok {d : Ddl ν} {rest : List (Ddl ν)} {db db' : Catalog ν} :
    runAll (d :: rest) db = .ok db' ↔ ∃ m, d.run db = .ok m ∧ runAll rest m = .ok db' := by
  show (d.run db).bind (runAll rest) = _ ↔ _
  cases d.run db with
  | error e => exact iff_of_false (fun h => by cases h) (fun ⟨m, h, _⟩ => by cases h)
  | ok m =>
    constructor
    · exact fun h => ⟨m, rfl, h⟩
    · intro h
      obtain ⟨m', h, hrest⟩ := h
      cases h
      exact hrest

theorem runAll_append_ok {first second : List (Ddl ν)} {db db' : Catalog ν} :
    runAll (first ++ second) db = .ok db' ↔
      ∃ m, runAll first db = .ok m ∧ runAll second m = .ok db' := by
  induction first generalizing db with
  | nil =>
    constructor
    · exact fun h => ⟨db, rfl, h⟩
    · intro h
      obtain ⟨m, h, hsecond⟩ := h
      cases h
      exact hsecond
  | cons d rest ih =>
    rw [List.cons_append, runAll_cons_ok]
    constructor
    · intro h
      obtain ⟨m, hd, h⟩ := h
      obtain ⟨m', hrest, hsecond⟩ := ih.mp h
      exact ⟨m', runAll_cons_ok.mpr ⟨m, hd, hrest⟩, hsecond⟩
    · intro h
      obtain ⟨m', h, hsecond⟩ := h
      obtain ⟨m, hd, hrest⟩ := runAll_cons_ok.mp h
      exact ⟨m, hd, ih.mpr ⟨m', hrest, hsecond⟩⟩

theorem runAll_single_ok {d : Ddl ν} {db db' : Catalog ν} :
    runAll [d] db = .ok db' ↔ d.run db = .ok db' := by
  rw [runAll_cons_ok]
  constructor
  · intro h
    obtain ⟨m, h, hm⟩ := h
    cases hm
    exact h
  · exact fun h => ⟨db', h, rfl⟩

/-! ## 2. Columns -/

/-- The columns of all tables, and the indexes. -/
@[ext] structure Shape where
  columns : String → Option (List String)
  indexes : List String

def Shape.empty : Shape := ⟨fun _ => none, []⟩

def Shape.set (shape : Shape) (name : String) (columns : Option (List String)) : Shape :=
  { shape with columns := Function.update shape.columns name columns }

omit [DecidableEq ν] in
/-- The shape of a file. -/
def Catalog.shape (db : Catalog ν) : Shape :=
  ⟨fun name => (db.tables name).map SqlTable.columns, db.indexes⟩

omit [DecidableEq ν] in
/-- The shape a statement leaves, if the shape before it admits the statement. -/
def Ddl.onShape (d : Ddl ν) (shape : Shape) : Option Shape :=
  match d with
  | createTable name columns =>
    match shape.columns name with
    | some _ => none
    | none => some (shape.set name (some columns))
  | createTableIfNotExists name columns =>
    match shape.columns name with
    | some _ => some shape
    | none => some (shape.set name (some columns))
  | createUniqueIndex index =>
    if index ∈ shape.indexes then none else some { shape with indexes := shape.indexes ++ [index] }
  | addColumn name column _ =>
    match shape.columns name with
    | none => none
    | some columns =>
      if column ∈ columns then none else some (shape.set name (some (columns ++ [column])))
  | insert name _ | insertOrIgnore name _ =>
    match shape.columns name with
    | none => none
    | some _ => some shape
  | dropTable name =>
    match shape.columns name with
    | none => none
    | some _ => some (shape.set name none)
  | renameTable name other =>
    match shape.columns name, shape.columns other with
    | some columns, none => some ((shape.set name none).set other (some columns))
    | _, _ => none

omit [DecidableEq ν] in
/-- The shape a batch leaves. -/
def onShapeAll : List (Ddl ν) → Shape → Option Shape
  | [], shape => some shape
  | d :: rest, shape => (d.onShape shape).bind (onShapeAll rest)

/-- The key of a statement that inserts is free. -/
def Ddl.Free (d : Ddl ν) (db : Catalog ν) : Prop :=
  match d with
  | insert name row => ∀ table, db.tables name = some table → table.hasKey row = false
  | _ => True

omit [DecidableEq ν] in
theorem shape_set (db : Catalog ν) (name : String) (table : Option (SqlTable ν)) :
    (db.set name table).shape = db.shape.set name (table.map SqlTable.columns) := by
  refine Shape.ext ?_ rfl
  funext other
  show (Function.update db.tables name table other).map SqlTable.columns =
    Function.update (fun name => (db.tables name).map SqlTable.columns) name
      (table.map SqlTable.columns) other
  by_cases h : other = name
  · subst h
    rw [Function.update_self, Function.update_self]
  · rw [Function.update_of_ne h, Function.update_of_ne h]

omit [DecidableEq ν] in
theorem shape_set_same {shape : Shape} {name : String} {columns : List String}
    (h : shape.columns name = some columns) : shape.set name (some columns) = shape := by
  unfold Shape.set
  rw [← h, Function.update_eq_self]

omit [DecidableEq ν] in
/-- The shape of a table that exists. -/
theorem shape_some {db : Catalog ν} {name : String} {columns : List String}
    (h : db.shape.columns name = some columns) :
    ∃ rows, db.tables name = some ⟨columns, rows⟩ := by
  obtain ⟨table, htable, rfl⟩ := Option.map_eq_some_iff.mp h
  exact ⟨table.rows, htable⟩

omit [DecidableEq ν] in
theorem shape_none {db : Catalog ν} {name : String} (h : db.shape.columns name = none) :
    db.tables name = none := Option.map_eq_none_iff.mp h

/-- **A statement its shape admits succeeds**, if its key is free, and leaves the shape it
    should. -/
theorem run_of_onShape {d : Ddl ν} {db : Catalog ν} {shape : Shape}
    (h : d.onShape db.shape = some shape) (hfree : d.Free db) :
    ∃ db', d.run db = .ok db' ∧ db'.shape = shape := by
  cases d with
  | createTable name columns =>
    simp only [Ddl.onShape] at h
    split at h
    · cases h
    · rename_i hnone
      cases h
      simp only [Ddl.run]
      rw [shape_none hnone]
      exact ⟨_, rfl, shape_set db name _⟩
  | createTableIfNotExists name columns =>
    simp only [Ddl.onShape] at h
    split at h
    · rename_i found hfound
      obtain ⟨rows, htable⟩ := shape_some hfound
      cases h
      simp only [Ddl.run]
      rw [htable]
      exact ⟨db, rfl, rfl⟩
    · rename_i hnone
      cases h
      simp only [Ddl.run]
      rw [shape_none hnone]
      exact ⟨_, rfl, shape_set db name _⟩
  | createUniqueIndex index =>
    simp only [Ddl.onShape] at h
    split at h
    · cases h
    · rename_i hindex
      cases h
      simp only [Ddl.run]
      rw [if_neg (show index ∉ db.indexes from hindex)]
      exact ⟨_, rfl, rfl⟩
  | addColumn name column value =>
    simp only [Ddl.onShape] at h
    split at h
    · cases h
    · rename_i columns hcolumns
      obtain ⟨rows, htable⟩ := shape_some hcolumns
      split at h
      · cases h
      · rename_i hcolumn
        cases h
        simp only [Ddl.run]
        rw [htable]
        dsimp only
        rw [if_neg hcolumn]
        exact ⟨_, rfl, shape_set db name _⟩
  | insert name row =>
    simp only [Ddl.onShape] at h
    split at h
    · cases h
    · rename_i columns hcolumns
      obtain ⟨rows, htable⟩ := shape_some hcolumns
      have hkey := hfree _ htable
      cases h
      simp only [Ddl.run]
      rw [htable]
      dsimp only
      rw [hkey]
      exact ⟨_, rfl, (shape_set db name _).trans (shape_set_same hcolumns)⟩
  | insertOrIgnore name row =>
    simp only [Ddl.onShape] at h
    split at h
    · cases h
    · rename_i columns hcolumns
      obtain ⟨rows, htable⟩ := shape_some hcolumns
      cases h
      simp only [Ddl.run]
      rw [htable]
      dsimp only
      split
      · exact ⟨db, rfl, rfl⟩
      · exact ⟨_, rfl, (shape_set db name _).trans (shape_set_same hcolumns)⟩
  | dropTable name =>
    simp only [Ddl.onShape] at h
    split at h
    · cases h
    · rename_i columns hcolumns
      obtain ⟨rows, htable⟩ := shape_some hcolumns
      cases h
      simp only [Ddl.run]
      rw [htable]
      exact ⟨_, rfl, shape_set db name none⟩
  | renameTable name other =>
    simp only [Ddl.onShape] at h
    split at h
    · rename_i columns hcolumns hnone
      obtain ⟨rows, htable⟩ := shape_some hcolumns
      cases h
      simp only [Ddl.run]
      rw [htable, shape_none hnone]
      refine ⟨_, rfl, ?_⟩
      rw [shape_set, shape_set]
      rfl
    · cases h

def Ddl.isInsert : Ddl ν → Bool
  | insert _ _ => true
  | _ => false

/-- **A batch its shape admits succeeds**, if it inserts nothing. -/
theorem runAll_of_onShape {ds : List (Ddl ν)} {db : Catalog ν} {shape : Shape}
    (h : onShapeAll ds db.shape = some shape) (hds : ∀ d ∈ ds, d.isInsert = false) :
    ∃ db', runAll ds db = .ok db' ∧ db'.shape = shape := by
  induction ds generalizing db with
  | nil =>
    cases h
    exact ⟨db, rfl, rfl⟩
  | cons d rest ih =>
    obtain ⟨between, hd, hrest⟩ := Option.bind_eq_some_iff.mp h
    have hfree : d.Free db := by
      have hinsert := hds d List.mem_cons_self
      cases d with
      | insert name row => cases hinsert
      | _ => exact trivial
    obtain ⟨m, hrun, rfl⟩ := run_of_onShape hd hfree
    obtain ⟨db', hrunAll, hshape⟩ := ih hrest fun d hd => hds d (List.mem_cons_of_mem _ hd)
    exact ⟨db', runAll_cons_ok.mpr ⟨m, hrun, hrunAll⟩, hshape⟩

/-- A batch of statements that do nothing does nothing. -/
theorem runAll_same {ds : List (Ddl ν)} {db : Catalog ν} (h : ∀ d ∈ ds, d.run db = .ok db) :
    runAll ds db = .ok db := by
  induction ds with
  | nil => rfl
  | cons d rest ih =>
    have hrest := ih fun d hd => h d (List.mem_cons_of_mem _ hd)
    exact runAll_cons_ok.mpr ⟨db, h d List.mem_cons_self, hrest⟩

/-! ## 3. Rows -/

/-- The tables a statement writes. -/
def Ddl.writes : Ddl ν → List String
  | createTable name _ | createTableIfNotExists name _ | addColumn name _ _ | insert name _
  | insertOrIgnore name _ | dropTable name => [name]
  | createUniqueIndex _ => []
  | renameTable name other => [name, other]

omit [DecidableEq ν] in
theorem set_other (db : Catalog ν) {name other : String} (table : Option (SqlTable ν))
    (h : other ≠ name) : (db.set name table).tables other = db.tables other :=
  Function.update_of_ne h _ _

omit [DecidableEq ν] in
theorem set_self (db : Catalog ν) (name : String) (table : Option (SqlTable ν)) :
    (db.set name table).tables name = table := Function.update_self _ _ _

/-- What a statement that succeeds has done, and what it found. -/
inductive Ddl.Did : Ddl ν → Catalog ν → Catalog ν → Prop
  | created {name : String} {columns : List String} {db : Catalog ν} : db.tables name = none →
      Did (.createTable name columns) db (db.set name (some ⟨columns, []⟩))
  | present {name : String} {columns : List String} {db : Catalog ν} :
      Did (.createTableIfNotExists name columns) db db
  | ensured {name : String} {columns : List String} {db : Catalog ν} : db.tables name = none →
      Did (.createTableIfNotExists name columns) db (db.set name (some ⟨columns, []⟩))
  | indexed {index : String} {db : Catalog ν} :
      Did (.createUniqueIndex index) db { db with indexes := db.indexes ++ [index] }
  | widened {name column : String} {value : ν} {table : SqlTable ν} {db : Catalog ν} :
      db.tables name = some table →
      Did (.addColumn name column value) db
        (db.set name (some ⟨table.columns ++ [column], table.rows.map (· ++ [value])⟩))
  | inserted {name : String} {row : List ν} {table : SqlTable ν} {db : Catalog ν} :
      db.tables name = some table → table.hasKey row = false →
      Did (.insert name row) db (db.set name (some ⟨table.columns, table.rows ++ [row]⟩))
  | ignored {name : String} {row : List ν} {db : Catalog ν} : Did (.insertOrIgnore name row) db db
  | added {name : String} {row : List ν} {table : SqlTable ν} {db : Catalog ν} :
      Did (.insertOrIgnore name row) db (db.set name (some ⟨table.columns, table.rows ++ [row]⟩))
  | dropped {name : String} {db : Catalog ν} : Did (.dropTable name) db (db.set name none)
  | renamed {name other : String} {table : SqlTable ν} {db : Catalog ν} :
      Did (.renameTable name other) db ((db.set name none).set other (some table))

theorem did_of_run {d : Ddl ν} {db db' : Catalog ν} (h : d.run db = .ok db') : d.Did db db' := by
  cases d with
  | createTable name columns =>
    simp only [Ddl.run] at h
    split at h
    · cases h
    · cases h
      exact .created ‹_›
  | createTableIfNotExists name columns =>
    simp only [Ddl.run] at h
    split at h
    · cases h
      exact .present
    · cases h
      exact .ensured ‹_›
  | createUniqueIndex index =>
    simp only [Ddl.run] at h
    split at h
    · cases h
    · cases h
      exact .indexed
  | addColumn name column value =>
    simp only [Ddl.run] at h
    split at h
    · cases h
    · split at h
      · cases h
      · cases h
        exact .widened ‹_›
  | insert name row =>
    simp only [Ddl.run] at h
    split at h
    · cases h
    · split at h
      · cases h
      · rename_i hkey
        cases h
        exact .inserted ‹_› (Bool.not_eq_true _ ▸ hkey)
  | insertOrIgnore name row =>
    simp only [Ddl.run] at h
    split at h
    · cases h
    · split at h
      · cases h
        exact .ignored
      · cases h
        exact .added
  | dropTable name =>
    simp only [Ddl.run] at h
    split at h
    · cases h
    · cases h
      exact .dropped
  | renameTable name other =>
    simp only [Ddl.run] at h
    split at h
    · cases h
    · cases h
    · cases h
      exact .renamed

/-- **The other tables are as they were.** -/
theorem run_frame {d : Ddl ν} {db db' : Catalog ν} {name : String} (h : d.run db = .ok db')
    (hname : name ∉ d.writes) : db'.tables name = db.tables name := by
  have hone : ∀ {written : String} {table : Option (SqlTable ν)}, name ∉ [written] →
      (db.set written table).tables name = db.tables name :=
    fun hname => set_other _ _ (List.ne_of_not_mem_cons hname)
  cases did_of_run h with
  | present | ignored | indexed => rfl
  | created _ | ensured _ | widened _ | inserted _ _ | added | dropped => exact hone hname
  | renamed =>
    have hother : name ∉ [_] := fun hmem => hname (List.mem_cons_of_mem _ hmem)
    rw [set_other _ _ (List.ne_of_not_mem_cons hother),
      set_other _ _ (List.ne_of_not_mem_cons hname)]

theorem runAll_frame {ds : List (Ddl ν)} {db db' : Catalog ν} {name : String}
    (h : runAll ds db = .ok db') (hname : ∀ d ∈ ds, name ∉ d.writes) :
    db'.tables name = db.tables name := by
  induction ds generalizing db with
  | nil =>
    cases h
    rfl
  | cons d rest ih =>
    obtain ⟨m, hd, hrest⟩ := runAll_cons_ok.mp h
    rw [ih hrest fun d hd => hname d (List.mem_cons_of_mem _ hd)]
    exact run_frame hd (hname d List.mem_cons_self)

/-- **A batch does not insert a key that is there already**, when nothing before the INSERT writes
    its table. -/
theorem free_of_runAll {ds : List (Ddl ν)} {name : String} {row : List ν} {db db' : Catalog ν}
    (h : runAll (ds ++ [.insert name row]) db = .ok db') (hname : ∀ d ∈ ds, name ∉ d.writes) :
    ∃ table, db.tables name = some table ∧ table.hasKey row = false := by
  obtain ⟨m, hds, hinsert⟩ := runAll_append_ok.mp h
  cases did_of_run (runAll_single_ok.mp hinsert) with
  | inserted htable hkey => exact ⟨_, (runAll_frame hds hname).symm.trans htable, hkey⟩

/-- A table a batch creates, and does not write any more, is empty. -/
theorem created_of_runAll (before after : List (Ddl ν)) {name : String} {columns : List String}
    {db db' : Catalog ν} (h : runAll (before ++ .createTable name columns :: after) db = .ok db')
    (hname : ∀ d ∈ after, name ∉ d.writes) : db'.tables name = some ⟨columns, []⟩ := by
  obtain ⟨m, -, h⟩ := runAll_append_ok.mp h
  obtain ⟨m', hcreate, hrest⟩ := runAll_cons_ok.mp h
  rw [runAll_frame hrest hname]
  cases did_of_run hcreate with
  | created _ => exact set_self _ _ _

/-- The rows are still there, in their order; each may have got new columns at its end. -/
structure SqlTable.Kept (table table' : SqlTable ν) : Prop where
  columns : table.columns <+: table'.columns
  rows : List.Forall₂ (· <+: ·) table.rows table'.rows

omit [DecidableEq ν] in
theorem SqlTable.Kept.refl (table : SqlTable ν) : table.Kept table :=
  ⟨List.prefix_refl _, List.forall₂_same.mpr fun row _ => List.prefix_refl row⟩

omit [DecidableEq ν] in
theorem SqlTable.Kept.trans {a b c : SqlTable ν} (hab : a.Kept b) (hbc : b.Kept c) : a.Kept c :=
  ⟨hab.columns.trans hbc.columns, forall₂_comp (fun _ _ _ => .trans) hab.rows hbc.rows⟩

/-- A statement that takes no row of this table away and adds none. -/
def Ddl.Keeps (name : String) : Ddl ν → Prop
  | insert other _ | insertOrIgnore other _ | dropTable other => name ≠ other
  | renameTable other new => name ≠ other ∧ name ≠ new
  | _ => True

/-- A statement that creates something or widens a table. -/
def Ddl.grows : Ddl ν → Bool
  | createTable _ _ | createTableIfNotExists _ _ | createUniqueIndex _ | addColumn _ _ _ => true
  | _ => false

omit [DecidableEq ν] in
theorem isInsert_of_grows {d : Ddl ν} (h : d.grows = true) : d.isInsert = false := by
  cases d with
  | insert name row => cases h
  | _ => rfl

omit [DecidableEq ν] in
theorem keeps_of_grows {d : Ddl ν} (h : d.grows = true) (name : String) : d.Keeps name := by
  cases d with
  | createTable | createTableIfNotExists | createUniqueIndex | addColumn => exact trivial
  | _ => cases h

/-- **A statement that keeps a table** leaves it there, with all its rows. -/
theorem run_kept {d : Ddl ν} {db db' : Catalog ν} {name : String} {table : SqlTable ν}
    (h : d.run db = .ok db') (hd : d.Keeps name) (htable : db.tables name = some table) :
    ∃ table', db'.tables name = some table' ∧ table.Kept table' := by
  have hsame : ∀ {written : String} {other : Option (SqlTable ν)}, name ≠ written →
      ∃ table', (db.set written other).tables name = some table' ∧ table.Kept table' := by
    intro written other hne
    exact ⟨table, (set_other _ _ hne).trans htable, .refl table⟩
  have habsent : ∀ {written : String}, db.tables written = none → name ≠ written := by
    rintro written hnone rfl
    rw [htable] at hnone
    cases hnone
  cases did_of_run h with
  | present | ignored | indexed => exact ⟨table, htable, .refl table⟩
  | created hnone | ensured hnone => exact hsame (habsent hnone)
  | @widened written column value other _ hother =>
    by_cases hne : name = written
    · subst hne
      cases htable.symm.trans hother
      refine ⟨_, set_self _ _ _, ⟨List.prefix_append _ _, ?_⟩⟩
      refine List.forall₂_map_right_iff.mpr (List.forall₂_same.mpr fun row _ => ?_)
      exact List.prefix_append row [value]
    · exact hsame hne
  | inserted _ _ | added | dropped => exact hsame hd
  | renamed =>
    exact ⟨table, by rw [set_other _ _ hd.2, set_other _ _ hd.1, htable], .refl table⟩

theorem runAll_kept {ds : List (Ddl ν)} {db db' : Catalog ν} {name : String} {table : SqlTable ν}
    (h : runAll ds db = .ok db') (hds : ∀ d ∈ ds, d.Keeps name)
    (htable : db.tables name = some table) :
    ∃ table', db'.tables name = some table' ∧ table.Kept table' := by
  induction ds generalizing db table with
  | nil =>
    cases h
    exact ⟨table, htable, .refl table⟩
  | cons d rest ih =>
    obtain ⟨m, hd, hrest⟩ := runAll_cons_ok.mp h
    obtain ⟨table₁, htable₁, hkept₁⟩ := run_kept hd (hds d List.mem_cons_self) htable
    obtain ⟨table₂, htable₂, hkept₂⟩ :=
      ih hrest (fun d hd => hds d (List.mem_cons_of_mem _ hd)) htable₁
    exact ⟨table₂, htable₂, hkept₁.trans hkept₂⟩

/-- Rows with new keys can be inserted, one after the other. -/
theorem runAll_inserts {name : String} {columns : List String} {rows new : List (List ν)}
    {db : Catalog ν} (htable : db.tables name = some ⟨columns, rows⟩)
    (hkeys : ((rows ++ new).map List.head?).Nodup) :
    runAll (new.map (Ddl.insert name)) db = .ok (db.set name (some ⟨columns, rows ++ new⟩)) := by
  induction new generalizing rows db with
  | nil =>
    rw [List.append_nil, ← htable]
    show Except.ok db = Except.ok _
    refine congrArg Except.ok (Catalog.ext ?_ rfl)
    exact (Function.update_eq_self name db.tables).symm
  | cons row rest ih =>
    have hfree : (⟨columns, rows⟩ : SqlTable ν).hasKey row = false := by
      refine decide_eq_false fun hmem => ?_
      rw [List.map_append] at hkeys
      exact (List.nodup_append.mp hkeys).2.2 _ hmem _ List.mem_cons_self rfl
    have hrun : (Ddl.insert name row).run db =
        .ok (db.set name (some ⟨columns, rows ++ [row]⟩)) := by
      simp only [Ddl.run]
      rw [htable]
      dsimp only
      rw [hfree]
      rfl
    have hkeys' : ((rows ++ [row] ++ rest).map List.head?).Nodup := by
      rwa [List.append_assoc, List.singleton_append]
    refine runAll_cons_ok.mpr ⟨_, hrun, (ih (set_self _ _ _) hkeys').trans ?_⟩
    refine congrArg Except.ok (Catalog.ext ?_ rfl)
    show Function.update (Function.update db.tables name _) name _ = _
    rw [Function.update_idem, List.append_assoc, List.singleton_append]
    rfl

end Catalog

end MatriXpost
