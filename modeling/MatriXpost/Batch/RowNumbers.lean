/-
  File:      MatriXpost/Batch/RowNumbers.lean
  Subject:   THE ROW NUMBERS OF A BATCH, against the rows of the worksheet.

  Source: `matrixpost-cli/src/batch.rs` (`read_rows`, `project_rows`).

  The reader of workbooks gives the used range of a sheet and says where it starts (`UsedRange`);
  `read_rows` goes through its rows and does not look at the start. So the numbers are those of the
  sheet exactly when the used range starts at the first row (`row_numbers_physical`), and an
  outcome carries the number its row was given (`batchDispatch_keys`).
-/
import MatriXpost.Batch.Conservation

namespace MatriXpost

/-! ## 1. Worksheets -/

/-- The texts of the cells of a worksheet, by row and column from zero; `none` for no cell. -/
abbrev Worksheet := Nat → Nat → Option String

/-- What the reader gives of a worksheet: rows of texts, and the position of the first of them. -/
structure SheetRange where
  startRow : Nat
  startColumn : Nat
  rows : List (List String)
deriving DecidableEq, Repr

/-- `worksheet_range`: the range holds the cells of the sheet from its position on, all of them,
    and begins with a row that has one. An empty cell reads as an empty text. -/
structure UsedRange (sheet : Worksheet) (range : SheetRange) : Prop where
  content : ∀ i row j text, range.rows[i]? = some row → row[j]? = some text →
    text = (sheet (range.startRow + i) (range.startColumn + j)).getD ""
  covers : ∀ i j, (sheet i j).isSome = true → range.startRow ≤ i ∧ range.startColumn ≤ j ∧
    ∃ row, range.rows[i - range.startRow]? = some row ∧ j - range.startColumn < row.length
  begins : range.rows ≠ [] → ∃ j, (sheet range.startRow j).isSome = true

/-- `read_rows`, from the range on. -/
def readRows (range : SheetRange) : Except String (List BatchRow) := projectRows range.rows

/-! ## 2. Numbers -/

/-- The rows of the worksheet the batch rows are read from: their one-based numbers, and the names
    they give. -/
def sheetRows (range : SheetRange) : List (Nat × String) :=
  match range.rows with
  | [] => []
  | headers :: below =>
    match columnIndex headers fileColumns with
    | none => []
    | some file => namedRowsFrom (range.startRow + 2) file below

/-- Numbers further down by as many rows. -/
theorem namedRowsFrom_add (offset first file : Nat) (below : List (List String)) :
    namedRowsFrom (offset + first) file below =
      (namedRowsFrom first file below).map fun entry => (offset + entry.1, entry.2) := by
  have hshift : below.zipIdx (offset + first) =
      (below.zipIdx first).map fun entry => (entry.1, offset + entry.2) := by
    rw [List.zipIdx_eq_map_add, List.zipIdx_eq_map_add (i := first), List.map_map]
    exact List.map_congr_left fun entry _ => by simp [Nat.add_comm, Nat.add_left_comm]
  unfold namedRowsFrom
  rw [hshift, List.filterMap_map, List.map_filterMap]
  refine List.filterMap_congr fun entry _ => ?_
  obtain ⟨row, number⟩ := entry
  by_cases hname : normalizeCell (row.getD file "") = ""
  · simp only [Function.comp_apply, hname, if_true, Option.map_none]
  · simp only [Function.comp_apply, hname, if_false, Option.map_some]

/-- **What is read are the named rows of the range, numbered from its own start.** -/
theorem sheetRows_of_readRows {range : SheetRange} {rows : List BatchRow}
    (h : readRows range = .ok rows) :
    range.rows ≠ [] ∧
      sheetRows range = rows.map fun row => (range.startRow + row.row, row.fileName) := by
  obtain ⟨headers, below, file, hrange, hfile, hnamed⟩ := projectRows_ok h
  have hrows : sheetRows range = namedRowsFrom (range.startRow + 2) file below := by
    unfold sheetRows
    rw [hrange]
    simp only [hfile]
  refine ⟨by simp [hrange], ?_⟩
  rw [hrows, namedRowsFrom_add, ← namedRows, ← hnamed, List.map_map]
  rfl

/-- **A sheet row has in its file column the name that was read**, where its number says. -/
theorem sheetRows_cell {sheet : Worksheet} {range : SheetRange} (hused : UsedRange sheet range)
    {number : Nat} {name : String} (h : (number, name) ∈ sheetRows range) :
    0 < number ∧ ∃ column, name = normalizeCell ((sheet (number - 1) column).getD "") := by
  unfold sheetRows at h
  split at h
  · cases h
  rename_i headers below hrange
  split at h
  · cases h
  rename_i file _
  obtain ⟨⟨row, found⟩, hentry, hname⟩ := List.mem_filterMap.mp h
  obtain ⟨hfirst, hlast, hrow⟩ := List.mem_zipIdx hentry
  dsimp only at hname
  split at hname
  · cases hname
  rename_i hnamed
  obtain ⟨rfl, rfl⟩ := Prod.mk.inj (Option.some.inj hname)
  refine ⟨by omega, range.startColumn + file, ?_⟩
  have hindex : range.rows[found - 1 - range.startRow]? = some row := by
    have hpos : found - 1 - range.startRow = (found - (range.startRow + 2)) + 1 := by omega
    rw [hrange, hpos, List.getElem?_cons_succ, List.getElem?_eq_getElem (by omega), hrow]
  cases hcell : row[file]? with
  | none =>
    rw [List.getD_eq_getElem?_getD, hcell] at hnamed
    exact absurd trim_empty hnamed
  | some text =>
    have htext := hused.content _ _ _ _ hindex hcell
    have hplace : range.startRow + (found - 1 - range.startRow) = found - 1 := by omega
    rw [hplace] at htext
    rw [List.getD_eq_getElem?_getD, hcell, ← htext]
    rfl

/-! ## 3. Outcomes -/

/-- **An outcome has the number of its item**, whatever its turn met. -/
theorem batchDispatch_keys {turns : List BatchTurn} {items : List BatchItem} {s s' : Store}
    {es : CallLog} {emitted : Emitted BatchSummary} (hitems : turns.map (·.item) = items)
    (h : Exec Eq Call.Handles (batchDispatch turns) s es emitted s') :
    emitted.result.rows.map (fun o => (o.row, o.fileName)) = items.map BatchItem.key := by
  obtain ⟨es₁, es₂, outcomes, m, rfl, hloop, hdone⟩ := exec_bind (fun _ => rfl) h
  obtain ⟨rfl, rfl, rfl⟩ := exec_ret hdone
  obtain ⟨runs, hturns, rfl, -, -⟩ := dispatchItems_sound hloop
  rw [summary_counts]
  exact outcomes_keys hturns hitems

/-! ## 4. Physical numbers -/

/-- The rows, and the outcomes of every dispatch of a plan made from them, have the numbers of the
    worksheet's rows they were read from. -/
def NumbersPhysical (range : SheetRange) (rows : List BatchRow) : Prop :=
  rows.map (fun row => (row.row, row.fileName)) = sheetRows range ∧
    ∀ (names : FileNames) (args : PublishArgs) (platform : Platform) (candidates : List PathBuf)
      (turns : List BatchTurn) (s s' : Store) (es : CallLog) (emitted : Emitted BatchSummary),
      turns.map (·.item) = rows.map (batchItem names args platform candidates) →
      Exec Eq Call.Handles (batchDispatch turns) s es emitted s' →
      emitted.result.rows.map (fun o => (o.row, o.fileName)) = sheetRows range

/-- **The numbers are those of the worksheet if and only if** no row of it names a file or its first
    row is used. What a numbered row of the worksheet names is in that row. -/
theorem row_numbers_physical (sheet : Worksheet) (range : SheetRange) (rows : List BatchRow)
    (hused : UsedRange sheet range) (h : readRows range = .ok rows) :
    (NumbersPhysical range rows ↔
      sheetRows range = [] ∨ ∃ column, (sheet 0 column).isSome = true) ∧
    ∀ number name, (number, name) ∈ sheetRows range →
      0 < number ∧ ∃ column, name = normalizeCell ((sheet (number - 1) column).getD "") := by
  obtain ⟨hne, hsheet⟩ := sheetRows_of_readRows h
  refine ⟨?_, fun number name => sheetRows_cell hused⟩
  constructor
  · intro hphysical
    have hnumbers := hphysical.1
    rw [hsheet] at hnumbers ⊢
    cases rows with
    | nil => exact .inl rfl
    | cons row rest =>
      have hrow := congrArg Prod.fst (List.cons.inj hnumbers).1
      have hstart : range.startRow = 0 := by
        dsimp only at hrow
        omega
      have hbegins := hused.begins hne
      rw [hstart] at hbegins
      exact .inr hbegins
  · intro hcondition
    have hnumbers : rows.map (fun row => (row.row, row.fileName)) = sheetRows range := by
      rw [hsheet]
      rcases hcondition with hnone | hfirst
      · rw [hsheet, List.map_eq_nil_iff] at hnone
        rw [hnone]
        rfl
      · obtain ⟨column, hcell⟩ := hfirst
        obtain ⟨hstart, -⟩ := hused.covers 0 column hcell
        rw [Nat.le_zero.mp hstart]
        exact List.map_congr_left fun row _ => by rw [Nat.zero_add]
    refine ⟨hnumbers, ?_⟩
    intro names args platform candidates turns s s' es emitted hitems hrun
    rw [batchDispatch_keys hitems hrun, ← hnumbers, List.map_map]
    exact List.map_congr_left fun row _ => batchItem_key names args platform candidates row

/-- A sheet with a header in this row (from zero) and a file two rows below it. -/
def movieSheet (header : Nat) : Worksheet := fun i j =>
  if j = 0 then
    if i = header then some "file" else if i = header + 2 then some "movie.mp4" else none
  else none

/-- Its used range: a blank row stands between the two. -/
def movieRange (header : Nat) : SheetRange := ⟨header, 0, [["file"], [""], ["movie.mp4"]]⟩

theorem usedRange_movie (header : Nat) : UsedRange (movieSheet header) (movieRange header) where
  content := by
    intro i row j text hrow htext
    have hi : i < 3 := (List.getElem?_eq_some_iff.mp hrow).1
    have hj : j = 0 := by
      rcases (by omega : i = 0 ∨ i = 1 ∨ i = 2) with rfl | rfl | rfl
      all_goals
        cases hrow
        have hlength := (List.getElem?_eq_some_iff.mp htext).1
        simpa using hlength
    subst hj
    rcases (by omega : i = 0 ∨ i = 1 ∨ i = 2) with rfl | rfl | rfl
    all_goals
      cases hrow
      cases htext
      simp [movieSheet, movieRange]
  covers := by
    intro i j hcell
    have hj : j = 0 := by
      by_contra hj
      simp [movieSheet, hj] at hcell
    have hi : i = header ∨ i = header + 2 := by
      by_contra hi
      rw [not_or] at hi
      simp [movieSheet, hj, hi.1, hi.2] at hcell
    rcases hi with rfl | rfl
    · exact ⟨Nat.le_refl _, Nat.zero_le _, ["file"], by simp [movieRange], by simp [hj, movieRange]⟩
    · exact ⟨Nat.le_add_right _ _, Nat.zero_le _, ["movie.mp4"], by simp [movieRange],
        by simp [hj, movieRange]⟩
  begins := fun _ => ⟨0, by simp [movieSheet, movieRange]⟩

theorem row_numbers_physical_sample :
    ∃ rows, readRows (movieRange 0) = .ok rows ∧ NumbersPhysical (movieRange 0) rows :=
  ⟨_, rfl, (row_numbers_physical (movieSheet 0) (movieRange 0) _ (usedRange_movie 0) rfl).1.mpr
    (.inr ⟨0, by decide⟩)⟩

/-- **With two blank rows above the header the file of row 5 is reported as row 3.** -/
theorem not_numbersPhysical_blank :
    (readRows (movieRange 2)).map (·.map (·.row)) = .ok [3] ∧
      sheetRows (movieRange 2) = [(5, "movie.mp4")] ∧
      ¬ ∀ (sheet : Worksheet) (range : SheetRange) (rows : List BatchRow),
        UsedRange sheet range → readRows range = .ok rows → NumbersPhysical range rows := by
  refine ⟨by decide, by decide, ?_⟩
  intro hall
  have hphysical := hall (movieSheet 2) (movieRange 2) _ (usedRange_movie 2) rfl
  exact absurd hphysical.1 (by decide)

end MatriXpost
