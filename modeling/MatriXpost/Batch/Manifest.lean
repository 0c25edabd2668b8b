/-
  File:      MatriXpost/Batch/Manifest.lean
  Subject:   THE BATCH MANIFEST: from the cells of a worksheet to a plan.

  Source: `matrixpost-cli/src/batch.rs` up to `prepare`.

  What the file system answers (`BatchFiles`), the names of paths and Unicode lower case
  (`FileNames`) are arguments.

  * `projectRows_ok`: the rows below the header whose file cell is not blank, in order, with their
    numbers in the sheet;
  * `prepare_ok`: a plan has one item for each of them, and nothing else.
-/
import MatriXpost.Lib.Select
import MatriXpost.Process.Entry

namespace MatriXpost

/-! ## 1. Rows -/

/-- A row of the worksheet with its one-based number, kept also where blank rows are left out. -/
structure BatchRow where
  row : Nat
  fileName : String
  title : Option String
  tags : Option String
  creativeStatement : Option String

/-- The four invisible characters a cell is cleaned of. -/
def invisible (c : Char) : Bool :=
  c = '\ufeff' || c = '\u200b' || c = '\u200c' || c = '\u200d'

def normalizeCell (value : String) : String :=
  trim (String.ofList (value.toList.filter fun c => !invisible c))

def normalizeHeader (value : String) : String :=
  String.ofList ((normalizeCell value).toList.filter fun c => !isWhitespace c)

def columnIndex (headers names : List String) : Option Nat :=
  headers.findIdx? fun header => names.contains (toAsciiLowercase (normalizeHeader header))

/-- The names of the file column. -/
def fileColumns : List String := ["文件名", "filename", "file"]

/-- The cell of a row in a column: absent where there is none, or a blank one. -/
def cellValue (row : List String) (column : Option Nat) : Option String :=
  ((column.bind fun index => row[index]?).map normalizeCell).filter fun value => value ≠ ""

/-- Maps the first worksheet into meaningful rows. Empty filename rows are ignored. -/
def projectRows (rows : List (List String)) : Except String (List BatchRow) :=
  match rows with
  | [] => .error "batch workbook has no readable rows"
  | headers :: _ =>
    match columnIndex headers fileColumns with
    | none => .error "batch workbook needs a 文件名, filename, or file column"
    | some file =>
      let title := columnIndex headers ["标题", "title"]
      let tags := columnIndex headers ["标签", "tags"]
      let creativeStatement := columnIndex headers ["创作声明", "creativestatement", "cs"]
      .ok ((rows.zipIdx.drop 1).filterMap fun (row, index) =>
        (cellValue row (some file)).map fun fileName =>
          { row := index + 1
            fileName
            title := cellValue row title
            tags := cellValue row tags
            creativeStatement := cellValue row creativeStatement })

/-! ## 2. Files -/

/-- The names of paths, as `std::path` and `str::to_lowercase` give them: whether a text is one
    plain component, and the last component of a path and its stem. -/
structure FileNames where
  safeFileName : String → Bool
  fileName : PathBuf → Option String
  fileStem : PathBuf → Option String
  utf8Stem : PathBuf → Option String
  toLowercase : String → String

def resolveFile (names : FileNames) (value : String) (candidates : List PathBuf) :
    Except String PathBuf :=
  if !names.safeFileName value then .error "file name must be a single relative file name"
  else
    let wanted := names.toLowercase (normalizeCell value)
    let named (name : PathBuf → Option String) := candidates.filter fun path =>
      (name path).any fun text => names.toLowercase (normalizeCell text) = wanted
    let exact := named names.fileName
    let found := if exact.isEmpty then named names.fileStem else exact
    match found with
    | [file] => .ok file
    | [] => .error "no direct regular file matches this row"
    | _ => .error "multiple direct regular files match this row"

def normalizedTags (value : Option String) (platform : Platform) : List String :=
  let cells := ((value.getD "").toList.splitOn ',').map fun tag => normalizeCell (String.ofList tag)
  (cells.filter fun tag => tag ≠ "").map fun tag =>
    if (platform = .wechatChannels ∨ platform = .douyin ∨ platform = .kuaishou) ∧
        tag.toList.head? ≠ some '#' then
      "#" ++ tag
    else tag

/-! ## 3. The plan -/

/-- The arguments of `publish` a batch looks at. -/
structure PublishArgs where
  platforms : List String
  file : Option String
  dir : Option PathBuf
  config : Option PathBuf
  title : Option String
  shortTitle : Option String
  tags : List String
  phone : Option String
  partition : Option String
  address : Option String
  publishAt : Option LocalSchedule
  draft : Bool
  sphProductId : Option String
  sphLinkType : Option String
  sphLinkValue : Option String
  platformOverrides : List String
  creativeStatement : Option String

def batchPlatform (args : PublishArgs) : Except String Platform :=
  if args.file.isSome then .error "--file cannot be combined with --dir"
  else if args.dir.isNone || args.config.isNone then .error "--dir requires --config (or --xlsx)"
  else if args.title.isSome || !args.tags.isEmpty || args.creativeStatement.isSome ||
      !args.platformOverrides.isEmpty then
    .error "batch rows own title, tags, creative statement, and platform overrides"
  else
    match args.platforms.mapM Platform.fromStr with
    | .error error => .error error.text
    | .ok [platform] => .ok platform
    | .ok _ => .error "batch publishing requires exactly one --platform"

def rowRequest (names : FileNames) (args : PublishArgs) (platform : Platform) (file : PathBuf)
    (row : BatchRow) : Except String PublishRequest :=
  match ((names.utf8Stem file).map normalizeCell).filter fun stem => stem ≠ "" with
  | none => .error "media file name has no usable UTF-8 stem"
  | some stem =>
    let title := row.title.getD stem
    let request : PublishRequest :=
      { source := .localFile file
        title
        shortTitle := args.shortTitle
        tags := normalizedTags row.tags platform
        address := args.address
        draft := args.draft
        bt2 := some title
        scheduledAt := args.publishAt
        taskName := some stem
        account := ⟨args.phone, args.partition⟩
        wechatLink := ⟨args.sphProductId, args.sphLinkType, args.sphLinkValue⟩
        overrides := row.creativeStatement.toList.map fun statement =>
          ⟨platform, none, none, none, some statement, none, none⟩
        targets := [platform] }
    match request.validate with
    | .ok _ => .ok request
    | .error error => .error error.text

/-- What the file system answers while a plan is made: the two canonical paths, the cells of the
    first worksheet, the direct video files of the directory. -/
structure BatchFiles where
  canonicalDirectory : PathBuf → Except String PathBuf
  canonicalConfig : PathBuf → Except String PathBuf
  cells : PathBuf → Except String (List (List String))
  directFiles : PathBuf → Except String (List PathBuf)

structure BatchPlan where
  directory : PathBuf
  items : List BatchItem

/-- The item of a row: a request, or why it is skipped. -/
def batchItem (names : FileNames) (args : PublishArgs) (platform : Platform)
    (candidates : List PathBuf) (row : BatchRow) : BatchItem :=
  let result := do
    let file ← resolveFile names row.fileName candidates
    rowRequest names args platform file row
  match result with
  | .ok request => .ready row.row row.fileName request
  | .error reason => .skipped row.row row.fileName reason

def prepare (names : FileNames) (files : BatchFiles) (args : PublishArgs) :
    Except String BatchPlan := do
  let platform ← batchPlatform args
  -- `batch_platform` has checked that both paths are there.
  match args.dir, args.config with
  | some dir, some config => do
    let directory ← files.canonicalDirectory dir
    let config ← files.canonicalConfig config
    let rows ← files.cells config >>= projectRows
    if rows.isEmpty then .error "batch workbook has no effective file rows"
    else do
      let candidates ← files.directFiles directory
      pure ⟨directory, rows.map (batchItem names args platform candidates)⟩
  | _, _ => .error "--dir requires --config (or --xlsx)"

/-! ## 4. One item for each row -/

/-- The row number and file name an item carries. -/
def BatchItem.key : BatchItem → Nat × String
  | .ready row fileName _ => (row, fileName)
  | .skipped row fileName _ => (row, fileName)

theorem batchItem_key (names : FileNames) (args : PublishArgs) (platform : Platform)
    (candidates : List PathBuf) (row : BatchRow) :
    (batchItem names args platform candidates row).key = (row.row, row.fileName) := by
  unfold batchItem
  dsimp only
  split <;> rfl

/-- The rows below the header of a worksheet whose cell in the file column is not blank after
    normalisation: their numbers, when the first below it has this one, and the names they give. -/
def namedRowsFrom (first file : Nat) (below : List (List String)) : List (Nat × String) :=
  (below.zipIdx first).filterMap fun (row, number) =>
    let name := normalizeCell (row.getD file "")
    if name = "" then none else some (number, name)

/-- The numbers `read_rows` gives them: the header counts as the first row. -/
def namedRows (file : Nat) (below : List (List String)) : List (Nat × String) :=
  namedRowsFrom 2 file below

theorem trim_empty : normalizeCell "" = "" := by decide

theorem cellValue_eq (row : List String) (file : Nat) :
    cellValue row (some file) =
      if normalizeCell (row.getD file "") = "" then none
      else some (normalizeCell (row.getD file "")) := by
  unfold cellValue
  rw [List.getD_eq_getElem?_getD, Option.bind_some]
  cases row[file]? with
  | none => simp [trim_empty]
  | some value => by_cases h : normalizeCell value = "" <;> simp [h]

/-- **The projected rows are the named rows of the sheet, in order.** -/
theorem projectRows_ok {cells : List (List String)} {rows : List BatchRow}
    (h : projectRows cells = .ok rows) :
    ∃ headers below file, cells = headers :: below ∧
      columnIndex headers fileColumns = some file ∧
      rows.map (fun row => (row.row, row.fileName)) = namedRows file below := by
  unfold projectRows at h
  split at h
  · cases h
  rename_i headers below
  split at h
  · cases h
  rename_i file hfile
  cases h
  refine ⟨headers, below, file, rfl, hfile, ?_⟩
  rw [List.map_filterMap, List.zipIdx_cons, List.drop_one, List.tail_cons, namedRows,
    namedRowsFrom]
  have hshift : below.zipIdx 2 = (below.zipIdx 1).map fun (row, index) => (row, index + 1) := by
    rw [List.zipIdx_succ]
  rw [Nat.zero_add, hshift, List.filterMap_map]
  refine List.filterMap_congr fun entry _ => ?_
  obtain ⟨row, index⟩ := entry
  simp only [cellValue_eq, Function.comp_apply]
  split <;> rfl

example : (projectRows [["Title", " File "], ["a", " "], ["b", "v.mp4"], ["c"]]).map
    (·.map fun row => (row.row, row.fileName)) = .ok [(3, "v.mp4")] := by
  decide

/-- **A plan has one item for each named row of its sheet**, with the row's number and name. -/
theorem prepare_ok {names : FileNames} {files : BatchFiles} {args : PublishArgs} {plan : BatchPlan}
    (h : prepare names files args = .ok plan) :
    ∃ config headers below file, files.cells config = .ok (headers :: below) ∧
      columnIndex headers fileColumns = some file ∧
      plan.items.map BatchItem.key = namedRows file below := by
  obtain ⟨platform, -, h⟩ := except_bind_ok.mp h
  split at h
  · rename_i dir configPath _ _
    obtain ⟨directory, -, h⟩ := except_bind_ok.mp h
    obtain ⟨config, -, h⟩ := except_bind_ok.mp h
    obtain ⟨rows, hrows, h⟩ := except_bind_ok.mp h
    obtain ⟨cells, hcells, hproject⟩ := except_bind_ok.mp hrows
    split at h
    · cases h
    obtain ⟨candidates, -, h⟩ := except_bind_ok.mp h
    cases h
    obtain ⟨headers, below, file, rfl, hfile, hnamed⟩ := projectRows_ok hproject
    refine ⟨config, headers, below, file, hcells, hfile, ?_⟩
    rw [← hnamed, List.map_map]
    exact List.map_congr_left fun row _ => batchItem_key names args platform candidates row
  · cases h

end MatriXpost
