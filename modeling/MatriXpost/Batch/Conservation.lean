/-
  File:      MatriXpost/Batch/Conservation.lean
  Subject:   NO ROW OF A BATCH IS LOST, DOUBLED OR REORDERED, from the worksheet to the printed
             summary and the history.

  A run of `batch::dispatch` is a run of its calls over the store of one process; providers,
  storage and the file system answer in any way, anew in each turn.

  * `RowSound` says what one turn does: nothing for a row that does not pass revalidation, else one
    dispatch, and a record when there is a report;
  * `dispatchItem_sound` (one turn) and `dispatchItems_sound` (the loop) are the induction;
  * `batch_conservation` puts the plan, the outcomes, the counts, the history and the exit code
    together.
-/
import MatriXpost.Batch.Manifest

namespace MatriXpost

/-! ## 1. Counts and exit code -/

section Counts
variable {rows : List BatchRowOutcome}

/-- The counts of the loop, from any start. -/
theorem foldl_count (rows : List BatchRowOutcome) (start : BatchSummary) :
    rows.foldl BatchSummary.count start =
      { rows := start.rows
        queued := start.queued + rows.countP (·.state.isQueued)
        unavailable := start.unavailable + rows.countP (·.state.isUnavailable)
        rejected := start.rejected + rows.countP (·.state.isRejected)
        skipped := start.skipped + rows.countP (·.state.isSkipped) } := by
  induction rows generalizing start with
  | nil => rfl
  | cons row rest ih =>
    rw [List.foldl_cons, ih]
    obtain ⟨number, fileName, state⟩ := row
    cases state <;>
      simp [BatchSummary.count, BatchRowState.isQueued, BatchRowState.isUnavailable,
        BatchRowState.isRejected, BatchRowState.isSkipped, Nat.add_assoc, Nat.add_comm 1]

/-- **Each count is the number of outcomes of its class.** -/
theorem summary_counts (rows : List BatchRowOutcome) :
    summary rows = ⟨rows, rows.countP (·.state.isQueued), rows.countP (·.state.isUnavailable),
      rows.countP (·.state.isRejected), rows.countP (·.state.isSkipped)⟩ := by
  rw [summary, foldl_count]
  simp only [Nat.zero_add]

/-- Every outcome is in one class. -/
theorem counts_sum (rows : List BatchRowOutcome) :
    rows.countP (·.state.isQueued) + rows.countP (·.state.isUnavailable) +
      rows.countP (·.state.isRejected) + rows.countP (·.state.isSkipped) = rows.length := by
  have hone : ∀ state : BatchRowState,
      (if state.isQueued = true then 1 else 0) + (if state.isUnavailable = true then 1 else 0) +
        (if state.isRejected = true then 1 else 0) +
        (if state.isSkipped = true then 1 else 0) = 1 := by
    intro state
    cases state <;> rfl
  induction rows with
  | nil => rfl
  | cons row rest ih =>
    have hrow := hone row.state
    simp only [List.countP_cons, List.length_cons]
    omega

theorem BatchRowState.not_isSkipped_of_isQueued {state : BatchRowState}
    (h : state.isQueued = true) : state.isSkipped = false := by
  cases state <;> first | rfl | cases h

theorem BatchRowState.not_isSkipped_of_isUnavailable {state : BatchRowState}
    (h : state.isUnavailable = true) : state.isSkipped = false := by
  cases state <;> first | rfl | cases h

/-- A test no skipped row meets: no row is skipped, one is attempted and all attempted meet it. -/
theorem attempted_all_iff {test : BatchRowState → Bool}
    (htest : ∀ state, test state = true → state.isSkipped = false) :
    (!rows.any (·.state.isSkipped) &&
        !(rows.filter fun row => !row.state.isSkipped).isEmpty &&
        (rows.filter fun row => !row.state.isSkipped).all fun row => test row.state) = true ↔
      rows ≠ [] ∧ ∀ row ∈ rows, test row.state = true := by
  simp only [Bool.and_eq_true, Bool.not_eq_true', List.any_eq_false, List.all_eq_true]
  constructor
  · intro h
    obtain ⟨⟨hnone, hsome⟩, hall⟩ := h
    have hkeep : rows.filter (fun row => !row.state.isSkipped) = rows :=
      List.filter_eq_self.mpr fun row hrow => by simpa using hnone row hrow
    rw [hkeep] at hsome hall
    refine ⟨?_, hall⟩
    simpa using hsome
  · intro h
    obtain ⟨hne, hall⟩ := h
    have hnone : ∀ row ∈ rows, row.state.isSkipped = false :=
      fun row hrow => htest _ (hall row hrow)
    have hkeep : rows.filter (fun row => !row.state.isSkipped) = rows :=
      List.filter_eq_self.mpr fun row hrow => by simp [hnone row hrow]
    rw [hkeep]
    refine ⟨⟨fun row hrow => ?_, by simpa using hne⟩, hall⟩
    simp [hnone row hrow]

/-- **The exit code**: 0 when there is a row and all are queued, 3 when there is one and all are
    unavailable, else 4. -/
theorem classify_eq (rows : List BatchRowOutcome) :
    (classify rows = 0 ↔ rows ≠ [] ∧ ∀ row ∈ rows, row.state.isQueued = true) ∧
    (classify rows = 3 ↔ rows ≠ [] ∧ ∀ row ∈ rows, row.state.isUnavailable = true) ∧
    (classify rows = 0 ∨ classify rows = 3 ∨ classify rows = 4) := by
  have hq := @attempted_all_iff rows BatchRowState.isQueued
    fun state => BatchRowState.not_isSkipped_of_isQueued
  have hu := @attempted_all_iff rows BatchRowState.isUnavailable
    fun state => BatchRowState.not_isSkipped_of_isUnavailable
  unfold classify
  dsimp only
  split
  · rename_i h
    refine ⟨⟨fun _ => hq.mp h, fun _ => rfl⟩, ⟨fun he => (by cases he), fun hall => ?_⟩, .inl rfl⟩
    -- A row that is queued is not unavailable.
    obtain ⟨hne, hqueued⟩ := hq.mp h
    obtain ⟨row, hrow⟩ := List.exists_mem_of_ne_nil _ hne
    have hboth := hall.2 row hrow
    have hrowq := hqueued row hrow
    cases hstate : row.state with
    | queued providers => rw [hstate] at hboth; cases hboth
    | unavailable providers => rw [hstate] at hrowq; cases hrowq
    | rejected reason => rw [hstate] at hrowq; cases hrowq
    | skipped reason => rw [hstate] at hrowq; cases hrowq
  · rename_i hnq
    split
    · rename_i h
      exact ⟨⟨fun he => (by cases he), fun hall => absurd (hq.mpr hall) hnq⟩,
        ⟨fun _ => hu.mp h, fun _ => rfl⟩, .inr (.inl rfl)⟩
    · rename_i hnu
      exact ⟨⟨fun he => (by cases he), fun hall => absurd (hq.mpr hall) hnq⟩,
        ⟨fun he => (by cases he), fun hall => absurd (hu.mpr hall) hnu⟩, .inr (.inr rfl)⟩

end Counts

/-! ## 2. One turn -/

/-- The request of a row that passes revalidation, or why the row is skipped. -/
def BatchTurn.passes (turn : BatchTurn) : Except String PublishRequest :=
  match turn.item with
  | .ready _ _ request =>
    match request.source with
    | .localFile source => (turn.revalidate source).map fun _ => request
    | .remoteUrl _ => .error "batch source is unexpectedly remote"
  | .skipped _ _ reason => .error reason

/-- What one turn does: its calls, its outcome, and the rows of history it adds. -/
inductive RowSound (turn : BatchTurn) : CallLog → BatchRowOutcome → List HistoryRow → Prop
  | skipped {reason : String} : turn.passes = .error reason →
      RowSound turn [] ⟨turn.item.key.1, turn.item.key.2, .skipped reason⟩ []
  | failed {request : PublishRequest} {error : DomainError} : turn.passes = .ok request →
      RowSound turn [⟨.dispatch .video request, Except.error error⟩]
        (rowOutcome turn.item.key.1 turn.item.key.2 (.error error.text)) []
  | lost {request : PublishRequest} {report : ProviderDispatchReport} {error : DomainError} :
      turn.passes = .ok request →
      RowSound turn [⟨.dispatch .video request, Except.ok report⟩,
          ⟨.recordDispatch request report turn.now, Except.error error⟩]
        (rowOutcome turn.item.key.1 turn.item.key.2 (.error notPersisted)) []
  | recorded {request : PublishRequest} {report : ProviderDispatchReport} {record : HistoryRecord}
      {row : HistoryRow} : turn.passes = .ok request → record.request = request.runnerSafe →
      record.state = (providerDispatchHistoryOutcome report).1 → record.toRow = .ok row →
      RowSound turn [⟨.dispatch .video request, Except.ok report⟩,
          ⟨.recordDispatch request report turn.now, Except.ok record⟩]
        (rowOutcome turn.item.key.1 turn.item.key.2 (.ok report)) [row]

/-- A turn dispatches its row or skips it. -/
theorem dispatchItem_eq (turn : BatchTurn) :
    dispatchItem turn = match turn.passes with
      | .ok request => dispatchRow turn.item.key.1 turn.item.key.2 request turn.now
      | .error reason => pure ⟨turn.item.key.1, turn.item.key.2, .skipped reason⟩ := by
  obtain ⟨item, revalidate, now⟩ := turn
  cases item with
  | skipped row fileName reason => rfl
  | ready row fileName request =>
    obtain ⟨source⟩ := request
    cases source with
    | remoteUrl url => rfl
    | localFile source =>
      simp only [dispatchItem, BatchTurn.passes]
      cases revalidate source <;> rfl

variable {s s' : Store} {es : CallLog}

/-- **One turn**: a row that passes is dispatched once and, with a report, recorded once; any other
    makes no call. -/
theorem dispatchItem_sound {turn : BatchTurn} {outcome : BatchRowOutcome}
    (h : Exec Eq Call.Handles (dispatchItem turn) s es outcome s') :
    ∃ added, RowSound turn es outcome added ∧ s'.history.rows = s.history.rows ++ added := by
  rw [dispatchItem_eq] at h
  cases hpasses : turn.passes with
  | error reason =>
    rw [hpasses] at h
    obtain ⟨rfl, rfl, rfl⟩ := exec_ret h
    exact ⟨[], .skipped hpasses, (List.append_nil _).symm⟩
  | ok request =>
    rw [hpasses] at h
    obtain ⟨reply, es₁, m, m₁, rfl, rfl, hdispatch, hafter⟩ := exec_call h
    obtain ⟨-, rfl⟩ := hdispatch
    cases reply with
    | error error =>
      obtain ⟨rfl, rfl, rfl⟩ := exec_ret hafter
      exact ⟨[], .failed hpasses, (List.append_nil _).symm⟩
    | ok report =>
      obtain ⟨stored, es₂, m₂, m₃, rfl, rfl, hrecord, hdone⟩ := exec_call hafter
      cases stored with
      | error error =>
        have hsame : m₃ = _ := Sql.runs_transaction_error hrecord
        obtain ⟨rfl, rfl, rfl⟩ := exec_ret hdone
        exact ⟨[], .lost hpasses, by rw [hsame, List.append_nil]⟩
      | ok record =>
        obtain ⟨rowid, row, history, rfl, hrow, hinsert, hstore⟩ :=
          recordProviderDispatchHistory_ok hrecord
        obtain ⟨rfl, rfl, rfl⟩ := exec_ret hdone
        refine ⟨[row], .recorded hpasses rfl rfl hrow, ?_⟩
        rw [hstore]
        exact (Table.insert_eq_some hinsert).2

/-- A turn, with what it did. -/
structure RowRun where
  turn : BatchTurn
  log : CallLog
  outcome : BatchRowOutcome
  added : List HistoryRow
  sound : RowSound turn log outcome added

/-- **The loop is its turns, one after the other**, whatever any of them met. -/
theorem dispatchItems_sound {turns : List BatchTurn} {outcomes : List BatchRowOutcome}
    (h : Exec Eq Call.Handles (dispatchItems turns) s es outcomes s') :
    ∃ runs : List RowRun, runs.map (·.turn) = turns ∧ runs.map (·.outcome) = outcomes ∧
      runs.flatMap (·.log) = es ∧
      s'.history.rows = s.history.rows ++ runs.flatMap (·.added) := by
  induction turns generalizing s es outcomes with
  | nil =>
    obtain ⟨rfl, rfl, rfl⟩ := exec_ret h
    exact ⟨[], rfl, rfl, rfl, (List.append_nil _).symm⟩
  | cons turn rest ih =>
    obtain ⟨es₁, es₂, outcome, m, rfl, hturn, hothers⟩ := exec_bind (fun _ => rfl) h
    obtain ⟨es₃, es₄, others, m', rfl, hrest, hdone⟩ := exec_bind (fun _ => rfl) hothers
    obtain ⟨rfl, rfl, rfl⟩ := exec_ret hdone
    obtain ⟨added, hsound, hadded⟩ := dispatchItem_sound hturn
    obtain ⟨runs, hturns, houtcomes, hlogs, hrows⟩ := ih hrest
    refine ⟨⟨turn, es₁, outcome, added, hsound⟩ :: runs, ?_, ?_, ?_, ?_⟩
    · rw [List.map_cons, hturns]
    · rw [List.map_cons, houtcomes]
    · rw [List.flatMap_cons, hlogs, List.append_nil]
    · rw [hrows, hadded, List.flatMap_cons, List.append_assoc]

/-! ## 3. What the turns of a run have in common -/

/-- The row passed revalidation, its dispatch returned a report, and the record was persisted. -/
def RowRun.Persisted (r : RowRun) : Prop :=
  ∃ request report record, r.turn.passes = .ok request ∧
    r.log = [⟨.dispatch .video request, Except.ok report⟩,
      ⟨.recordDispatch request report r.turn.now, Except.ok record⟩]

/-- The outcome carries the number and name of its item. -/
theorem RowRun.key (r : RowRun) : (r.outcome.row, r.outcome.fileName) = r.turn.item.key := by
  obtain ⟨turn, log, outcome, added, hsound⟩ := r
  cases hsound <;> rfl

/-- A row that passes is dispatched, whatever the other rows met. -/
theorem RowRun.dispatched (r : RowRun) {request : PublishRequest}
    (h : r.turn.passes = .ok request) :
    ∃ reply rest, r.log = ⟨.dispatch .video request, reply⟩ :: rest := by
  obtain ⟨turn, log, outcome, added, hsound⟩ := r
  have hown : turn.passes = .ok request := h
  cases hsound with
  | skipped hskipped =>
    rw [hskipped] at hown
    cases hown
  | failed hpasses =>
    rw [hpasses] at hown
    cases hown
    exact ⟨_, _, rfl⟩
  | lost hpasses =>
    rw [hpasses] at hown
    cases hown
    exact ⟨_, _, rfl⟩
  | recorded hpasses =>
    rw [hpasses] at hown
    cases hown
    exact ⟨_, _, rfl⟩

/-- **A row adds one record when it was persisted, and none otherwise.** -/
theorem RowRun.added_length (r : RowRun) :
    (r.Persisted → r.added.length = 1) ∧ (¬ r.Persisted → r.added = []) := by
  obtain ⟨turn, log, outcome, added, hsound⟩ := r
  cases hsound with
  | skipped hskipped =>
    refine ⟨?_, fun _ => rfl⟩
    intro h
    obtain ⟨request, report, record, hpasses, -⟩ := h
    have hown : turn.passes = .ok request := hpasses
    rw [hskipped] at hown
    cases hown
  | failed hpasses =>
    refine ⟨?_, fun _ => rfl⟩
    intro h
    obtain ⟨request, report, record, -, hlog⟩ := h
    have hlength := congrArg List.length hlog
    simp at hlength
  | lost hpasses =>
    refine ⟨?_, fun _ => rfl⟩
    intro h
    obtain ⟨request, report, record, -, hlog⟩ := h
    cases hlog
  | recorded hpasses _ _ _ =>
    exact ⟨fun _ => rfl, fun hnot => absurd ⟨_, _, _, hpasses, rfl⟩ hnot⟩

/-- **Its own turn and the replies to its own calls decide a row's outcome.** -/
theorem RowSound.outcome_unique {turn : BatchTurn} {log : CallLog}
    {outcome outcome' : BatchRowOutcome} {added added' : List HistoryRow}
    (h : RowSound turn log outcome added) (h' : RowSound turn log outcome' added') :
    outcome = outcome' := by
  cases h with
  | skipped hpasses =>
    cases h' with
    | skipped hpasses' =>
      rw [hpasses] at hpasses'
      cases hpasses'
      rfl
  | failed hpasses =>
    cases h' with
    | failed _ => rfl
  | lost hpasses =>
    cases h' with
    | lost _ => rfl
  | recorded hpasses _ _ _ =>
    cases h' with
    | recorded _ _ _ _ => rfl

theorem RowRun.outcome_eq {r r' : RowRun} (hturn : r.turn = r'.turn) (hlog : r.log = r'.log) :
    r.outcome = r'.outcome := by
  have h := r.sound
  rw [hturn, hlog] at h
  exact h.outcome_unique r'.sound

/-- The outcomes have the keys of the items, in their order. -/
theorem outcomes_keys {runs : List RowRun} {turns : List BatchTurn} {items : List BatchItem}
    (hturns : runs.map (·.turn) = turns) (hitems : turns.map (·.item) = items) :
    (runs.map (·.outcome)).map (fun o => (o.row, o.fileName)) = items.map BatchItem.key := by
  rw [← hitems, ← hturns, List.map_map, List.map_map, List.map_map]
  exact List.map_congr_left fun r _ => r.key

/-! ## 4. Conservation -/

/-- **A batch conserves its rows.** A plan has one item for each named row of the worksheet. A run
    of dispatch gives each item one outcome in order, with its number and name; the counts are
    those of the outcomes and sum to their number; the history gains one record for each row that
    was persisted; every row that passes revalidation is dispatched, and its outcome depends on its
    own turn and replies; the exit code reads the outcomes. -/
theorem batch_conservation :
    (∀ names files args plan, prepare names files args = .ok plan →
      ∃ config headers below file, files.cells config = .ok (headers :: below) ∧
        columnIndex headers fileColumns = some file ∧
        plan.items.map BatchItem.key = namedRows file below) ∧
    (∀ (plan : BatchPlan) turns s es emitted s', turns.map BatchTurn.item = plan.items →
      Exec Eq Call.Handles (batchDispatch turns) s es emitted s' →
      ∃ runs : List RowRun, runs.map (·.turn) = turns ∧
        emitted.result.rows = runs.map (·.outcome) ∧ es = runs.flatMap (·.log) ∧
        emitted.result.rows.map (fun o => (o.row, o.fileName)) = plan.items.map BatchItem.key ∧
        emitted.result.queued = emitted.result.rows.countP (·.state.isQueued) ∧
        emitted.result.unavailable = emitted.result.rows.countP (·.state.isUnavailable) ∧
        emitted.result.rejected = emitted.result.rows.countP (·.state.isRejected) ∧
        emitted.result.skipped = emitted.result.rows.countP (·.state.isSkipped) ∧
        emitted.result.queued + emitted.result.unavailable + emitted.result.rejected +
          emitted.result.skipped = emitted.result.rows.length ∧
        s'.history.rows = s.history.rows ++ runs.flatMap (·.added) ∧
        (∀ r ∈ runs, (r.Persisted → r.added.length = 1) ∧ (¬ r.Persisted → r.added = [])) ∧
        (∀ r ∈ runs, ∀ request, r.turn.passes = .ok request →
          ∃ reply rest, r.log = ⟨.dispatch .video request, reply⟩ :: rest) ∧
        (emitted.code = 0 ↔ emitted.result.rows ≠ [] ∧
          ∀ o ∈ emitted.result.rows, o.state.isQueued = true) ∧
        (emitted.code = 3 ↔ emitted.result.rows ≠ [] ∧
          ∀ o ∈ emitted.result.rows, o.state.isUnavailable = true) ∧
        (emitted.code = 0 ∨ emitted.code = 3 ∨ emitted.code = 4)) ∧
    ∀ r r' : RowRun, r.turn = r'.turn → r.log = r'.log → r.outcome = r'.outcome := by
  refine ⟨fun names files args plan => prepare_ok, ?_, fun r r' => RowRun.outcome_eq⟩
  intro plan turns s es emitted s' hplan h
  obtain ⟨es₁, es₂, outcomes, m, rfl, hloop, hdone⟩ := exec_bind (fun _ => rfl) h
  obtain ⟨rfl, rfl, rfl⟩ := exec_ret hdone
  obtain ⟨runs, hturns, rfl, rfl, hhistory⟩ := dispatchItems_sound hloop
  obtain ⟨hzero, hthree, hcodes⟩ := classify_eq (runs.map (·.outcome))
  rw [summary_counts]
  exact ⟨runs, hturns, rfl, by rw [List.append_nil], outcomes_keys hturns hplan, rfl, rfl, rfl,
    rfl, counts_sum _, hhistory, fun r _ => r.added_length, fun r _ request => r.dispatched,
    hzero, hthree, hcodes⟩

/-! ## 5. A batch with a blank, a dispatched and a skipped row -/

/-- A directory with one video, and a worksheet that names it, another one and nothing. -/
def filmNames : FileNames where
  safeFileName _ := true
  fileName _ := some "movie.mp4"
  fileStem _ := some "movie"
  utf8Stem _ := some "movie"
  toLowercase text := text

def filmFiles : BatchFiles where
  canonicalDirectory := .ok
  canonicalConfig := .ok
  cells _ := .ok [["file", "title"], ["", "Blank"], ["movie.mp4", "Film"], ["gone.mp4", "Lost"]]
  directFiles _ := .ok [.utf8 "/media/movie.mp4"]

def filmArgs : PublishArgs where
  platforms := ["dy"]
  file := none
  dir := some (.utf8 "/media")
  config := some (.utf8 "/media/batch.xlsx")
  title := none
  shortTitle := none
  tags := []
  phone := none
  partition := none
  address := none
  publishAt := none
  draft := false
  sphProductId := none
  sphLinkType := none
  sphLinkValue := none
  platformOverrides := []
  creativeStatement := none

def filmRequest : PublishRequest :=
  { sampleRequest with
    source := .localFile (.utf8 "/media/movie.mp4")
    title := "Film"
    bt2 := some "Film"
    taskName := some "movie"
    targets := [.douyin] }

def filmPlan : BatchPlan :=
  ⟨.utf8 "/media", [.ready 3 "movie.mp4" filmRequest,
    .skipped 4 "gone.mp4" "no direct regular file matches this row"]⟩

theorem prepare_film : prepare filmNames filmFiles filmArgs = .ok filmPlan := rfl

/-- A turn in which the file is still there. -/
def filmTurn (item : BatchItem) : BatchTurn := ⟨item, fun _ => .ok (), sampleNow⟩

/-- The video is queued by its provider and recorded. -/
theorem film_dispatched : ∃ es emitted s',
    Exec Eq Call.Handles (batchDispatch (filmPlan.items.map filmTurn)) .initial es emitted s' ∧
      emitted.code = 4 ∧ emitted.result.queued = 1 ∧ emitted.result.skipped = 1 := by
  have hdispatch : Call.Handles (.dispatch .video filmRequest) .initial
      (Except.ok (ProviderDispatchReport.empty.insert .douyin (.queued "1"))) .initial :=
    ⟨⟨queueingRegistry, rfl⟩, rfl⟩
  obtain ⟨record, s', hclean⟩ := insertTerminalHistory_clean .initial "dispatch-history"
    (providerDispatchHistoryOutcome
      (ProviderDispatchReport.empty.insert .douyin (.queued "1"))).1 sampleNow
    (some (providerDispatchHistoryOutcome
      (ProviderDispatchReport.empty.insert .douyin (.queued "1"))).2)
    (show filmRequest.runnerSafe.toJson = .ok _ from rfl)
  have hrecord : Call.Handles (.recordDispatch filmRequest
      (ProviderDispatchReport.empty.insert .douyin (.queued "1")) sampleNow) .initial
      (Except.ok record) s' := (Sql.Clean.transaction hclean).runs
  exact ⟨_, _, s', .call rfl hdispatch (.call rfl hrecord (.ret rfl)), rfl, rfl, rfl⟩

theorem batch_conservation_sample : ∃ plan es emitted s',
    prepare filmNames filmFiles filmArgs = .ok plan ∧
      Exec Eq Call.Handles (batchDispatch (plan.items.map filmTurn)) .initial es emitted s' ∧
      plan.items.map BatchItem.key = [(3, "movie.mp4"), (4, "gone.mp4")] ∧
      emitted.result.rows.map (fun o => (o.row, o.fileName)) = plan.items.map BatchItem.key ∧
      emitted.result.queued = 1 ∧ emitted.result.skipped = 1 ∧ emitted.code = 4 ∧
      ∃ runs : List RowRun, s'.history.rows = runs.flatMap (·.added) ∧ runs.length = 2 := by
  obtain ⟨hplan, hrun, -⟩ := batch_conservation
  obtain ⟨es, emitted, s', hexec, hcode, hqueued, hskipped⟩ := film_dispatched
  obtain ⟨runs, hturns, -, -, hkeys, -, -, -, -, -, hhistory, -⟩ :=
    hrun filmPlan _ _ _ _ _ rfl hexec
  obtain ⟨config, headers, below, file, hcells, hfile, hitems⟩ := hplan _ _ _ _ prepare_film
  refine ⟨filmPlan, es, emitted, s', prepare_film, hexec, ?_, hkeys, hqueued, hskipped, hcode,
    runs, hhistory, ?_⟩
  · cases hcells
    rw [hitems]
    cases hfile
    decide
  · rw [← List.length_map (·.turn), hturns]
    rfl

end MatriXpost
