/-
  File:      MatriXpost/Store/Jobs.lean
  Subject:   THE VIDEO QUEUE: enqueue, transition, completion with history, claim, requeue, and
             the history of immediate dispatches.

  * `insertTerminalHistory` is the retry loop over generated ids, on fuel. `historyTurn_ok` says
    what one turn does; a turn that goes round again leaves fewer held ids ahead of the sequence,
    so the loop without fuel ends, with the same outcome (`insertTerminalHistory_iff`);
  * `transitionJob_ok`, `completeJobWithHistory_ok` and the rules of `Store/Queue.lean` say what
    a success required and wrote. A completion that fails writes nothing
    (`completeJobWithHistory_error`), and without faults every edge of the transition graph
    completes (`completeJobWithHistory_clean`).
-/
import MatriXpost.Store.Queue
import MatriXpost.Lib.Loop
import MatriXpost.Dispatch.Classify

namespace MatriXpost

/-! ## 1. Enqueue -/

/-- A violated PRIMARY KEY. -/
def uniqueViolation (column : String) : DomainError :=
  .database ("UNIQUE constraint failed: " ++ column)

/-- `INSERT INTO job_sequence DEFAULT VALUES`, and the row id it made. -/
def nextJob (s : Store) : Nat × Store :=
  (s.jobSequence + 1, { s with jobSequence := s.jobSequence + 1 })

/-- `allocate_job_id`: one auto-committed statement. -/
def allocateJobId : Sql DomainError Store String := do
  let rowid ← Sql.execute nextJob
  pure ("job-" ++ toString rowid)

/-- `INSERT INTO` a queue's table, auto-committed. -/
def QueueTable.insertJob {R δ : Type} (q : QueueTable R δ) (column : String) (job : Job R δ) :
    Sql DomainError Store Unit := do
  let row ← Sql.lift (q.jobToRow job)
  Sql.statement fun s =>
    match (q.jobs s).insert row with
    | some jobs => .ok ((), q.setJobs s jobs)
    | none => .error (uniqueViolation column)

/-- `insert_job`. -/
def insertJob (job : ScheduledJob) : Sql DomainError Store Unit :=
  videoQueue.insertJob "jobs.id" job

/-- The job `enqueue` builds under an allocated id. -/
def enqueuedJob (request : PublishRequest) (id : String) (now : DateTime) : ScheduledJob where
  id := id
  request := request.runnerSafe
  state := if request.draft then .draft else .queued
  dueAt := request.scheduledAt
  revision := 0
  updatedAt := now

/-- `enqueue`: validation, then two statements, each committed on its own. -/
def enqueue (request : PublishRequest) (now : DateTime) : Sql DomainError Store ScheduledJob := do
  Sql.lift request.validate
  let id ← allocateJobId
  let job := enqueuedJob request id now
  insertJob job
  pure job

/-! ## 2. Terminal history -/

/-- The columns of a record. -/
def HistoryRecord.toRow (record : HistoryRecord) : Except DomainError HistoryRow := do
  let requestJson ← record.request.toJson
  .ok ⟨record.id, requestJson, record.state.db, DateTime.toRfc3339 record.recordedAt,
    record.detail⟩

/-- The columns of a record that can be written. -/
theorem HistoryRecord.toRow_ok {record : HistoryRecord} {row : HistoryRow}
    (h : record.toRow = .ok row) :
    record.request.toJson = .ok row.requestJson ∧ row.id = record.id ∧
      row.state = record.state.db ∧ row.recordedAt = DateTime.toRfc3339 record.recordedAt ∧
      row.detail = record.detail := by
  obtain ⟨requestJson, hjson, h⟩ := except_bind_ok.mp h
  cases h
  exact ⟨hjson, rfl, rfl, rfl, rfl⟩

/-- A record that cannot be written is one whose request cannot. -/
theorem HistoryRecord.toRow_error {record : HistoryRecord} {e : DomainError}
    (h : record.toRow = .error e) : record.request.toJson = .error e := by
  unfold HistoryRecord.toRow at h
  cases hj : record.request.toJson with
  | error e' =>
    rw [hj] at h
    cases h
    rfl
  | ok requestJson =>
    rw [hj] at h
    cases h

/-- `append_history`: imported records bring their own ids. -/
def appendHistory (record : HistoryRecord) : Sql DomainError Store Unit := do
  let row ← Sql.lift record.toRow
  Sql.statement fun s =>
    match s.history.insert row with
    | some history => .ok ((), { s with history := history })
    | none => .error (uniqueViolation "history.id")

/-- `format!("{id_prefix}-{}", rowid)`. -/
def historyId (idPrefix : String) (rowid : Nat) : String := idPrefix ++ "-" ++ toString rowid

/-- The record one turn of the loop tries to insert. -/
def historyRecord (idPrefix : String) (rowid : Nat) (request : PublishRequest)
    (state : PublishState) (recordedAt : DateTime) (detail : Option String) : HistoryRecord :=
  ⟨historyId idPrefix rowid, request, state, recordedAt, detail⟩

/-- `INSERT INTO history_sequence DEFAULT VALUES`, and the row id it made. -/
def nextHistory (s : Store) : Nat × Store :=
  (s.historySequence + 1, { s with historySequence := s.historySequence + 1 })

/-- `INSERT OR IGNORE INTO history`: the number of rows inserted. -/
def insertOrIgnore (s : Store) (row : HistoryRow) : Nat × Store :=
  match s.history.insert row with
  | some history => (1, { s with history := history })
  | none => (0, s)

/-- The loop of `insert_terminal_history`: the next id of the sequence, and again if an imported
    record holds it. -/
def insertTerminalHistoryLoop (idPrefix : String) (request : PublishRequest)
    (state : PublishState) (recordedAt : DateTime) (detail : Option String) :
    Nat → Sql DomainError Store HistoryRecord
  | 0 => Sql.fail (.database "out of fuel")
  | fuel + 1 => do
    let rowid ← Sql.execute nextHistory
    let record := historyRecord idPrefix rowid request state recordedAt detail
    let row ← Sql.lift record.toRow
    let inserted ← Sql.execute fun s => insertOrIgnore s row
    if inserted = 1 then pure record
    else insertTerminalHistoryLoop idPrefix request state recordedAt detail fuel

/-- `insert_terminal_history`, with fuel for one collision per row of the table. -/
def insertTerminalHistory (idPrefix : String) (request : PublishRequest) (state : PublishState)
    (recordedAt : DateTime) (detail : Option String) : Sql DomainError Store HistoryRecord :=
  fun db => insertTerminalHistoryLoop idPrefix request state recordedAt detail
    (db.store.history.rows.length + 1) db

/-! ## 3. The retry loop -/

section RetryLoop

/-- One turn of the loop: `none` if an imported record holds the id. -/
def historyTurn (idPrefix : String) (request : PublishRequest) (state : PublishState)
    (recordedAt : DateTime) (detail : Option String) :
    Sql DomainError Store (Option HistoryRecord) := do
  let rowid ← Sql.execute nextHistory
  let record := historyRecord idPrefix rowid request state recordedAt detail
  let row ← Sql.lift record.toRow
  let inserted ← Sql.execute fun s => insertOrIgnore s row
  pure (if inserted = 1 then some record else none)

variable {idPrefix : String} {request : PublishRequest} {state : PublishState}
  {recordedAt : DateTime} {detail : Option String}

theorem insertTerminalHistoryLoop_eq (fuel : Nat) :
    insertTerminalHistoryLoop idPrefix request state recordedAt detail fuel =
      Sql.loopFuel (.database "out of fuel")
        (historyTurn idPrefix request state recordedAt detail) fuel := by
  induction fuel with
  | zero => rfl
  | succ fuel ih =>
    simp only [insertTerminalHistoryLoop, Sql.loopFuel, historyTurn, bind_assoc, pure_bind]
    refine bind_congr fun rowid => bind_congr fun row => bind_congr fun inserted => ?_
    by_cases hone : inserted = 1
    · rw [if_pos hone, if_pos hone]
    · rw [if_neg hone, if_neg hone]
      exact ih

/-- **What a turn that meets no error does**: it inserts its record, or the id is held and only
    the sequence moves. -/
theorem historyTurn_ok {answer : Option HistoryRecord} {s s' : Store}
    (h : Sql.Runs (historyTurn idPrefix request state recordedAt detail) s (.ok answer) s') :
    ∃ record row, record =
        historyRecord idPrefix (s.historySequence + 1) request state recordedAt detail ∧
      record.toRow = .ok row ∧
      ((∃ history, s.history.insert row = some history ∧ answer = some record ∧
          s' = { s with history := history, historySequence := s.historySequence + 1 }) ∨
        s.history.insert row = none ∧ answer = none ∧
          s' = { s with historySequence := s.historySequence + 1 }) := by
  obtain ⟨rowid, s₁, hexec, h₁⟩ := Sql.runs_bind_ok h
  rw [Sql.runs_execute_ok] at hexec
  obtain ⟨rfl, rfl⟩ := Prod.mk.inj hexec
  obtain ⟨row, s₂, hlift, h₂⟩ := Sql.runs_bind_ok h₁
  obtain ⟨hrow, rfl⟩ := Sql.runs_lift.mp hlift
  obtain ⟨inserted, s₃, hins, h₃⟩ := Sql.runs_bind_ok h₂
  rw [Sql.runs_execute_ok] at hins
  obtain ⟨hanswer, rfl⟩ := Sql.runs_pure.mp h₃
  cases hanswer
  refine ⟨_, row, rfl, hrow.symm, ?_⟩
  unfold insertOrIgnore at hins
  split at hins
  · rename_i history hhistory
    obtain ⟨rfl, rfl⟩ := Prod.mk.inj hins
    exact .inl ⟨history, hhistory, if_pos rfl, rfl⟩
  · rename_i hheld
    obtain ⟨rfl, rfl⟩ := Prod.mk.inj hins
    exact .inr ⟨hheld, if_neg (by simp), rfl⟩

/-- A turn that fails moves at most the sequence. -/
theorem historyTurn_error {e : DomainError} {s s' : Store}
    (h : Sql.Runs (historyTurn idPrefix request state recordedAt detail) s (.error e) s') :
    ∃ n, s' = { s with historySequence := n } := by
  rcases Sql.runs_bind_error h with h | ⟨rowid, s₁, hexec, h₁⟩
  · exact ⟨s.historySequence, Sql.runs_statement_error h⟩
  rw [Sql.runs_execute_ok] at hexec
  obtain ⟨-, rfl⟩ := Prod.mk.inj hexec
  refine ⟨s.historySequence + 1, ?_⟩
  rcases Sql.runs_bind_error h₁ with h | ⟨row, s₂, hlift, h₂⟩
  · exact (Sql.runs_lift.mp h).2
  obtain ⟨-, rfl⟩ := Sql.runs_lift.mp hlift
  rcases Sql.runs_bind_error h₂ with h | ⟨inserted, s₃, hins, h₃⟩
  · exact Sql.runs_statement_error h
  · exact absurd (Sql.runs_pure.mp h₃).1 (by simp)

/-- A turn fails with the driver's errors, and with that of a request that cannot be written. -/
theorem historyTurn_throws :
    Sql.Throws (fun e => request.toJson = .error e)
      (historyTurn idPrefix request state recordedAt detail) := by
  refine (Sql.throws_execute _).bind fun rowid => Sql.Throws.bind (Sql.throws_lift ?_) fun row =>
    (Sql.throws_execute _).bind fun inserted => Sql.throws_pure _
  exact fun e he => HistoryRecord.toRow_error he

theorem toString_injective : Function.Injective fun n : Nat => toString n := by
  intro m n h
  have hdigits : Nat.toDigits 10 m = Nat.toDigits 10 n := by
    have hlists := congrArg String.toList h
    simpa only [Nat.toString_eq_ofList_toDigits, String.toList_ofList] using hlists
  have hvalue := congrArg (Nat.ofDigitChars 10 · 0) hdigits
  simpa only [Nat.ofDigitChars_ten_toDigits] using hvalue

theorem historyId_injective (idPrefix : String) : Function.Injective (historyId idPrefix) :=
  fun _ _ h => toString_injective ((String.append_right_inj _).mp h)

/-- A stronger condition that loses a row counts fewer. -/
theorem countP_lt_countP {ρ : Type} {p p' : ρ → Bool} {rows : List ρ} {row : ρ}
    (h : ∀ r, p r = true → p' r = true) (hrow : row ∈ rows) (hp' : p' row = true)
    (hp : p row = false) : rows.countP p < rows.countP p' := by
  obtain ⟨before, after, rfl⟩ := List.append_of_mem hrow
  have h₁ := List.countP_mono_left (l := before) fun r _ => h r
  have h₂ := List.countP_mono_left (l := after) fun r _ => h r
  rw [List.countP_append, List.countP_append, List.countP_cons_of_neg (by simp [hp]),
    List.countP_cons_of_pos hp']
  omega

open Classical in
/-- The history rows whose ids the sequence has still to come to. -/
noncomputable def idsAhead (idPrefix : String) (s : Store) : Nat :=
  s.history.rows.countP fun row =>
    decide (∃ n, s.historySequence < n ∧ row.id = historyId idPrefix n)

/-- Passing an id that is held leaves fewer of them ahead. -/
theorem idsAhead_lt (idPrefix : String) {s : Store} {row : HistoryRow}
    (hrow : row ∈ s.history.rows) (hid : row.id = historyId idPrefix (s.historySequence + 1)) :
    idsAhead idPrefix { s with historySequence := s.historySequence + 1 }
      < idsAhead idPrefix s := by
  classical
  unfold idsAhead
  refine countP_lt_countP (fun r h => ?_) hrow ?_ ?_
  · obtain ⟨n, hn, he⟩ := of_decide_eq_true h
    exact decide_eq_true ⟨n, Nat.lt_of_succ_lt hn, he⟩
  · exact decide_eq_true ⟨s.historySequence + 1, Nat.lt_succ_self _, hid⟩
  · rw [decide_eq_false_iff_not]
    intro h
    obtain ⟨n, hn, he⟩ := h
    rw [hid] at he
    exact absurd (historyId_injective idPrefix he) (Nat.ne_of_lt hn)

/-- A turn that goes round again moved the sequence past an id that is held. -/
theorem historyTurn_again {db db' : Db Store}
    (h : historyTurn idPrefix request state recordedAt detail db = (.ok none, db')) :
    db'.store = { db.store with historySequence := db.store.historySequence + 1 } ∧
      idsAhead idPrefix db'.store < idsAhead idPrefix db.store := by
  obtain ⟨record, row, rfl, hrow, ⟨history, -, hsome, -⟩ | ⟨hheld, -, hs⟩⟩ :=
    historyTurn_ok ⟨db.faults, db'.faults, h⟩
  · cases hsome
  · refine ⟨hs, ?_⟩
    obtain ⟨held, hfound⟩ := Table.insert_eq_none.mp hheld
    rw [hs]
    exact idsAhead_lt idPrefix (Table.find?_mem hfound)
      ((Table.find?_key hfound).trans (HistoryRecord.toRow_ok hrow).2.1)

/-- **The loop ends, and fuel for one collision per history row is enough for it.** -/
theorem insertTerminalHistory_iff {db : Db Store}
    {out : Except DomainError HistoryRecord × Db Store} :
    Sql.Loop (historyTurn idPrefix request state recordedAt detail) db out ↔
      insertTerminalHistory idPrefix request state recordedAt detail db = out := by
  have hahead : idsAhead idPrefix db.store ≤ db.store.history.rows.length := List.countP_le_length
  unfold insertTerminalHistory
  rw [insertTerminalHistoryLoop_eq]
  exact Sql.loop_iff (fun _ _ h => (historyTurn_again h).2) (Nat.lt_succ_of_le hahead)

/-- More fuel changes nothing. -/
theorem insertTerminalHistory_fuel {fuel : Nat} {db : Db Store}
    (h : db.store.history.rows.length < fuel) :
    insertTerminalHistoryLoop idPrefix request state recordedAt detail fuel db =
      insertTerminalHistory idPrefix request state recordedAt detail db := by
  have hahead : idsAhead idPrefix db.store ≤ db.store.history.rows.length := List.countP_le_length
  rw [insertTerminalHistoryLoop_eq]
  exact (Sql.loop_iff (fun _ _ h => (historyTurn_again h).2) (by omega)).mp
    (insertTerminalHistory_iff.mpr rfl)

/-- The turns before the last moved the sequence and nothing else. -/
theorem insertTerminalHistory_last {s s' : Store} {reply : Except DomainError HistoryRecord}
    (h : Sql.Runs (insertTerminalHistory idPrefix request state recordedAt detail) s reply s') :
    ∃ n, s.historySequence ≤ n ∧
      Sql.Runs (historyTurn idPrefix request state recordedAt detail)
        { s with historySequence := n } (reply.map some) s' := by
  obtain ⟨faults, faults', h⟩ := h
  obtain ⟨last, ⟨n, hle, hlast⟩, hturn⟩ := (insertTerminalHistory_iff.mpr h).rule
    (I := fun db => ∃ n, s.historySequence ≤ n ∧ db.store = { s with historySequence := n })
    ⟨s.historySequence, Nat.le_refl _, rfl⟩ (by
      intro db db' hI hagain
      obtain ⟨n, hle, hdb⟩ := hI
      have hnext := (historyTurn_again hagain).1
      rw [hdb] at hnext
      exact ⟨n + 1, Nat.le_succ_of_le hle, hnext⟩)
  refine ⟨n, hle, last.faults, faults', ?_⟩
  rw [← hlast]
  exact hturn

/-- **A terminal record goes under an id nobody held, and only the history and its sequence
    change.** -/
theorem insertTerminalHistory_ok {record : HistoryRecord} {s s' : Store}
    (h : Sql.Runs (insertTerminalHistory idPrefix request state recordedAt detail) s
      (.ok record) s') :
    ∃ rowid row history, s.historySequence < rowid ∧
      record = historyRecord idPrefix rowid request state recordedAt detail ∧
      record.toRow = .ok row ∧ s.history.insert row = some history ∧
      s' = { s with history := history, historySequence := rowid } := by
  obtain ⟨n, hle, hturn⟩ := insertTerminalHistory_last h
  obtain ⟨record', row, hrecord, hrow, hcase⟩ := historyTurn_ok hturn
  rcases hcase with ⟨history, hins, hanswer, hs⟩ | ⟨-, hanswer, -⟩
  · cases hanswer
    exact ⟨n + 1, row, history, Nat.lt_succ_of_le hle, hrecord, hrow, hins, hs⟩
  · cases hanswer

/-- A call that fails inserts nothing. -/
theorem insertTerminalHistory_error {e : DomainError} {s s' : Store}
    (h : Sql.Runs (insertTerminalHistory idPrefix request state recordedAt detail) s
      (.error e) s') :
    ∃ n, s' = { s with historySequence := n } := by
  obtain ⟨n, -, hturn⟩ := insertTerminalHistory_last h
  obtain ⟨m, hs⟩ := historyTurn_error hturn
  exact ⟨m, hs⟩

/-- It fails with the driver's errors, and with that of a request that cannot be written. -/
theorem insertTerminalHistory_throws :
    Sql.Throws (fun e => request.toJson = .error e)
      (insertTerminalHistory idPrefix request state recordedAt detail) :=
  fun _ => historyTurn_throws.loop (insertTerminalHistory_iff.mpr rfl)

/-- Without faults a request that can be written is recorded. -/
theorem insertTerminalHistory_clean (s : Store) (idPrefix : String) {request : PublishRequest}
    (state : PublishState) (recordedAt : DateTime) (detail : Option String) {j : Json}
    (hj : request.toJson = .ok j) :
    ∃ record s', Sql.Clean (insertTerminalHistory idPrefix request state recordedAt detail) s
      (.ok record) s' := by
  unfold Sql.Clean
  have hthrows : Sql.Throws (fun e => request.toJson = .error e)
      (insertTerminalHistory idPrefix request state recordedAt detail) :=
    insertTerminalHistory_throws
  specialize hthrows ⟨s, []⟩
  cases hout : insertTerminalHistory idPrefix request state recordedAt detail ⟨s, []⟩ with
  | mk reply db' =>
    rw [hout] at hthrows
    obtain ⟨hfaults, herror⟩ := hthrows
    cases reply with
    | ok record =>
      obtain ⟨s', faults'⟩ := db'
      have hnone : faults' = [] := List.eq_nil_iff_forall_not_mem.mpr fun fault hmem =>
        List.not_mem_nil (hfaults fault hmem)
      rw [hnone]
      exact ⟨record, s', rfl⟩
    | error e =>
      rcases herror e rfl with he | ⟨message, hmem, -⟩
      · rw [hj] at he
        cases he
      · cases hmem

end RetryLoop

/-! ## 4. The operations on a job -/

/-- `transition_job`. -/
def transitionJob (id : String) (expectedRevision : Nat) (next : PublishState)
    (updatedAt : DateTime) : Sql DomainError Store ScheduledJob :=
  Sql.transaction do
    let current ← videoQueue.changeState none id expectedRevision next updatedAt
    pure { current with state := next, revision := expectedRevision + 1, updatedAt := updatedAt }

/-- `complete_job_with_history`: the same guards as a transition, and a history record in the
    same transaction. -/
def completeJobWithHistory (id : String) (expectedRevision : Nat) (next : PublishState)
    (updatedAt : DateTime) (detail : Option String) :
    Sql DomainError Store (ScheduledJob × HistoryRecord) :=
  Sql.transaction do
    let current ← videoQueue.changeState none id expectedRevision next updatedAt
    let history ← insertTerminalHistory "scheduled-history" current.request.runnerSafe next
      updatedAt detail
    pure ({ current with
      state := next, revision := expectedRevision + 1, updatedAt := updatedAt }, history)

/-- `claim_due`. -/
def claimDue (dueThrough : LocalSchedule) (now : DateTime) (limit : Nat) :
    Sql DomainError Store (List ScheduledJob) := videoQueue.claim dueThrough now limit

/-- `requeue_claim`. -/
def requeueClaim (id : String) (expectedRevision : Nat) (now : DateTime) :
    Sql DomainError Store ScheduledJob := videoQueue.requeue id expectedRevision now

/-- `record_provider_dispatch_history`: the outcome of an immediate dispatch. -/
def recordProviderDispatchHistory (request : PublishRequest) (report : ProviderDispatchReport)
    (recordedAt : DateTime) : Sql DomainError Store HistoryRecord :=
  let (state, detail) := providerDispatchHistoryOutcome report
  Sql.transaction do
    insertTerminalHistory "dispatch-history" request.runnerSafe state recordedAt (some detail)

/-! ## 5. What they require and write -/

section Specs
variable {s s' : Store}

theorem allocateJobId_ok {id : String} (h : Sql.Runs allocateJobId s (.ok id) s') :
    id = "job-" ++ toString (s.jobSequence + 1) ∧
      s' = { s with jobSequence := s.jobSequence + 1 } := by
  obtain ⟨rowid, s₁, hexec, h₁⟩ := Sql.runs_bind_ok h
  rw [Sql.runs_execute_ok] at hexec
  obtain ⟨rfl, rfl⟩ := Prod.mk.inj hexec
  obtain ⟨he, rfl⟩ := Sql.runs_pure.mp h₁
  cases he
  exact ⟨rfl, rfl⟩

/-- A job is inserted under a new id, with the columns it has. -/
theorem insertJob_ok {R δ : Type} {q : QueueTable R δ} {column : String} {job : Job R δ} {u : Unit}
    (h : Sql.Runs (q.insertJob column job) s (.ok u) s') :
    ∃ row jobs, q.jobToRow job = .ok row ∧ (q.jobs s).insert row = some jobs ∧
      s' = q.setJobs s jobs := by
  obtain ⟨row, s₁, hlift, h₁⟩ := Sql.runs_bind_ok h
  obtain ⟨hrow, rfl⟩ := Sql.runs_lift.mp hlift
  rw [Sql.runs_statement_ok] at h₁
  cases hins : (q.jobs s₁).insert row with
  | none =>
    rw [hins] at h₁
    cases h₁
  | some jobs =>
    rw [hins] at h₁
    cases h₁
    exact ⟨row, jobs, hrow.symm, hins, rfl⟩

theorem insertJob_clean {R δ : Type} {q : QueueTable R δ} {column : String} {job : Job R δ}
    {row : JobRow} {jobs : Table JobRow.id} (hrow : q.jobToRow job = .ok row)
    (hins : (q.jobs s).insert row = some jobs) :
    Sql.Clean (q.insertJob column job) s (.ok ()) (q.setJobs s jobs) := by
  unfold QueueTable.insertJob
  rw [hrow]
  refine (Sql.clean_lift _ s).bind (Sql.clean_statement ?_)
  rw [hins]

/-- A failed insert leaves the store as it was. -/
theorem insertJob_error {R δ : Type} {q : QueueTable R δ} {column : String} {job : Job R δ}
    {e : DomainError} (h : Sql.Runs (q.insertJob column job) s (.error e) s') : s' = s := by
  rcases Sql.runs_bind_error h with h | ⟨row, s₁, hlift, h₁⟩
  · exact (Sql.runs_lift.mp h).2
  · obtain ⟨-, rfl⟩ := Sql.runs_lift.mp hlift
    exact Sql.runs_statement_error h₁

/-- An import inserts one row or nothing, and leaves everything else alone. -/
theorem appendHistory_cases {record : HistoryRecord} {reply : Except DomainError Unit}
    (h : Sql.Runs (appendHistory record) s reply s') :
    (∃ e, reply = .error e ∧ s' = s) ∨
      ∃ row history, reply = .ok () ∧ record.toRow = .ok row ∧
        s.history.insert row = some history ∧ s' = { s with history := history } := by
  cases reply with
  | error e =>
    rcases Sql.runs_bind_error h with h | ⟨row, s₁, hlift, h₁⟩
    · exact .inl ⟨e, rfl, (Sql.runs_lift.mp h).2⟩
    · obtain ⟨-, rfl⟩ := Sql.runs_lift.mp hlift
      exact .inl ⟨e, rfl, Sql.runs_statement_error h₁⟩
  | ok u =>
    obtain ⟨row, s₁, hlift, h₁⟩ := Sql.runs_bind_ok h
    obtain ⟨hrow, rfl⟩ := Sql.runs_lift.mp hlift
    rw [Sql.runs_statement_ok] at h₁
    cases hins : s₁.history.insert row with
    | none =>
      rw [hins] at h₁
      cases h₁
    | some history =>
      rw [hins] at h₁
      cases h₁
      exact .inr ⟨row, history, rfl, hrow.symm, hins, rfl⟩

/-- A successful transition. -/
theorem transitionJob_ok {id : String} {expected : Nat} {next : PublishState} {now : DateTime}
    {job : ScheduledJob} (h : Sql.Runs (transitionJob id expected next now) s (.ok job) s') :
    ∃ row current, s.jobs.find? id = some row ∧ videoQueue.rowToJob row = .ok current ∧
      current.state.canTransitionTo next = true ∧ current.revision = expected ∧
      s' = videoQueue.raise s [id] next now ∧
      job = { current with state := next, revision := expected + 1, updatedAt := now } := by
  obtain ⟨current, s₁, hchange, h₁⟩ := Sql.runs_bind_ok (Sql.runs_transaction_ok h)
  obtain ⟨⟨row, hrow, hread⟩, hedge, hrev, -, rfl⟩ := QueueTable.changeState_ok hchange
  obtain ⟨he, rfl⟩ := Sql.runs_pure.mp h₁
  cases he
  exact ⟨row, current, hrow, hread, hedge, hrev, rfl, rfl⟩

/-- **A successful completion follows an edge of the transition graph from the revision
    presented, and inserts one record that carries the new state.** -/
theorem completeJobWithHistory_ok {id : String} {expected : Nat} {next : PublishState}
    {now : DateTime} {detail : Option String} {job : ScheduledJob} {record : HistoryRecord}
    (h : Sql.Runs (completeJobWithHistory id expected next now detail) s (.ok (job, record)) s') :
    ∃ row current rowid hrow history, s.jobs.find? id = some row ∧
      videoQueue.rowToJob row = .ok current ∧ current.state.canTransitionTo next = true ∧
      current.revision = expected ∧
      job = { current with state := next, revision := expected + 1, updatedAt := now } ∧
      record = historyRecord "scheduled-history" rowid current.request.runnerSafe next now detail ∧
      s.historySequence < rowid ∧ record.toRow = .ok hrow ∧
      s.history.insert hrow = some history ∧
      s' = { videoQueue.raise s [id] next now with
        history := history, historySequence := rowid } := by
  obtain ⟨current, s₁, hchange, h₁⟩ := Sql.runs_bind_ok (Sql.runs_transaction_ok h)
  obtain ⟨⟨row, hrow, hread⟩, hedge, hrev, -, rfl⟩ := QueueTable.changeState_ok hchange
  obtain ⟨record', s₂, hhist, h₂⟩ := Sql.runs_bind_ok h₁
  obtain ⟨rowid, hrow', history, hlt, hrec, hto, hins, rfl⟩ := insertTerminalHistory_ok hhist
  obtain ⟨he, rfl⟩ := Sql.runs_pure.mp h₂
  cases he
  exact ⟨row, current, rowid, hrow', history, hrow, hread, hedge, hrev, rfl, hrec, hlt, hto, hins,
    rfl⟩

theorem transitionJob_error {id : String} {expected : Nat} {next : PublishState} {now : DateTime}
    {e : DomainError} (h : Sql.Runs (transitionJob id expected next now) s (.error e) s') :
    s' = s := Sql.runs_transaction_error h

/-- **A completion that fails leaves job and history as they were.** -/
theorem completeJobWithHistory_error {id : String} {expected : Nat} {next : PublishState}
    {now : DateTime} {detail : Option String} {e : DomainError}
    (h : Sql.Runs (completeJobWithHistory id expected next now detail) s (.error e) s') :
    s' = s := Sql.runs_transaction_error h

theorem requeueClaim_error {id : String} {expected : Nat} {now : DateTime} {e : DomainError}
    (h : Sql.Runs (requeueClaim id expected now) s (.error e) s') : s' = s :=
  Sql.runs_transaction_error h

theorem recordProviderDispatchHistory_ok {request : PublishRequest}
    {report : ProviderDispatchReport} {now : DateTime} {record : HistoryRecord}
    (h : Sql.Runs (recordProviderDispatchHistory request report now) s (.ok record) s') :
    ∃ rowid row history, record = historyRecord "dispatch-history" rowid request.runnerSafe
        (providerDispatchHistoryOutcome report).1 now
        (some (providerDispatchHistoryOutcome report).2) ∧
      record.toRow = .ok row ∧ s.history.insert row = some history ∧
      s' = { s with history := history, historySequence := rowid } := by
  obtain ⟨rowid, row, history, -, hrec, hto, hins, hs'⟩ :=
    insertTerminalHistory_ok (Sql.runs_transaction_ok h)
  exact ⟨rowid, row, history, hrec, hto, hins, hs'⟩

/-! ## 6. Without faults -/

/-- **Without faults every edge of the transition graph completes, at the revision presented.** -/
theorem completeJobWithHistory_clean {id : String} {next : PublishState} (now : DateTime)
    (detail : Option String) {row : JobRow} {current : ScheduledJob}
    (hrow : s.jobs.find? id = some row) (hread : videoQueue.rowToJob row = .ok current)
    (hedge : current.state.canTransitionTo next = true) :
    ∃ record s', Sql.Clean (completeJobWithHistory id current.revision next now detail) s
      (.ok ({ current with state := next, revision := current.revision + 1, updatedAt := now },
        record)) s' := by
  obtain ⟨j, hj⟩ := PublishRequest.toJson_of_fromJson (QueueTable.rowToJob_ok hread).2.2.2.1
  obtain ⟨record, s', hhistory⟩ := insertTerminalHistory_clean (videoQueue.raise s [id] next now)
    "scheduled-history" next now detail hj
  refine ⟨record, s', Sql.Clean.transaction ?_⟩
  refine (QueueTable.changeState_clean (q := videoQueue) none hrow hread hedge rfl).bind ?_
  exact hhistory.bind (Sql.clean_pure _ _)

end Specs

end MatriXpost
