/-
  File:      MatriXpost/Process/Calls.lean
  Subject:   WHAT THE PROCESSES OF THE SYSTEM CALL: the shared repository, the provider registry,
             the article runner, the runner's executor.

  The scheduler treats videos and articles alike but for types, operations and texts; a `Lane`
  stands for one of the two. `Call` lists the calls, each one transaction or one request to a
  service, and `Call.Handles` says what each may answer and do to the database.

  * `callChange_of` says once what a call does to the video jobs;
  * `Lane.complete_ok`: a completion of either lane raises its job along an edge and adds its one
    row of history; the other lane is not touched.
-/
import MatriXpost.Lib.Prog
import MatriXpost.Queue.Run
import MatriXpost.Store.Articles

namespace MatriXpost

/-! ## 1. The two lanes -/

/-- The `match` on `runner.dispatch` in `run_scheduler_tick_at`. -/
def articleSchedulerOutcome (result : Except DomainError ArticleDispatchOutcome) :
    PublishState × String :=
  match result with
  | .ok (.queued _) => (.published, scheduledLocalRunnerComplete)
  | .ok (.unavailable _) => (.unavailable, scheduledLocalRunnerUnavailable)
  | .ok (.rejected _ _) => (.failed, scheduledLocalRunnerIncomplete)
  | .error _ => (.failed, scheduledLocalRunnerIncomplete)

/-- Video or article. -/
inductive Lane where
  | video | article
deriving DecidableEq, Repr

namespace Lane

def Request : Lane → Type
  | video => PublishRequest
  | article => PublishArticleRequest

def Due : Lane → Type
  | video => Option LocalSchedule
  | article => LocalSchedule

/-- A job of the lane. -/
abbrev Job (l : Lane) : Type := MatriXpost.Job l.Request l.Due

def History : Lane → Type
  | video => HistoryRecord
  | article => ArticleHistoryRecord

def Row : Lane → Type
  | video => HistoryRow
  | article => ArticleHistoryRow

def Outcome : Lane → Type
  | video => ProviderDispatchReport
  | article => ArticleDispatchOutcome

def queue : (l : Lane) → QueueTable l.Request l.Due
  | video => videoQueue
  | article => articleQueue

/-- `complete_job_with_history` and `complete_article_with_history`. -/
def complete : (l : Lane) → String → Nat → PublishState → DateTime → Option String →
    Sql DomainError Store (l.Job × l.History)
  | video => completeJobWithHistory
  | article => completeArticleWithHistory

/-- `request.scheduled_at = None`. -/
def unscheduled : (l : Lane) → l.Request → l.Request
  | video => fun request => { request with scheduledAt := none }
  | article => fun request => { request with scheduledAt := none }

/-- The terminal state and detail of a dispatch result. -/
def terminalOf : (l : Lane) → Except DomainError l.Outcome → PublishState × String
  | video => schedulerOutcome
  | article => articleSchedulerOutcome

/-- The rows of the lane's history table. -/
def history : (l : Lane) → Store → List l.Row
  | video => fun s => s.history.rows
  | article => fun s => s.articleHistory.rows

/-- The row a record is stored as. -/
def IsRow : (l : Lane) → l.History → l.Row → Prop
  | video => fun record row => record.toRow = .ok row
  | article => fun record row => record.toRow = row

/-- The record is of a job with this request, in this state. -/
def Matches : (l : Lane) → l.Request → PublishState → l.History → Prop
  | video => fun request state record =>
    record.request = request.runnerSafe ∧ record.state = state
  | article => fun request state record =>
    record.title = request.title ∧ request.articlePlatform = .ok record.platform ∧
      record.state = state

/-- What a dispatch may answer: a registry answers by its providers, whatever these answer; the
    article runner answers anything. -/
def Dispatches : (l : Lane) → l.Request → Except DomainError l.Outcome → Prop
  | video => fun request reply =>
    ∃ registry : ProviderRegistry, (registry.dispatchAll request).2 = reply
  | article => fun _ _ => True

variable {l : Lane} {s s' : Store}

/-- The lanes lead to terminal states only. -/
theorem terminalOf_terminal (l : Lane) (result : Except DomainError l.Outcome) :
    (l.terminalOf result).1.terminal = true := by
  cases l with
  | video =>
    change (schedulerOutcome result).1.terminal = true
    unfold schedulerOutcome
    split
    · split
      · rfl
      · split <;> rfl
    · rfl
  | article =>
    change (articleSchedulerOutcome result).1.terminal = true
    unfold articleSchedulerOutcome
    split <;> rfl

/-- A write of one lane's jobs leaves the other's alone. -/
theorem jobs_raise_other {l' : Lane} (hne : l' ≠ l) (ids : List String) (next : PublishState)
    (now : DateTime) : l'.queue.jobs (l.queue.raise s ids next now) = l'.queue.jobs s := by
  cases l <;> cases l' <;> first | rfl | exact absurd rfl hne

/-- It leaves both histories alone. -/
theorem history_raise (l' : Lane) (ids : List String) (next : PublishState) (now : DateTime) :
    l'.history (l.queue.raise s ids next now) = l'.history s := by
  cases l <;> cases l' <;> rfl

/-- **What a successful completion of either lane required and wrote.** -/
theorem complete_ok {id : String} {expected : Nat} {next : PublishState} {now : DateTime}
    {detail : Option String} {job : l.Job} {record : l.History}
    (h : Sql.Runs (l.complete id expected next now detail) s (.ok (job, record)) s') :
    (∃ row current, (l.queue.jobs s).find? id = some row ∧ l.queue.rowToJob row = .ok current ∧
      current.revision = expected ∧ current.state.canTransitionTo next = true ∧
      l.Matches current.request next record) ∧
    l.queue.jobs s' = l.queue.jobs (l.queue.raise s [id] next now) ∧
    (∃ row, l.IsRow record row ∧ l.history s' = l.history s ++ [row]) ∧
    ∀ l', l' ≠ l → l'.queue.jobs s' = l'.queue.jobs s ∧ l'.history s' = l'.history s := by
  cases l with
  | video =>
    obtain ⟨row, current, rowid, hrow', history, hrow, hread, hedge, hrev, -, rfl, -, hto, hins,
      rfl⟩ := completeJobWithHistory_ok h
    refine ⟨⟨row, current, hrow, hread, hrev, hedge, rfl, rfl⟩, rfl,
      ⟨hrow', hto, (Table.insert_eq_some hins).2⟩, fun l' hne => ?_⟩
    cases l' with
    | video => exact absurd rfl hne
    | article => exact ⟨rfl, rfl⟩
  | article =>
    have harticle : Sql.Runs (completeArticleWithHistory id expected next now detail) s
        (.ok (job, record)) s' := h
    obtain ⟨row, current, platform, rows, hrow, hread, hstate, hterm, hrev, hplatform, -, rfl, hins,
      rfl⟩ := completeArticleWithHistory_ok harticle
    have hedge : current.state.canTransitionTo next = true := by
      rw [hstate, PublishState.dispatching_canTransitionTo, hterm]
    refine ⟨⟨row, current, hrow, hread, hrev, hedge, rfl, hplatform, rfl⟩, rfl,
      ⟨_, rfl, (Table.insert_eq_some hins).2⟩, fun l' hne => ?_⟩
    cases l' with
    | video => exact ⟨rfl, rfl⟩
    | article => exact absurd rfl hne

theorem complete_error {id : String} {expected : Nat} {next : PublishState} {now : DateTime}
    {detail : Option String} {e : DomainError}
    (h : Sql.Runs (l.complete id expected next now detail) s (.error e) s') : s' = s := by
  cases l with
  | video => exact completeJobWithHistory_error h
  | article =>
    have harticle : Sql.Runs (completeArticleWithHistory id expected next now detail) s
        (.error e) s' := h
    exact completeArticleWithHistory_error harticle

end Lane

/-! ## 2. The calls -/

/-- A transaction, or a request to a service. -/
inductive Call where
  | allocate (request : PublishRequest) (now : DateTime)
  | insert (job : ScheduledJob)
  | claim (lane : Lane) (dueThrough : LocalSchedule) (now : DateTime) (limit : Nat)
  | dispatch (lane : Lane) (request : lane.Request)
  | complete (lane : Lane) (id : String) (revision : Nat) (next : PublishState) (now : DateTime)
      (detail : Option String)
  | requeue (lane : Lane) (id : String) (revision : Nat) (now : DateTime)
  | recordDispatch (request : PublishRequest) (report : ProviderDispatchReport) (now : DateTime)
  | execute (platform : Platform) (request : PublishRequest)

namespace Call

def Reply : Call → Type
  | allocate _ _ => Except DomainError ScheduledJob
  | insert _ => Except DomainError Unit
  | claim lane _ _ _ => Except DomainError (List lane.Job)
  | dispatch lane _ => Except DomainError lane.Outcome
  | complete lane _ _ _ _ _ => Except DomainError (lane.Job × lane.History)
  | requeue lane _ _ _ => Except DomainError lane.Job
  | recordDispatch _ _ _ => Except DomainError HistoryRecord
  | execute _ _ => Except String String

/-- What a call may answer, and what it does to the database. -/
def Handles : (c : Call) → Store → c.Reply → Store → Prop
  | allocate request now, s, r, s' => Sql.Runs (enqueueBegin request now) s r s'
  | insert job, s, r, s' => Sql.Runs (insertJob job) s r s'
  | claim lane dueThrough now limit, s, r, s' =>
    Sql.Runs (lane.queue.claim dueThrough now limit) s r s'
  | dispatch lane request, s, r, s' => lane.Dispatches request r ∧ s' = s
  | complete lane id revision next now detail, s, r, s' =>
    Sql.Runs (lane.complete id revision next now detail) s r s'
  | requeue lane id revision now, s, r, s' => Sql.Runs (lane.queue.requeue id revision now) s r s'
  | recordDispatch request report now, s, r, s' =>
    Sql.Runs (recordProviderDispatchHistory request report now) s r s'
  | execute _ _, s, _, s' => s' = s

end Call

/-! ## 3. What a call does to the video jobs -/

/-- The video claims a call gives its process, each a job at a revision. -/
def Call.opens : (c : Call) → c.Reply → List (String × Nat)
  | .claim .video _ _ _, .ok jobs => jobs.map fun job => (job.id, job.revision)
  | _, _ => []

/-- The video claim a call settles: completed or given back. -/
def Call.settles : (c : Call) → c.Reply → Option (String × Nat)
  | .complete .video id revision _ _ _, .ok _ => some (id, revision)
  | .requeue .video id revision _, .ok _ => some (id, revision)
  | _, _ => none

/-- A completion or a requeue of a video claim, and the state it leads to. -/
def Call.SettlesTo (c : Call) (id : String) (revision : Nat) (next : PublishState)
    (now : DateTime) : Prop :=
  (∃ detail, c = .complete .video id revision next now detail) ∨
    c = .requeue .video id revision now ∧ next = .queued

/-- The four things a call does to the jobs, with the claims it opens or settles. -/
inductive CallChange (c : Call) (r : c.Reply) (s s' : Store) : Prop
  | same : c.settles r = none → s'.jobs = s.jobs → CallChange c r s s'
  | inserted (job : ScheduledJob) (row : JobRow) : c = .insert job → c.settles r = none →
      videoQueue.jobToRow job = .ok row → s.jobs.insert row = some s'.jobs → CallChange c r s s'
  | claimed (dueThrough : LocalSchedule) (now : DateTime) (limit : Nat) :
      c = .claim .video dueThrough now limit → c.settles r = none →
      (∀ id ∈ (c.opens r).map Prod.fst, ∃ row, s.jobs.find? id = some row ∧
        (id, row.revision + 1) ∈ c.opens r) →
      s'.jobs = (videoQueue.raise s ((c.opens r).map Prod.fst) .dispatching now).jobs →
      CallChange c r s s'
  | settled (id : String) (revision : Nat) (next : PublishState) (now : DateTime) :
      c.settles r = some (id, revision) → c.SettlesTo id revision next now →
      s'.jobs = (videoQueue.raise s [id] next now).jobs → CallChange c r s s'

theorem callChange_claim {dueThrough : LocalSchedule} {now : DateTime} {limit : Nat}
    {r : (Call.claim .video dueThrough now limit).Reply} {s s' : Store}
    (h : Call.Handles (.claim .video dueThrough now limit) s r s') :
    CallChange (.claim .video dueThrough now limit) r s s' := by
  rcases r with e | jobs
  · exact .same rfl (by rw [QueueTable.claim_error h])
  obtain ⟨-, hjobs, -, rfl⟩ := QueueTable.claim_jobs (q := videoQueue) h
  have hids : ((Call.opens (.claim .video dueThrough now limit) (Except.ok jobs)).map Prod.fst) =
      jobs.map (·.id) := by
    change (jobs.map fun job => (job.id, job.revision)).map Prod.fst = _
    rw [List.map_map]
    rfl
  refine .claimed dueThrough now limit rfl rfl (fun id hid => ?_) (by rw [hids]; rfl)
  rw [hids] at hid
  obtain ⟨job, hjob, rfl⟩ := List.mem_map.mp hid
  obtain ⟨row, current, hrow, hread, -, he⟩ := hjobs job hjob
  refine ⟨row, hrow, List.mem_map.mpr ⟨job, hjob, ?_⟩⟩
  rw [he, ← (QueueTable.rowToJob_ok hread).2.2.1]
  rfl

/-- **What a call does to the jobs.** -/
theorem callChange_of {c : Call} {r : c.Reply} {s s' : Store} (h : c.Handles s r s') :
    CallChange c r s s' := by
  cases c with
  | allocate request now =>
    rcases r with e | job
    · exact .same rfl (by rw [enqueueBegin_error h])
    · obtain ⟨-, -, rfl⟩ := enqueueBegin_ok h
      exact .same rfl rfl
  | insert job =>
    rcases r with e | u
    · exact .same rfl (by rw [insertJob_error h])
    · obtain ⟨row, jobs, hto, hins, rfl⟩ := insertJob_ok h
      exact .inserted job row rfl rfl hto hins
  | claim l dueThrough now limit =>
    cases l with
    | video => exact callChange_claim h
    | article =>
      rcases r with e | jobs
      · exact .same rfl (by rw [QueueTable.claim_error h])
      · obtain ⟨-, -, -, rfl⟩ := QueueTable.claim_jobs h
        exact .same rfl rfl
  | dispatch l request => exact .same rfl (by rw [h.2])
  | complete l id revision next now detail =>
    rcases r with e | ⟨job, record⟩
    · exact .same (by cases l <;> rfl) (by rw [Lane.complete_error h])
    obtain ⟨-, hjobs, -, hothers⟩ := Lane.complete_ok h
    cases l with
    | video => exact .settled id revision next now rfl (.inl ⟨detail, rfl⟩) hjobs
    | article => exact .same rfl (hothers .video (by decide)).1
  | requeue l id revision now =>
    rcases r with e | job
    · exact .same (by cases l <;> rfl) (by rw [Sql.runs_transaction_error h])
    obtain ⟨row, current, -, -, -, -, rfl, -⟩ := QueueTable.requeue_ok h
    cases l with
    | video => exact .settled id revision .queued now rfl (.inr ⟨rfl, rfl⟩) rfl
    | article => exact .same rfl rfl
  | recordDispatch request report now =>
    rcases r with e | record
    · have hs : s' = s := Sql.runs_transaction_error h
      exact .same rfl (by rw [hs])
    · obtain ⟨rowid, row, history, -, -, -, rfl⟩ := recordProviderDispatchHistory_ok h
      exact .same rfl rfl
  | execute platform request =>
    have hs : s' = s := h
    exact .same rfl (by rw [hs])

/-! ## 4. Tasks -/

/-- A program of the system. -/
abbrev Task (α : Type) := Prog Call Call.Reply α

/-- What a task has called. -/
abbrev CallLog := List (Called Call Call.Reply)

namespace Task

def allocate (request : PublishRequest) (now : DateTime) : Task (Except DomainError ScheduledJob) :=
  Prog.perform (Call.allocate request now)

def insert (job : ScheduledJob) : Task (Except DomainError Unit) := Prog.perform (Call.insert job)

/-- `claim_due` and `claim_due_articles`. -/
def claim (l : Lane) (dueThrough : LocalSchedule) (now : DateTime) (limit : Nat) :
    Task (Except DomainError (List l.Job)) := Prog.perform (Call.claim l dueThrough now limit)

/-- `dispatch_all` of the registry and `dispatch` of the article runner. -/
def dispatch (l : Lane) (request : l.Request) : Task (Except DomainError l.Outcome) :=
  Prog.perform (Call.dispatch l request)

/-- `complete_job_with_history` and `complete_article_with_history`. -/
def complete (l : Lane) (id : String) (revision : Nat) (next : PublishState) (now : DateTime)
    (detail : Option String) : Task (Except DomainError (l.Job × l.History)) :=
  Prog.perform (Call.complete l id revision next now detail)

/-- `requeue_claim` and `requeue_article_claim`. -/
def requeue (l : Lane) (id : String) (revision : Nat) (now : DateTime) :
    Task (Except DomainError l.Job) := Prog.perform (Call.requeue l id revision now)

/-- `record_provider_dispatch_history`. -/
def recordDispatch (request : PublishRequest) (report : ProviderDispatchReport) (now : DateTime) :
    Task (Except DomainError HistoryRecord) := Prog.perform (Call.recordDispatch request report now)

/-- A task without its answer. -/
def discard {α : Type} (p : Task α) : Task Unit := do
  let _ ← p
  pure ()

/-- `enqueue`: two transactions. -/
def enqueue (request : PublishRequest) (now : DateTime) :
    Task (Except DomainError ScheduledJob) := do
  match ← allocate request now with
  | .error e => pure (.error e)
  | .ok job => do
    match ← insert job with
    | .error e => pure (.error e)
    | .ok _ => pure (.ok job)

/-- `executor.publish`. -/
def execute (platform : Platform) (request : PublishRequest) : Task (Except String String) :=
  Prog.perform (Call.execute platform request)

end Task

end MatriXpost
