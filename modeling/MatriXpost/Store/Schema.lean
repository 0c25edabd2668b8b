/-
  File:      MatriXpost/Store/Schema.lean
  Subject:   THE TABLES OF THE REPOSITORY that the publication queues use, and the two queues
             as one thing with parameters.

  Rows hold what the columns hold: texts, JSON values, revisions. A `QueueTable` names the job
  table of one queue in the store, the codec of its request and of its due time; `videoQueue`
  and `articleQueue` are the two. `QueueTable.rowToJob` reads a row back.
-/
import MatriXpost.Core.Json
import MatriXpost.Lib.Table
import MatriXpost.Lib.Select

namespace MatriXpost

/-! ## 1. Rows -/

/-- A row of `jobs` or `article_jobs`. -/
structure JobRow where
  id : String
  requestJson : Json
  state : String
  dueAt : Option String
  revision : Nat
  updatedAt : String

/-- A row of `history`. -/
structure HistoryRow where
  id : String
  requestJson : Json
  state : String
  recordedAt : String
  detail : Option String

/-- A row of `article_history`. -/
structure ArticleHistoryRow where
  id : String
  platform : String
  title : String
  state : String
  recordedAt : String
  detail : Option String
deriving DecidableEq

/-- The tables of the queues, and the counters behind their AUTOINCREMENT columns. -/
structure Store where
  jobs : Table JobRow.id
  history : Table HistoryRow.id
  jobSequence : Nat
  historySequence : Nat
  articleJobs : Table JobRow.id
  articleHistory : Table ArticleHistoryRow.id
  articleJobSequence : Nat
  articleHistorySequence : Nat

/-- A database just created. -/
def Store.initial : Store := ⟨.empty, .empty, 0, 0, .empty, .empty, 0, 0⟩

/-! ## 2. Jobs and records -/

/-- Durable state for one job, with request `R` and due time `δ`. -/
structure Job (R δ : Type) where
  id : String
  request : R
  state : PublishState
  dueAt : δ
  revision : Nat
  updatedAt : DateTime
deriving DecidableEq, Repr

/-- A video job: drafts and unscheduled jobs have no due time. -/
abbrev ScheduledJob := Job PublishRequest (Option LocalSchedule)

/-- An article job. -/
abbrev ArticleScheduledJob := Job PublishArticleRequest LocalSchedule

/-- Terminal evidence of a video workflow. -/
structure HistoryRecord where
  id : String
  request : PublishRequest
  state : PublishState
  recordedAt : DateTime
  detail : Option String
deriving DecidableEq, Repr

/-- Terminal evidence of an article workflow, without body, files or routing. -/
structure ArticleHistoryRecord where
  id : String
  platform : ArticlePlatform
  title : String
  state : PublishState
  recordedAt : DateTime
  detail : Option String
deriving DecidableEq, Repr

/-! ## 3. A queue's table -/

/-- The job table of one queue in the store, and the codecs of its columns. -/
structure QueueTable (R δ : Type) where
  jobs : Store → Table JobRow.id
  setJobs : Store → Table JobRow.id → Store
  jobs_setJobs : ∀ s t, jobs (setJobs s t) = t
  setJobs_jobs : ∀ s, setJobs s (jobs s) = s
  setJobs_setJobs : ∀ s t t', setJobs (setJobs s t) t' = setJobs s t'
  encode : R → Except DomainError Json
  decode : Json → Except DomainError R
  decode_encode : ∀ {r j}, encode r = .ok j → decode j = .ok r
  dueText : δ → Option String
  parseDue : Option String → Except DomainError δ

attribute [simp] QueueTable.jobs_setJobs QueueTable.setJobs_jobs QueueTable.setJobs_setJobs

/-- `due_at.as_deref().map(LocalSchedule::parse).transpose()?`. -/
def parseOptionalDue : Option String → Except DomainError (Option LocalSchedule)
  | none => .ok none
  | some text => (LocalSchedule.parse text).map some

/-- `LocalSchedule::parse(&due_at)?`, of a column that is NOT NULL. -/
def parseDue : Option String → Except DomainError LocalSchedule
  | none => .error (.database "Invalid column type Null at index: 3, name: due_at")
  | some text => LocalSchedule.parse text

/-- `jobs`. -/
def videoQueue : QueueTable PublishRequest (Option LocalSchedule) where
  jobs s := s.jobs
  setJobs s t := { s with jobs := t }
  jobs_setJobs _ _ := rfl
  setJobs_jobs _ := rfl
  setJobs_setJobs _ _ _ := rfl
  encode := PublishRequest.toJson
  decode := PublishRequest.fromJson
  decode_encode := PublishRequest.fromJson_toJson
  dueText due := due.map (·.text)
  parseDue := parseOptionalDue

/-- `article_jobs`. -/
def articleQueue : QueueTable PublishArticleRequest LocalSchedule where
  jobs s := s.articleJobs
  setJobs s t := { s with articleJobs := t }
  jobs_setJobs _ _ := rfl
  setJobs_jobs _ := rfl
  setJobs_setJobs _ _ _ := rfl
  encode := PublishArticleRequest.toJson
  decode := PublishArticleRequest.fromJson
  decode_encode := PublishArticleRequest.fromJson_toJson
  dueText due := some due.text
  parseDue := MatriXpost.parseDue

namespace QueueTable

variable {R δ : Type} (q : QueueTable R δ)

/-- `parse_time`. -/
def parseTime (value : String) : Except DomainError DateTime :=
  match DateTime.parseFromRfc3339 value with
  | some t => .ok t
  | none => .error (.corruptState value)

/-- `row_to_job` and `row_to_article_job`. -/
def rowToJob (row : JobRow) : Except DomainError (Job R δ) := do
  let request ← q.decode row.requestJson
  let state ← PublishState.fromDb row.state
  let dueAt ← q.parseDue row.dueAt
  let updatedAt ← parseTime row.updatedAt
  .ok ⟨row.id, request, state, dueAt, row.revision, updatedAt⟩

/-- The columns of a job. -/
def jobToRow (job : Job R δ) : Except DomainError JobRow := do
  let requestJson ← q.encode job.request
  .ok ⟨job.id, requestJson, job.state.db, q.dueText job.dueAt, job.revision,
    DateTime.toRfc3339 job.updatedAt⟩

variable {q}

/-- What a job read from a row has from it. -/
theorem rowToJob_ok {row : JobRow} {job : Job R δ} (h : q.rowToJob row = .ok job) :
    job.id = row.id ∧ row.state = job.state.db ∧ job.revision = row.revision ∧
      q.decode row.requestJson = .ok job.request ∧ q.parseDue row.dueAt = .ok job.dueAt ∧
      parseTime row.updatedAt = .ok job.updatedAt := by
  unfold rowToJob at h
  cases hr : q.decode row.requestJson with
  | error e =>
    rw [hr] at h
    cases h
  | ok request =>
  cases hs : PublishState.fromDb row.state with
  | error e =>
    rw [hr, hs] at h
    cases h
  | ok state =>
  cases hd : q.parseDue row.dueAt with
  | error e =>
    rw [hr, hs, hd] at h
    cases h
  | ok due =>
  cases hu : parseTime row.updatedAt with
  | error e =>
    rw [hr, hs, hd, hu] at h
    cases h
  | ok updated =>
    rw [hr, hs, hd, hu] at h
    cases h
    exact ⟨rfl, PublishState.db_of_fromDb hs, rfl, rfl, rfl, rfl⟩

/-- The columns a job was written to. -/
theorem jobToRow_ok {job : Job R δ} {row : JobRow} (h : q.jobToRow job = .ok row) :
    q.encode job.request = .ok row.requestJson ∧ row.id = job.id ∧ row.state = job.state.db ∧
      row.dueAt = q.dueText job.dueAt ∧ row.revision = job.revision ∧
      row.updatedAt = DateTime.toRfc3339 job.updatedAt := by
  unfold jobToRow at h
  cases hj : q.encode job.request with
  | error e =>
    rw [hj] at h
    cases h
  | ok requestJson =>
    rw [hj] at h
    cases h
    exact ⟨rfl, rfl, rfl, rfl, rfl, rfl⟩

/-- A job whose request can be written has columns. -/
theorem exists_jobToRow {job : Job R δ} {requestJson : Json}
    (h : q.encode job.request = .ok requestJson) : ∃ row, q.jobToRow job = .ok row := by
  unfold jobToRow
  rw [h]
  exact ⟨_, rfl⟩

end QueueTable

end MatriXpost
