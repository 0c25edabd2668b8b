/-
  File:      MatriXpost/Store/Articles.lean
  Subject:   THE ARTICLE QUEUE: enqueue, claim, completion with redacted history, requeue.

  A completion shares the state change with the video queue and adds one guard: its UPDATE names
  the state `dispatching`. Its history record carries title, platform and state of the job, and
  a fixed detail; what the caller passes as detail is dropped.

  * `completeArticleWithHistory_ok` says what a success required and wrote, and
    `completeArticleWithHistory_clean` that without faults these requirements suffice.
-/
import MatriXpost.Store.Jobs

namespace MatriXpost

/-! ## 1. The operations -/

/-- The job `enqueue_article` builds under an allocated id. -/
def enqueuedArticle (request : PublishArticleRequest) (dueAt : LocalSchedule) (rowid : Nat)
    (now : DateTime) : ArticleScheduledJob where
  id := "article-job-" ++ toString rowid
  request := request.runnerSafe
  state := .queued
  dueAt := dueAt
  revision := 0
  updatedAt := now

/-- `request.scheduled_at.clone().ok_or_else(..)?`. -/
def requireSchedule : Option LocalSchedule → Except DomainError LocalSchedule
  | some due => .ok due
  | none => .error (.invalidSchedule "scheduled article requires publish_at")

/-- `INSERT INTO article_job_sequence DEFAULT VALUES`, and the row id it made. -/
def nextArticleJob (s : Store) : Nat × Store :=
  (s.articleJobSequence + 1, { s with articleJobSequence := s.articleJobSequence + 1 })

/-- `enqueue_article`. -/
def enqueueArticle (request : PublishArticleRequest) (now : DateTime) :
    Sql DomainError Store ArticleScheduledJob := do
  Sql.lift request.validate
  let dueAt ← Sql.lift (requireSchedule request.scheduledAt)
  let rowid ← Sql.execute nextArticleJob
  let job := enqueuedArticle request dueAt rowid now
  articleQueue.insertJob "article_jobs.id" job
  pure job

/-- `claim_due_articles`. -/
def claimDueArticles (dueThrough : LocalSchedule) (now : DateTime) (limit : Nat) :
    Sql DomainError Store (List ArticleScheduledJob) := articleQueue.claim dueThrough now limit

/-- `requeue_article_claim`. -/
def requeueArticleClaim (id : String) (expectedRevision : Nat) (now : DateTime) :
    Sql DomainError Store ArticleScheduledJob := articleQueue.requeue id expectedRevision now

def fixedHistoryDetail : PublishState → String
  | .published => "scheduled local article runner workflow completed"
  | .unavailable => "scheduled local article runner unavailable"
  | .failed => "scheduled local article runner workflow incomplete"
  | _ => "scheduled local article runner workflow recorded"

/-- The columns of a record. -/
def ArticleHistoryRecord.toRow (record : ArticleHistoryRecord) : ArticleHistoryRow :=
  ⟨record.id, articlePlatformDb record.platform, record.title, record.state.db,
    DateTime.toRfc3339 record.recordedAt, record.detail⟩

/-- The record of a completed article job. -/
def articleRecord (current : ArticleScheduledJob) (platform : ArticlePlatform) (rowid : Nat)
    (next : PublishState) (updatedAt : DateTime) : ArticleHistoryRecord :=
  ⟨"article-scheduled-history-" ++ toString rowid, platform, current.request.title, next,
    updatedAt, some (fixedHistoryDetail next)⟩

/-- `INSERT INTO article_history_sequence DEFAULT VALUES`, and the row id it made. -/
def nextArticleHistory (s : Store) : Nat × Store :=
  (s.articleHistorySequence + 1, { s with articleHistorySequence := s.articleHistorySequence + 1 })

/-- `INSERT INTO article_history`. -/
def insertArticleHistory (record : ArticleHistoryRecord) (s : Store) :
    Except DomainError (Unit × Store) :=
  match s.articleHistory.insert record.toRow with
  | some rows => .ok ((), { s with articleHistory := rows })
  | none => .error (uniqueViolation "article_history.id")

/-- `complete_article_with_history`; the detail it is given is not used. -/
def completeArticleWithHistory (id : String) (expectedRevision : Nat) (next : PublishState)
    (updatedAt : DateTime) (_detail : Option String) :
    Sql DomainError Store (ArticleScheduledJob × ArticleHistoryRecord) :=
  Sql.transaction do
    let current ← articleQueue.changeState (some .dispatching) id expectedRevision next updatedAt
    let rowid ← Sql.execute nextArticleHistory
    let platform ← Sql.lift current.request.articlePlatform
    let history := articleRecord current platform rowid next updatedAt
    Sql.statement (insertArticleHistory history)
    pure ({ current with
      state := next, revision := expectedRevision + 1, updatedAt := updatedAt }, history)

/-! ## 2. What they require and write -/

section Specs
variable {s s' : Store}

theorem requireSchedule_ok {schedule : Option LocalSchedule} {due : LocalSchedule}
    (h : requireSchedule schedule = .ok due) : schedule = some due := by
  cases schedule with
  | none => cases h
  | some due' =>
    cases h
    rfl

/-- A successful enqueue inserts one queued job under a new id. -/
theorem enqueueArticle_ok {request : PublishArticleRequest} {now : DateTime}
    {job : ArticleScheduledJob} (h : Sql.Runs (enqueueArticle request now) s (.ok job) s') :
    ∃ due row jobs, request.validate = .ok () ∧ request.scheduledAt = some due ∧
      job = enqueuedArticle request due (s.articleJobSequence + 1) now ∧
      articleQueue.jobToRow job = .ok row ∧ s.articleJobs.insert row = some jobs ∧
      s' = { s with
        articleJobs := jobs, articleJobSequence := s.articleJobSequence + 1 } := by
  obtain ⟨u, s₁, hlift, h₁⟩ := Sql.runs_bind_ok h
  obtain ⟨hvalid, rfl⟩ := Sql.runs_lift.mp hlift
  obtain ⟨due, s₂, hlift', h₂⟩ := Sql.runs_bind_ok h₁
  obtain ⟨hdue, rfl⟩ := Sql.runs_lift.mp hlift'
  obtain ⟨rowid, s₃, hexec, h₃⟩ := Sql.runs_bind_ok h₂
  rw [Sql.runs_execute_ok] at hexec
  obtain ⟨rfl, rfl⟩ := Prod.mk.inj hexec
  obtain ⟨u', s₄, hinsert, h₄⟩ := Sql.runs_bind_ok h₃
  obtain ⟨row, jobs, hrow, hins, rfl⟩ := insertJob_ok hinsert
  obtain ⟨he, rfl⟩ := Sql.runs_pure.mp h₄
  cases he
  exact ⟨due, row, jobs, hvalid.symm, requireSchedule_ok hdue.symm, rfl, hrow, hins, rfl⟩

/-- A failed enqueue may have used a number of the sequence, and nothing else. -/
theorem enqueueArticle_error {request : PublishArticleRequest} {now : DateTime}
    {e : DomainError} (h : Sql.Runs (enqueueArticle request now) s (.error e) s') :
    ∃ n, s' = { s with articleJobSequence := n } := by
  have hself : s = { s with articleJobSequence := s.articleJobSequence } := rfl
  rcases Sql.runs_bind_error h with h | ⟨u, s₁, hvalid, h₁⟩
  · exact ⟨_, (Sql.runs_lift.mp h).2.trans hself⟩
  obtain ⟨-, rfl⟩ := Sql.runs_lift.mp hvalid
  rcases Sql.runs_bind_error h₁ with h | ⟨due, s₂, hdue, h₂⟩
  · exact ⟨_, (Sql.runs_lift.mp h).2.trans hself⟩
  obtain ⟨-, rfl⟩ := Sql.runs_lift.mp hdue
  rcases Sql.runs_bind_error h₂ with h | ⟨rowid, s₃, hexec, h₃⟩
  · exact ⟨_, (Sql.runs_statement_error h).trans hself⟩
  rw [Sql.runs_execute_ok] at hexec
  obtain ⟨-, rfl⟩ := Prod.mk.inj hexec
  rcases Sql.runs_bind_error h₃ with h | ⟨u', s₄, hinsert, h₄⟩
  · exact ⟨_, insertJob_error h⟩
  · exact absurd (Sql.runs_pure.mp h₄).1 (by simp)

/-- **A successful completion found its job dispatching at the revision presented, leads to a
    terminal state, and inserts one record with that job's title and platform and that state.** -/
theorem completeArticleWithHistory_ok {id : String} {expected : Nat} {next : PublishState}
    {now : DateTime} {detail : Option String} {job : ArticleScheduledJob}
    {record : ArticleHistoryRecord}
    (h : Sql.Runs (completeArticleWithHistory id expected next now detail) s
      (.ok (job, record)) s') :
    ∃ row current platform rows, s.articleJobs.find? id = some row ∧
      articleQueue.rowToJob row = .ok current ∧ current.state = .dispatching ∧
      next.terminal = true ∧ current.revision = expected ∧
      current.request.articlePlatform = .ok platform ∧
      job = { current with state := next, revision := expected + 1, updatedAt := now } ∧
      record = articleRecord current platform (s.articleHistorySequence + 1) next now ∧
      s.articleHistory.insert record.toRow = some rows ∧
      s' = { articleQueue.raise s [id] next now with
        articleHistory := rows, articleHistorySequence := s.articleHistorySequence + 1 } := by
  obtain ⟨current, s₁, hchange, h₁⟩ := Sql.runs_bind_ok (Sql.runs_transaction_ok h)
  obtain ⟨⟨row, hrow, hread⟩, hedge, hrev, hstate, rfl⟩ := QueueTable.changeState_ok hchange
  rw [Option.all_some, decide_eq_true_eq] at hstate
  rw [hstate, PublishState.dispatching_canTransitionTo] at hedge
  obtain ⟨rowid, s₂, hexec, h₂⟩ := Sql.runs_bind_ok h₁
  rw [Sql.runs_execute_ok] at hexec
  obtain ⟨rfl, rfl⟩ := Prod.mk.inj hexec
  obtain ⟨platform, s₃, hlift, h₃⟩ := Sql.runs_bind_ok h₂
  obtain ⟨hplatform, rfl⟩ := Sql.runs_lift.mp hlift
  obtain ⟨u, s₄, hinsert, h₄⟩ := Sql.runs_bind_ok h₃
  rw [Sql.runs_statement_ok, insertArticleHistory] at hinsert
  split at hinsert
  · rename_i rows hrows
    cases hinsert
    obtain ⟨he, rfl⟩ := Sql.runs_pure.mp h₄
    cases he
    exact ⟨row, current, platform, rows, hrow, hread, hstate, hedge, hrev, hplatform.symm, rfl, rfl,
      hrows, rfl⟩
  · cases hinsert

/-- **A completion that fails leaves both article tables as they were.** -/
theorem completeArticleWithHistory_error {id : String} {expected : Nat} {next : PublishState}
    {now : DateTime} {detail : Option String} {e : DomainError}
    (h : Sql.Runs (completeArticleWithHistory id expected next now detail) s (.error e) s') :
    s' = s := Sql.runs_transaction_error h

theorem requeueArticleClaim_error {id : String} {expected : Nat} {now : DateTime}
    {e : DomainError} (h : Sql.Runs (requeueArticleClaim id expected now) s (.error e) s') :
    s' = s := Sql.runs_transaction_error h

theorem completeArticleWithHistory_clean {id : String} {next : PublishState} {now : DateTime}
    {detail : Option String} {row : JobRow} {current : ArticleScheduledJob}
    {platform : ArticlePlatform} {rows : Table ArticleHistoryRow.id}
    (hrow : s.articleJobs.find? id = some row) (hread : articleQueue.rowToJob row = .ok current)
    (hstate : current.state = .dispatching) (hterm : next.terminal = true)
    (hplatform : current.request.articlePlatform = .ok platform)
    (hins : s.articleHistory.insert
      (articleRecord current platform (s.articleHistorySequence + 1) next now).toRow = some rows) :
    Sql.Clean (completeArticleWithHistory id current.revision next now detail) s
      (.ok ({ current with state := next, revision := current.revision + 1, updatedAt := now },
        articleRecord current platform (s.articleHistorySequence + 1) next now))
      { articleQueue.raise s [id] next now with
        articleHistory := rows, articleHistorySequence := s.articleHistorySequence + 1 } := by
  refine Sql.Clean.transaction ?_
  have hedge : current.state.canTransitionTo next = true := by
    rw [hstate, PublishState.dispatching_canTransitionTo, hterm]
  refine (QueueTable.changeState_clean (some .dispatching) hrow hread hedge
    (by simp [hstate])).bind ?_
  refine (Sql.clean_execute _ _).bind ?_
  rw [hplatform]
  refine (Sql.clean_lift _ _).bind ?_
  refine Sql.Clean.bind (a := ()) (Sql.clean_statement ?_) (Sql.clean_pure _ _)
  have hraise : (nextArticleHistory (articleQueue.raise s [id] next now)).2.articleHistory =
    s.articleHistory := rfl
  unfold insertArticleHistory
  rw [hraise]
  erw [hins]
  rfl

end Specs

end MatriXpost
