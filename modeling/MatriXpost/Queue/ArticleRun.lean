/-
  File:      MatriXpost/Queue/ArticleRun.lean
  Subject:   RUNS OF THE ARTICLE QUEUE: its four operations with any arguments and under any
             faults.

  * `articleStep_cases` says once what an operation can do to the two tables: nothing, a new
    queued job, a `raise` between states that are not terminal, or one completion;
  * `articleStep_error`: a failing operation changes neither table;
  * `articleStep_ended`: no operation changes a job that has ended.
-/
import MatriXpost.Store.Articles
import MatriXpost.Lib.Trace
import Mathlib.Control.Monad.Basic

namespace MatriXpost

/-! ## 1. Operations and runs -/

/-- An operation on the article queue, with its reply. -/
inductive ArticleEvent where
  | enqueue (request : PublishArticleRequest) (now : DateTime)
      (reply : Except DomainError ArticleScheduledJob)
  | claim (dueThrough : LocalSchedule) (now : DateTime) (limit : Nat)
      (reply : Except DomainError (List ArticleScheduledJob))
  | complete (id : String) (expected : Nat) (next : PublishState) (now : DateTime)
      (detail : Option String)
      (reply : Except DomainError (ArticleScheduledJob × ArticleHistoryRecord))
  | requeue (id : String) (expected : Nat) (now : DateTime)
      (reply : Except DomainError ArticleScheduledJob)

/-- The operation was answered. -/
def ArticleEvent.succeeded : ArticleEvent → Bool
  | .enqueue _ _ reply => reply.isOk
  | .claim _ _ _ reply => reply.isOk
  | .complete _ _ _ _ _ reply => reply.isOk
  | .requeue _ _ _ reply => reply.isOk

/-- The clock an operation is given. -/
def ArticleEvent.clock : ArticleEvent → DateTime
  | .enqueue _ now _ => now
  | .claim _ now _ _ => now
  | .complete _ _ _ now _ _ => now
  | .requeue _ _ now _ => now

def ArticleStep (s : Store) (e : ArticleEvent) (s' : Store) : Prop :=
  match e with
  | .enqueue request now reply => Sql.Runs (enqueueArticle request now) s reply s'
  | .claim dueThrough now limit reply => Sql.Runs (claimDueArticles dueThrough now limit) s reply s'
  | .complete id expected next now detail reply =>
    Sql.Runs (completeArticleWithHistory id expected next now detail) s reply s'
  | .requeue id expected now reply => Sql.Runs (requeueArticleClaim id expected now) s reply s'

/-- The job of the row has ended. -/
def ended (row : JobRow) : Bool :=
  match PublishState.fromDb row.state with
  | .ok state => state.terminal
  | .error _ => false

theorem ended_of_state {row : JobRow} {state : PublishState} (h : row.state = state.db) :
    ended row = state.terminal := by
  rw [ended, h, PublishState.fromDb_db]

/-! ## 2. What an operation does -/

/-- **One completion**: a claimed job at the revision presented goes to a terminal state, no other
    job moves, and the history gains one row, under a new id, with that job's title and platform
    and the new state. -/
structure CompletesOne (s s' : Store) (id : String) (expected : Nat) (next : PublishState)
    (now : DateTime) (record : ArticleHistoryRecord) : Prop where
  terminal : next.terminal = true
  moved : ∃ row current, s.articleJobs.find? id = some row ∧
    articleQueue.rowToJob row = .ok current ∧ current.state = .dispatching ∧
    current.revision = expected ∧
    s'.articleJobs.find? id = some (QueueTable.advanced next now row) ∧
    record.title = current.request.title ∧
    current.request.articlePlatform = .ok record.platform ∧ record.state = next
  others : ∀ k, k ≠ id → s'.articleJobs.find? k = s.articleJobs.find? k
  fresh : s.articleHistory.find? record.id = none
  added : s'.articleHistory.rows = s.articleHistory.rows ++ [record.toRow]

/-- What an operation does to the two tables. -/
inductive ArticleChange (s s' : Store) (e : ArticleEvent) : Prop
  | same : s'.articleJobs = s.articleJobs → s'.articleHistory = s.articleHistory →
      ArticleChange s s' e
  | inserted (request : PublishArticleRequest) (due : LocalSchedule) (rowid : Nat) (row : JobRow) :
      request.validate = .ok () → request.scheduledAt = some due →
      e = .enqueue request e.clock (.ok (enqueuedArticle request due rowid e.clock)) →
      articleQueue.jobToRow (enqueuedArticle request due rowid e.clock) = .ok row →
      s.articleJobs.insert row = some s'.articleJobs → s'.articleHistory = s.articleHistory →
      ArticleChange s s' e
  | raised (ids : List String) (src next : PublishState) :
      src.terminal = false → next.terminal = false →
      (∀ id ∈ ids, ∃ row, s.articleJobs.find? id = some row ∧ row.state = src.db) →
      s'.articleJobs = (articleQueue.raise s ids next e.clock).articleJobs →
      s'.articleHistory = s.articleHistory → ArticleChange s s' e
  | completed (id : String) (row : JobRow) (next : PublishState) (record : ArticleHistoryRecord) :
      s.articleJobs.find? id = some row → row.state = PublishState.dispatching.db →
      next.terminal = true →
      s'.articleJobs = (articleQueue.raise s [id] next e.clock).articleJobs →
      s'.articleHistory.rows = s.articleHistory.rows ++ [record.toRow] → ArticleChange s s' e

section Steps
variable {s s' : Store}

/-- A completion moves one job and adds one row. -/
theorem completeArticle_one {id : String} {expected : Nat} {next : PublishState} {now : DateTime}
    {detail : Option String} {job : ArticleScheduledJob} {record : ArticleHistoryRecord}
    (h : Sql.Runs (completeArticleWithHistory id expected next now detail) s
      (.ok (job, record)) s') : CompletesOne s s' id expected next now record := by
  obtain ⟨row, current, platform, rows, hrow, hread, hstate, hterm, hrev, hplatform, -, rfl, hins,
    rfl⟩ := completeArticleWithHistory_ok h
  obtain ⟨hnone, hrows⟩ := Table.insert_eq_some hins
  refine ⟨hterm, ⟨row, current, hrow, hread, hstate, hrev, ?_, rfl, hplatform, rfl⟩, fun k hk => ?_,
    hnone, hrows⟩
  · exact QueueTable.find?_raise_of_mem (q := articleQueue) hrow (List.mem_singleton_self id)
  · refine QueueTable.find?_raise_of_not_mem (q := articleQueue) ?_
    rw [List.mem_singleton]
    exact hk

/-- **An operation that fails changes neither table.** -/
theorem articleStep_error {e : ArticleEvent} (h : ArticleStep s e s')
    (hfail : e.succeeded = false) :
    s'.articleJobs = s.articleJobs ∧ s'.articleHistory = s.articleHistory := by
  cases e with
  | enqueue request now reply =>
    cases reply with
    | error e =>
      obtain ⟨n, rfl⟩ := enqueueArticle_error h
      exact ⟨rfl, rfl⟩
    | ok job => cases hfail
  | claim dueThrough now limit reply =>
    cases reply with
    | error e =>
      have hs : s' = s := QueueTable.claim_error h
      rw [hs]
      exact ⟨rfl, rfl⟩
    | ok claimed => cases hfail
  | complete id expected next now detail reply =>
    cases reply with
    | error e =>
      rw [completeArticleWithHistory_error h]
      exact ⟨rfl, rfl⟩
    | ok pair => cases hfail
  | requeue id expected now reply =>
    cases reply with
    | error e =>
      rw [requeueArticleClaim_error h]
      exact ⟨rfl, rfl⟩
    | ok job => cases hfail

/-- **What an operation does to jobs and history.** -/
theorem articleStep_cases {e : ArticleEvent} (h : ArticleStep s e s') : ArticleChange s s' e := by
  by_cases hfail : e.succeeded = false
  · obtain ⟨hjobs, hhistory⟩ := articleStep_error h hfail
    exact .same hjobs hhistory
  cases e with
  | enqueue request now reply =>
    cases reply with
    | error e => exact absurd rfl hfail
    | ok job =>
      obtain ⟨due, row, jobs, hvalid, hdue, rfl, hto, hins, rfl⟩ := enqueueArticle_ok h
      exact .inserted request due _ row hvalid hdue rfl hto hins rfl
  | claim dueThrough now limit reply =>
    cases reply with
    | error e => exact absurd rfl hfail
    | ok claimed =>
      obtain ⟨-, hjobs, -, rfl⟩ := QueueTable.claim_jobs (q := articleQueue) h
      refine .raised (claimed.map (·.id)) .queued .dispatching rfl rfl (fun id hid => ?_) rfl rfl
      obtain ⟨job, hjob, rfl⟩ := List.mem_map.mp hid
      obtain ⟨row, current, hrow, hread, hstate, -⟩ := hjobs job hjob
      exact ⟨row, hrow, hstate ▸ (QueueTable.rowToJob_ok hread).2.1⟩
  | complete id expected next now detail reply =>
    cases reply with
    | error e => exact absurd rfl hfail
    | ok pair =>
      obtain ⟨job, record⟩ := pair
      obtain ⟨row, current, platform, rows, hrow, hread, hstate, hterm, -, -, -, -, hins, rfl⟩ :=
        completeArticleWithHistory_ok h
      have hdb := (QueueTable.rowToJob_ok hread).2.1
      rw [hstate] at hdb
      exact .completed id row next record hrow hdb hterm rfl (Table.insert_eq_some hins).2
  | requeue id expected now reply =>
    cases reply with
    | error e => exact absurd rfl hfail
    | ok job =>
      obtain ⟨row, current, hrow, hread, hstate, -, rfl, -⟩ := QueueTable.requeue_ok h
      refine .raised [id] .dispatching .queued rfl rfl (fun k hk => ?_) rfl rfl
      cases List.mem_singleton.mp hk
      exact ⟨row, hrow, hstate ▸ (QueueTable.rowToJob_ok hread).2.1⟩

/-- An ended job stays as it is. -/
theorem articleStep_ended {e : ArticleEvent} (h : ArticleStep s e s') {id : String} {row : JobRow}
    (hrow : s.articleJobs.find? id = some row) (hended : ended row = true) :
    s'.articleJobs.find? id = some row := by
  cases articleStep_cases h with
  | same hjobs =>
    rw [hjobs]
    exact hrow
  | inserted request due rowid row' hvalid hdue he hto hins =>
    exact Table.find?_insert_of_some hins hrow
  | raised ids src next hsrc hnext hrows hjobs =>
    rw [hjobs]
    refine (QueueTable.find?_raise_of_not_mem (q := articleQueue) fun hid => ?_).trans hrow
    obtain ⟨row', hrow', hstate⟩ := hrows id hid
    rw [hrow] at hrow'
    cases hrow'
    rw [ended_of_state hstate, hsrc] at hended
    cases hended
  | completed id' row' next record hrow' hdisp hterm hjobs =>
    rw [hjobs]
    refine (QueueTable.find?_raise_of_not_mem (q := articleQueue) fun hid => ?_).trans hrow
    cases List.mem_singleton.mp hid
    rw [hrow] at hrow'
    cases hrow'
    rw [ended_of_state hdisp] at hended
    cases hended

end Steps

/-! ## 3. A run, evaluated -/

/-- The clock of the run. -/
def articleNow : DateTime := ⟨2026, 8, 1, 8, 0, 0, 0, by decide⟩

def articleDue : LocalSchedule := ⟨"2026-07-30 09:00:00"⟩

def sampleArticle : PublishArticleRequest where
  platform := "juejin"
  account := default
  title := "notes"
  content := some "text"
  file := none
  cover := none
  category := none
  tags := []
  summary := none
  scheduledAt := some articleDue

def sampleArticleJob : ArticleScheduledJob := enqueuedArticle sampleArticle articleDue 1 articleNow

@[irreducible] def articleQueued : Store :=
  (enqueueArticle sampleArticle articleNow ⟨.initial, []⟩).2.store

@[irreducible] def articleClaimed : Store :=
  (claimDueArticles articleDue articleNow 5 ⟨articleQueued, []⟩).2.store

@[irreducible] def articleCompleted : Store :=
  (completeArticleWithHistory "article-job-1" 1 .failed articleNow none
    ⟨articleClaimed, []⟩).2.store

theorem article_enqueue :
    Sql.Runs (enqueueArticle sampleArticle articleNow) .initial (.ok sampleArticleJob)
      articleQueued := by
  unfold articleQueued
  refine Sql.runs_of_reply ?_
  decide +kernel

theorem article_claim : Sql.Runs (claimDueArticles articleDue articleNow 5) articleQueued
    (.ok [QueueTable.claimedJob articleNow sampleArticleJob]) articleClaimed := by
  unfold articleClaimed
  refine Sql.runs_of_reply ?_
  decide +kernel

theorem article_complete :
    Sql.Runs (completeArticleWithHistory "article-job-1" 1 .failed articleNow none) articleClaimed
      (.ok ({ sampleArticleJob with state := .failed, revision := 2 },
        articleRecord sampleArticleJob .juejin 1 .failed articleNow)) articleCompleted := by
  unfold articleCompleted
  refine Sql.runs_of_reply ?_
  decide +kernel

/-- Enqueue and claim. -/
theorem article_claimed : Trace ArticleStep .initial
    [.enqueue sampleArticle articleNow (.ok sampleArticleJob),
      .claim articleDue articleNow 5 (.ok [QueueTable.claimedJob articleNow sampleArticleJob])]
    articleClaimed := .cons article_enqueue (.single article_claim)

end MatriXpost
