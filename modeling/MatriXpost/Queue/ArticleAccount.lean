/-
  File:      MatriXpost/Queue/ArticleAccount.lean
  Subject:   THE ACCOUNT OF THE ARTICLE QUEUE, over every run of its operations.

  * `accounted_step`: every operation keeps the number of history rows equal to the number of
    jobs that have ended;
  * `article_accounting`: the account of every run, what a completion does, that a failing
    operation changes neither table, and that a job that has ended is never changed again.
-/
import MatriXpost.Queue.ArticleRun

namespace MatriXpost

section Steps
variable {s s' : Store}

/-! ## 1. Counting jobs that have ended -/

/-- As many rows of history as jobs that have ended. -/
def Accounted (s : Store) : Prop := s.articleHistory.rows.length = s.articleJobs.count ended

/-- A raise between states that are not terminal ends no job. -/
theorem count_raise {ids : List String} {src next : PublishState} {now : DateTime}
    (hsrc : src.terminal = false) (hnext : next.terminal = false)
    (hrows : ∀ id ∈ ids, ∃ row, s.articleJobs.find? id = some row ∧ row.state = src.db) :
    (articleQueue.raise s ids next now).articleJobs.count ended = s.articleJobs.count ended := by
  refine Table.count_update_of_iff (QueueTable.advanced_id next now) fun row hrow hid => ?_
  obtain ⟨row', hfind, hstate⟩ := hrows row.id (by simpa using hid)
  have he : row' = row := Option.some.inj (hfind.symm.trans (Table.find?_of_mem hrow))
  rw [he] at hstate
  rw [ended_of_state (QueueTable.advanced_state next now row), ended_of_state hstate, hsrc, hnext]

/-- A completion ends one job. -/
theorem count_complete {id : String} {row : JobRow} {next : PublishState} {now : DateTime}
    (hrow : s.articleJobs.find? id = some row) (hdisp : row.state = PublishState.dispatching.db)
    (hterm : next.terminal = true) :
    (articleQueue.raise s [id] next now).articleJobs.count ended =
      s.articleJobs.count ended + 1 := by
  obtain ⟨before, after, hrows, hrows'⟩ := Table.update_at (QueueTable.advanced_id next now) hrow
  have hraise : (articleQueue.raise s [id] next now).articleJobs.rows =
      before ++ QueueTable.advanced next now row :: after := by
    rw [← hrows']
    unfold QueueTable.raise
    simp only [List.mem_singleton]
    rfl
  have hnew : ended (QueueTable.advanced next now row) = true := by
    rw [ended_of_state (QueueTable.advanced_state next now row), hterm]
  have hold : ¬ ended row = true := by
    rw [ended_of_state hdisp]
    decide
  unfold Table.count
  rw [hraise, hrows, List.countP_append, List.countP_append, List.countP_cons_of_pos hnew,
    List.countP_cons_of_neg hold]
  omega

/-- **Every operation keeps the account.** -/
theorem accounted_step {e : ArticleEvent} (hI : Accounted s) (h : ArticleStep s e s') :
    Accounted s' := by
  unfold Accounted at hI ⊢
  cases articleStep_cases h with
  | same hjobs hhist => rw [hjobs, hhist, hI]
  | inserted request due rowid row hvalid hdue he hto hins hhist =>
    have hstate := (QueueTable.jobToRow_ok hto).2.2.1
    have hnot : ended row = false := by
      rw [ended_of_state hstate]
      rfl
    rw [hhist, hI, Table.count, Table.count, (Table.insert_eq_some hins).2, List.countP_append]
    simp [hnot]
  | raised ids src next hsrc hnext hrows hjobs hhist =>
    rw [hhist, hjobs, count_raise hsrc hnext hrows, hI]
  | completed id row next record hrow hdisp hterm hjobs hhist =>
    rw [hhist, hjobs, count_complete hrow hdisp hterm, List.length_append, hI,
      List.length_singleton]

end Steps

/-- **The account of the article queue.** In every run:
    the history has as many rows as jobs have ended;
    in every further step a completion that succeeds moves one claimed job and adds its one row,
    and an operation that fails changes neither table;
    and in every further run a job that has ended stays as it is. -/
theorem article_accounting {events : List ArticleEvent} {s : Store}
    (h : Trace ArticleStep .initial events s) :
    s.articleHistory.rows.length = s.articleJobs.count ended ∧
    (∀ id expected next now detail job record s',
      ArticleStep s (.complete id expected next now detail (.ok (job, record))) s' →
      CompletesOne s s' id expected next now record) ∧
    (∀ e s', ArticleStep s e s' → e.succeeded = false →
      s'.articleJobs = s.articleJobs ∧ s'.articleHistory = s.articleHistory) ∧
    (∀ events' s', Trace ArticleStep s events' s' → ∀ id row,
      s.articleJobs.find? id = some row → ended row = true →
      s'.articleJobs.find? id = some row) := by
  refine ⟨?_, fun id expected next now detail job record s' hstep => completeArticle_one hstep,
    fun e s' hstep hfail => articleStep_error hstep hfail,
    fun events' s' h' id row hrow hended => ?_⟩
  · exact h.invariant (I := Accounted) rfl fun s₁ e s₂ hI hstep => accounted_step hI hstep
  · exact h'.invariant (I := fun s => s.articleJobs.find? id = some row) hrow
      fun s₁ e s₂ hI hstep => articleStep_ended hstep hI hended

theorem article_accounting_sample :
    CompletesOne articleClaimed articleCompleted "article-job-1" 1 .failed articleNow
      (articleRecord sampleArticleJob .juejin 1 .failed articleNow) :=
  (article_accounting article_claimed).2.1 _ _ _ _ _ _ _ _ article_complete

end MatriXpost
