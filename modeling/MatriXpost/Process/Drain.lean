/-
  File:      MatriXpost/Process/Drain.lean
  Subject:   THE SCHEDULER DRAINS ITS QUEUES. The daemon makes pass after pass, and between them
             jobs are enqueued; what is due is served in a number of passes known beforehand.

  * `serviceable_reachable`: every store the queues reach is one a pass can work on;
  * `backlog_video` and `backlog_article` say what one pass takes from what is due: the videos
    first, the articles with what the videos leave of the batch;
  * `standing_run` follows one job through the passes, which `Trace.idle_or_le` of `Lib.Trace`
    counts;
  * `scheduler_drains`: every job due at the start is served once, and ends with one record.
-/
import MatriXpost.Process.Quiet
import MatriXpost.Queue.Independent
import MatriXpost.Queue.RoundTrip

namespace MatriXpost

/-! ## 1. Stores that can be served -/

/-- The clock of a step lies in the years 0 to 9999. -/
def ClockReads : (Nat × QueueEvent) ⊕ ArticleEvent → Prop
  | .inl e => ∀ now, e.2.clock = some now → now.FourDigitYear
  | .inr e => e.clock.FourDigitYear

/-- What the article tables keep for a completion to write its record. -/
structure RecordsArticles (s : Store) : Prop where
  platforms : ∀ row ∈ s.articleJobs.rows, ∀ request,
    articleQueue.decode row.requestJson = .ok request → Lane.article.Recordable request
  ids : ∀ row ∈ s.articleHistory.rows, ∃ n ≤ s.articleHistorySequence, row.id = articleHistoryId n

section Reachable
variable {s s' : Store}

theorem records_raise {ids : List String} {next : PublishState} {now : DateTime}
    (h : RecordsArticles s) : RecordsArticles (articleQueue.raise s ids next now) := by
  refine ⟨fun row hrow => ?_, h.ids⟩
  rcases QueueTable.mem_raise (q := articleQueue) hrow with ⟨hold, -⟩ | ⟨old, hold, -, rfl⟩
  · exact h.platforms row hold
  · exact h.platforms old hold

/-- **Every operation on articles keeps what their completions need.** -/
theorem records_step {e : ArticleEvent} (h : RecordsArticles s) (hstep : ArticleStep s e s') :
    RecordsArticles s' := by
  cases e with
  | enqueue request now reply =>
    cases reply with
    | error e =>
      obtain ⟨n, rfl⟩ := enqueueArticle_error hstep
      exact ⟨h.platforms, h.ids⟩
    | ok job =>
      obtain ⟨due, row, jobs, hvalid, hdue, rfl, hto, hins, rfl⟩ := enqueueArticle_ok hstep
      refine ⟨fun row' hrow' => ?_, h.ids⟩
      change row' ∈ jobs.rows at hrow'
      rw [(Table.insert_eq_some hins).2, List.mem_append, List.mem_singleton] at hrow'
      rcases hrow' with hold | rfl
      · exact h.platforms row' hold
      · intro read hread
        rw [articleQueue.decode_encode (QueueTable.jobToRow_ok hto).1] at hread
        cases hread
        exact (PublishArticleRequest.validate_ok hvalid).2
  | claim dueThrough now limit reply =>
    cases reply with
    | error e =>
      have hs : s' = s := QueueTable.claim_error hstep
      rw [hs]
      exact h
    | ok claimed =>
      obtain ⟨-, -, -, rfl⟩ := QueueTable.claim_jobs (q := articleQueue) hstep
      exact records_raise h
  | complete id expected next now detail reply =>
    cases reply with
    | error e =>
      rw [completeArticleWithHistory_error hstep]
      exact h
    | ok pair =>
      obtain ⟨job, record⟩ := pair
      obtain ⟨row, current, platform, rows, -, -, -, -, -, -, -, rfl, hins, rfl⟩ :=
        completeArticleWithHistory_ok hstep
      refine ⟨(records_raise h).platforms, fun row' hrow' => ?_⟩
      change row' ∈ rows.rows at hrow'
      rw [(Table.insert_eq_some hins).2, List.mem_append, List.mem_singleton] at hrow'
      rcases hrow' with hold | rfl
      · obtain ⟨n, hle, hn⟩ := h.ids row' hold
        exact ⟨n, Nat.le_succ_of_le hle, hn⟩
      · exact ⟨s.articleHistorySequence + 1, le_rfl, rfl⟩
  | requeue id expected now reply =>
    cases reply with
    | error e =>
      rw [requeueArticleClaim_error hstep]
      exact h
    | ok job =>
      obtain ⟨row, current, -, -, -, -, rfl, -⟩ := QueueTable.requeue_ok hstep
      exact records_raise h

/-- **Every store the two queues reach can be served**, if their clocks lie in the years 0 to
    9999. -/
theorem serviceable_reachable {events : List ((Nat × QueueEvent) ⊕ ArticleEvent)} {w : QueueWorld}
    (h : Trace RepositoryStep .initial events w) (hclock : ∀ e ∈ events, ClockReads e) :
    Serviceable w.store := by
  rw [Split.either_trace queueStep_onFirst articleWorldStep_onFirst,
    articleWorld_trace] at h
  obtain ⟨hvideo, harticle, -⟩ := h
  let N : Set DateTime := {now | now.FourDigitYear}
  have hvideo' : Trace (QueueStepWithin Set.univ N) .initial (Split.firsts events)
      ⟨lanes.mix w.store Store.initial, w.pending⟩ := by
    refine (hvideo.restrict (I := fun _ => True) (P := fun e => e.2.Within Set.univ N) ?_ trivial
      fun _ _ _ _ _ _ => trivial).mono fun _ _ _ hs => ⟨hs.2.2, hs.2.1⟩
    intro e he
    exact ⟨hclock _ (Split.mem_firsts he), fun _ _ _ _ _ _ => trivial⟩
  have harticle' : Trace (ArticleStepWithin Set.univ N) .initial (Split.seconds events)
      (lanes.mix Store.initial w.store) := by
    refine (harticle.restrict (I := fun _ => True) (P := fun e => e.Within Set.univ N) ?_ trivial
      fun _ _ _ _ _ _ => trivial).mono fun _ _ _ hs => ⟨hs.2.2, hs.2.1⟩
    intro e he
    exact ⟨hclock _ (Split.mem_seconds he), fun _ _ _ _ _ _ => trivial⟩
  have hrecords : RecordsArticles (lanes.mix Store.initial w.store) :=
    harticle.invariant ⟨fun row hrow => (by cases hrow), fun row hrow => (by cases hrow)⟩
      fun _ _ _ hI hs => records_step hI hs
  refine ⟨fun l row hrow => ?_, hrecords.ids⟩
  cases l with
  | video =>
    obtain ⟨⟨job, hread⟩, -⟩ := queue_readable (fun _ hnow => hnow) hvideo' row hrow
    exact ⟨job, hread, trivial⟩
  | article =>
    obtain ⟨⟨job, hread⟩, -⟩ := articles_readable (fun _ hnow => hnow) harticle' row hrow
    exact ⟨job, hread, hrecords.platforms row hrow job.request
      (QueueTable.rowToJob_ok hread).2.2.2.1⟩

end Reachable

/-! ## 2. The daemon at work -/

/-- A pass of the scheduler, or what happens between two: a job is enqueued, an immediate dispatch
    recorded. -/
inductive DaemonEvent where
  | pass (dueThrough : LocalSchedule) (now : DateTime) (log : CallLog)
  | enqueue (l : Lane) (request : l.Request) (now : DateTime) (reply : Except DomainError l.Job)
  | recordDispatch (request : PublishRequest) (report : ProviderDispatchReport) (now : DateTime)
      (reply : Except DomainError HistoryRecord)

namespace DaemonEvent

def isPass : DaemonEvent → Bool
  | pass _ _ _ => true
  | _ => false

def clock : DaemonEvent → DateTime
  | pass _ now _ => now
  | enqueue _ _ now _ => now
  | recordDispatch _ _ now _ => now

/-- The jobs of a lane a pass claims. -/
def claims (l : Lane) : DaemonEvent → List String
  | pass _ _ log => claimedIn l log
  | _ => []

/-- One, if it enqueues a job of the lane due through a time. -/
def brings (l : Lane) (due : LocalSchedule) : DaemonEvent → Nat
  | enqueue l' _ _ (.ok job) =>
    if l' = l ∧ job.state = .queued ∧
      ((l'.queue.dueText job.dueAt).any fun text => text ≤ due.text) = true then 1 else 0
  | _ => 0

/-- The passes of a run look from `first` on, and no further than `last`. -/
def Between (first last : LocalSchedule) : DaemonEvent → Prop
  | pass dueThrough _ _ => first.text ≤ dueThrough.text ∧ dueThrough.text ≤ last.text
  | _ => True

end DaemonEvent

/-- Enqueues and records may fail; passes are alone and their statements do not. -/
def DaemonStep (articleRunner : Bool) (batchSize : Nat) (s : Store) (e : DaemonEvent) (s' : Store) :
    Prop :=
  match e with
  | .pass dueThrough now log => ∃ reply,
    QuietRuns (runSchedulerTickAt articleRunner dueThrough now batchSize) s log reply s'
  | .enqueue l request now reply => Sql.Runs (l.enqueue request now) s reply s'
  | .recordDispatch request report now reply =>
    Sql.Runs (recordProviderDispatchHistory request report now) s reply s'

/-- What happens between passes: no job is touched, no record taken away, and of each lane one job
    may come. -/
structure Meanwhile (s : Store) (e : DaemonEvent) (s' : Store) : Prop where
  rows : ∀ (l : Lane) (id : String) (row : JobRow), (l.queue.jobs s).find? id = some row →
    (l.queue.jobs s').find? id = some row
  history : ∀ l : Lane, ∃ more, l.history s' = l.history s ++ more
  backlog : ∀ l due, backlog l due s' ≤ backlog l due s + e.brings l due
  serviceable : Serviceable s'

section Meanwhile
variable {s s' : Store} {l : Lane} {now : DateTime}

/-- What leaves the jobs, the article history and its sequence alone. -/
theorem meanwhile_of_jobs {e : DaemonEvent} (hs : Serviceable s)
    (hjobs : s'.jobs = s.jobs ∧ s'.articleJobs = s.articleJobs)
    (harticles : s'.articleHistory = s.articleHistory ∧
      s'.articleHistorySequence = s.articleHistorySequence)
    (hhistory : ∃ more, s'.history.rows = s.history.rows ++ more) : Meanwhile s e s' := by
  have htables : ∀ l : Lane, l.queue.jobs s' = l.queue.jobs s := by
    intro l
    cases l with
    | video => exact hjobs.1
    | article => exact hjobs.2
  refine ⟨fun l id row hrow => by rw [htables, hrow], fun l => ?_, fun l due => ?_,
    fun l row hrow => ?_, ?_⟩
  · cases l with
    | video => exact hhistory
    | article =>
      have hrows : Lane.article.history s' = Lane.article.history s :=
        congrArg Table.rows harticles.1
      exact ⟨[], by rw [hrows, List.append_nil]⟩
  · rw [backlog, htables]
    exact Nat.le_add_right _ _
  · rw [htables] at hrow
    exact hs.rows l row hrow
  · rw [harticles.1, harticles.2]
    exact hs.ids

/-- A job that comes into its lane. -/
theorem meanwhile_inserted {request : l.Request} {job : l.Job} {row : JobRow}
    {jobs : Table JobRow.id} (hs : Serviceable s) (hto : l.queue.jobToRow job = .ok row)
    (hins : (l.queue.jobs s).insert row = some jobs) (hserves : l.Serves row)
    (hjobs : l.queue.jobs s' = jobs) (hothers : ∀ l', l' ≠ l → l'.queue.jobs s' = l'.queue.jobs s)
    (hhistory : ∀ l' : Lane, l'.history s' = l'.history s)
    (hids : ∀ row ∈ s'.articleHistory.rows, ∃ n ≤ s'.articleHistorySequence,
      row.id = articleHistoryId n) :
    Meanwhile s (.enqueue l request now (.ok job)) s' := by
  obtain ⟨-, -, hstate, hdue, -⟩ := QueueTable.jobToRow_ok hto
  have hrows := (Table.insert_eq_some hins).2
  refine ⟨fun l' id row' hrow' => ?_, fun l' => ⟨[], by rw [hhistory, List.append_nil]⟩,
    fun l' due => ?_, fun l' row' hrow' => ?_, hids⟩
  · by_cases hl : l' = l
    · subst hl
      rw [hjobs]
      exact Table.find?_insert_of_some hins hrow'
    · rw [hothers l' hl, hrow']
  · by_cases hl : l' = l
    · subst hl
      unfold backlog Table.count
      rw [hjobs, hrows, List.countP_append, List.countP_singleton]
      refine Nat.add_le_add_left ?_ _
      -- The row is in the backlog when the job is queued and due.
      change _ ≤ if l' = l' ∧ job.state = .queued ∧
        ((l'.queue.dueText job.dueAt).any fun text => text ≤ due.text) = true then 1 else 0
      by_cases hin : QueueTable.isDue due row = true
      · have hboth := hin
        unfold QueueTable.isDue at hboth
        rw [hstate, hdue, Bool.and_eq_true, decide_eq_true_eq, PublishState.db_inj] at hboth
        rw [if_pos hin, if_pos ⟨rfl, hboth.1, hboth.2⟩]
      · rw [if_neg hin]
        exact Nat.zero_le _
    · rw [backlog, hothers l' hl]
      exact Nat.le_add_right _ _
  · by_cases hl : l' = l
    · subst hl
      rw [hjobs, hrows, List.mem_append, List.mem_singleton] at hrow'
      rcases hrow' with hold | rfl
      · exact hs.rows l' row' hold
      · exact hserves
    · rw [hothers l' hl] at hrow'
      exact hs.rows l' row' hrow'

/-- A failed enqueue may have used a number of the sequence, and nothing else. -/
theorem enqueue_error {request : PublishRequest} {e : DomainError}
    (h : Sql.Runs (enqueue request now) s (.error e) s') :
    ∃ n, s' = { s with jobSequence := n } := by
  rw [enqueue_eq] at h
  rcases Sql.runs_bind_error h with hbegin | ⟨job, m, hbegin, hrest⟩
  · exact ⟨s.jobSequence, enqueueBegin_error hbegin⟩
  · obtain ⟨-, -, rfl⟩ := enqueueBegin_ok hbegin
    rcases Sql.runs_bind_error hrest with hinsert | ⟨u, m', -, hpure⟩
    · exact ⟨_, insertJob_error hinsert⟩
    · exact absurd (Sql.runs_pure.mp hpure).1 (by simp)

/-- **An enqueue brings at most its one job.** -/
theorem meanwhile_enqueue {request : l.Request} {reply : Except DomainError l.Job}
    (hs : Serviceable s) (hnow : now.FourDigitYear)
    (h : Sql.Runs (l.enqueue request now) s reply s') :
    Meanwhile s (.enqueue l request now reply) s' := by
  cases reply with
  | error e =>
    cases l with
    | video =>
      obtain ⟨n, rfl⟩ := enqueue_error h
      exact meanwhile_of_jobs hs ⟨rfl, rfl⟩ ⟨rfl, rfl⟩ ⟨[], (List.append_nil _).symm⟩
    | article =>
      have hrun : Sql.Runs (enqueueArticle request now) s (.error e) s' := h
      obtain ⟨n, rfl⟩ := enqueueArticle_error hrun
      exact meanwhile_of_jobs hs ⟨rfl, rfl⟩ ⟨rfl, rfl⟩ ⟨[], (List.append_nil _).symm⟩
  | ok job =>
    cases l with
    | video =>
      obtain ⟨row, jobs, hvalid, rfl, hto, hins, rfl⟩ := enqueue_ok h
      have hread := QueueTable.rowToJob_jobToRow hto (parseDue_of_validate hvalid) hnow
      refine meanwhile_inserted (l := .video) hs hto hins ⟨_, hread, trivial⟩ rfl (fun l' hne => ?_)
        (fun l' => by cases l' <;> rfl) hs.ids
      cases l' with
      | video => exact absurd rfl hne
      | article => rfl
    | article =>
      obtain ⟨due, row, jobs, hvalid, hdue, rfl, hto, hins, rfl⟩ := enqueueArticle_ok h
      obtain ⟨hschedule, hplatform⟩ := PublishArticleRequest.validate_ok hvalid
      have hread := QueueTable.rowToJob_jobToRow hto
        (LocalSchedule.parse_of_accepted (accepted_of_checkSchedule hschedule hdue)) hnow
      refine meanwhile_inserted (l := .article) hs hto hins ⟨_, hread, hplatform⟩ rfl
        (fun l' hne => ?_) (fun l' => by cases l' <;> rfl) hs.ids
      cases l' with
      | video => rfl
      | article => exact absurd rfl hne

/-- **What happens between passes.** -/
theorem daemon_meanwhile {articleRunner : Bool} {batchSize : Nat} {e : DaemonEvent}
    (hs : Serviceable s) (hnow : e.clock.FourDigitYear) (hpass : e.isPass = false)
    (h : DaemonStep articleRunner batchSize s e s') : Meanwhile s e s' := by
  cases e with
  | pass dueThrough now log => cases hpass
  | enqueue l request now reply => exact meanwhile_enqueue hs hnow h
  | recordDispatch request report now reply =>
    cases reply with
    | error e =>
      have he : s' = s := Sql.runs_transaction_error h
      rw [he]
      exact meanwhile_of_jobs hs ⟨rfl, rfl⟩ ⟨rfl, rfl⟩ ⟨[], (List.append_nil _).symm⟩
    | ok record =>
      obtain ⟨rowid, row, history, -, -, hins, rfl⟩ := recordProviderDispatchHistory_ok h
      exact meanwhile_of_jobs hs ⟨rfl, rfl⟩ ⟨rfl, rfl⟩ ⟨[row], (Table.insert_eq_some hins).2⟩

end Meanwhile

/-! ## 3. What a pass takes -/

section Taken
variable {l : Lane} {s s' : Store} {now : DateTime} {due first last : LocalSchedule}
  {limit batchSize : Nat} {configured articleRunner : Bool} {jobs : List l.Job} {log : CallLog}

theorem isDue_iff {row : JobRow} : QueueTable.isDue due row = true ↔
    row.state = PublishState.queued.db ∧ ∃ text, row.dueAt = some text ∧ text ≤ due.text := by
  unfold QueueTable.isDue
  rw [Bool.and_eq_true, decide_eq_true_eq]
  cases row.dueAt with
  | none => simp
  | some text => simp

/-- What is due is due later, too. -/
theorem isDue_mono {row : JobRow} (hle : first.text ≤ last.text)
    (h : QueueTable.isDue first row = true) : QueueTable.isDue last row = true := by
  obtain ⟨hstate, text, hdue, hthrough⟩ := isDue_iff.mp h
  exact isDue_iff.mpr ⟨hstate, text, hdue, hthrough.trans hle⟩

/-- What comes before a row that is due is due. -/
theorem isDue_of_before {row row' : JobRow} (hrow' : QueueTable.isDue last row' = true)
    (hrow : QueueTable.isDue first row = true)
    (hle : QueueTable.dueOrder row' ≤ QueueTable.dueOrder row) :
    QueueTable.isDue first row' = true := by
  obtain ⟨-, text, hdue, hthrough⟩ := isDue_iff.mp hrow
  obtain ⟨hstate, text', hdue', -⟩ := isDue_iff.mp hrow'
  refine isDue_iff.mpr ⟨hstate, text', hdue', le_trans ?_ hthrough⟩
  unfold QueueTable.dueOrder at hle
  rw [hdue', hdue, Prod.Lex.toLex_le_toLex] at hle
  rcases hle with hlt | ⟨heq, -⟩
  · exact hlt.le
  · exact heq.le

/-- A claim leaves what is due, less what it chose. -/
theorem LaneDone.left (h : LaneDone l configured due now limit s jobs log s')
    (due' : LocalSchedule) :
    backlog l due' s' +
        (l.queue.dueRows s due (min limit maxClaimBatch)).countP (QueueTable.isDue due') =
      backlog l due' s := by
  rw [h.leaves due', h.claimed]
  exact countP_without (l.queue.jobs s).nodup (QueueTable.dueRows_nodup due _)
    (fun row hrow => (mem_select hrow).1) (QueueTable.isDue due')

/-- Of what was due no later than the pass looks, it takes as much as its limit allows. -/
theorem LaneDone.took (h : LaneDone l configured due now limit s jobs log s')
    (hle : first.text ≤ due.text) :
    backlog l first s' + min (min limit maxClaimBatch) (backlog l first s) =
      backlog l first s := by
  have hleft := h.left first
  have hcount : (l.queue.dueRows s due (min limit maxClaimBatch)).countP (QueueTable.isDue first) =
      min (min limit maxClaimBatch) (backlog l first s) :=
    countP_select (fun row _ hrow => isDue_mono hle hrow) fun row _ row' _ hrow' hrow hbefore =>
      isDue_of_before hrow' hrow hbefore
  rwa [hcount] at hleft

/-- Of what is due through a later time, it takes all it chose. -/
theorem LaneDone.tookAll (h : LaneDone l configured due now limit s jobs log s')
    (hle : due.text ≤ last.text) : backlog l last s' + jobs.length = backlog l last s := by
  have hleft := h.left last
  have hall : (l.queue.dueRows s due (min limit maxClaimBatch)).countP (QueueTable.isDue last) =
      jobs.length := by
    have hlength := congrArg List.length h.claimed
    rw [List.length_map, List.length_map] at hlength
    rw [hlength]
    exact List.countP_eq_length.mpr fun row hrow => isDue_mono hle (mem_select hrow).2
  rwa [hall] at hleft

/-- **A pass takes its batch from the videos due, or leaves none.** -/
theorem backlog_video (h : PassDone articleRunner due now batchSize s log s')
    (hbatch : batchSize ≤ maxClaimBatch) (hle : first.text ≤ due.text) :
    backlog .video first s' = 0 ∨
      backlog .video first s' + batchSize ≤ backlog .video first s := by
  obtain ⟨videos, -, hvideos⟩ := h.lanes .video
  have htook := hvideos.took hle
  change _ + min (min batchSize maxClaimBatch) _ = _ at htook
  rw [min_eq_left hbatch] at htook
  omega

/-- **What it does not take from the videos it takes from the articles due, or leaves none.** -/
theorem backlog_article (h : PassDone articleRunner due now batchSize s log s')
    (hbatch : batchSize ≤ maxClaimBatch) (hfirst : first.text ≤ due.text)
    (hlast : due.text ≤ last.text) :
    backlog .article first s' = 0 ∨
      backlog .video last s' + backlog .article first s' + batchSize ≤
        backlog .video last s + backlog .article first s := by
  obtain ⟨videos, hclaims, hvideos⟩ := h.lanes .video
  obtain ⟨articles, -, harticles⟩ := h.lanes .article
  have htook := hvideos.tookAll hlast
  have htook' := harticles.took hfirst
  have hlimit : Lane.limit batchSize log .article = batchSize - videos.length := by
    unfold Lane.limit
    rw [hclaims, List.length_map]
  rw [hlimit, min_eq_left ((Nat.sub_le _ _).trans hbatch)] at htook'
  have hwithin : videos.length ≤ batchSize := by
    have hlength := congrArg List.length hvideos.claimed
    rw [List.length_map, List.length_map] at hlength
    rw [hlength]
    exact length_select.le.trans ((min_le_left _ _).trans (min_le_left _ _))
  omega

end Taken

/-! ## 4. One job through the passes -/

/-- The job of the row was claimed by one pass and no other, which dispatched it once and ended it
    with one record. -/
def ServedOnce (articleRunner : Bool) (l : Lane) (row : JobRow) (events : List DaemonEvent)
    (s : Store) : Prop :=
  (events.flatMap (·.claims l)).count row.id = 1 ∧
  ∃ dueThrough now log job, .pass dueThrough now log ∈ events ∧ row.id ∈ claimedIn l log ∧
    job.id = row.id ∧ job.revision = row.revision + 1 ∧
    l.queue.decode row.requestJson = .ok job.request ∧
    Served l (l.configured articleRunner) now job log s

/-- The job of the row waits as it was, or has been served. -/
def Standing (articleRunner : Bool) (l : Lane) (row : JobRow) (events : List DaemonEvent)
    (s : Store) : Prop :=
  (l.queue.jobs s).find? row.id = some row ∧ (events.flatMap (·.claims l)).count row.id = 0 ∨
    ServedOnce articleRunner l row events s

section Standing
variable {l : Lane} {s s' : Store} {row : JobRow} {articleRunner : Bool} {batchSize : Nat}
  {events : List DaemonEvent} {e : DaemonEvent}

theorem count_claims_snoc : ((events ++ [e]).flatMap (·.claims l)).count row.id =
    (events.flatMap (·.claims l)).count row.id + (e.claims l).count row.id := by
  rw [List.flatMap_append, List.count_append, List.flatMap_singleton]

/-- A served job is not claimed again, and stays. -/
theorem ServedOnce.step (h : ServedOnce articleRunner l row events s)
    (hclaims : (l.queue.jobs s).find? row.id = (l.queue.jobs s').find? row.id ∧
      row.id ∉ e.claims l)
    (hhistory : ∃ more, l.history s' = l.history s ++ more) :
    ServedOnce articleRunner l row (events ++ [e]) s' := by
  obtain ⟨hcount, dueThrough, now, log, job, hmem, hclaimed, hid, hrevision, hrequest, hserved⟩ := h
  refine ⟨?_, dueThrough, now, log, job, List.mem_append_left _ hmem, hclaimed, hid, hrevision,
    hrequest, hserved.of_row ?_ hhistory⟩
  · rw [count_claims_snoc, hcount, List.count_eq_zero_of_not_mem hclaims.2]
  · rw [hid]
    exact hclaims.1.symm

/-- The row of a served job is in a terminal state. -/
theorem ServedOnce.terminal (h : ServedOnce articleRunner l row events s) :
    ∃ (stored : JobRow) (state : PublishState), (l.queue.jobs s).find? row.id = some stored ∧
      stored.state = state.db ∧ state.terminal = true := by
  obtain ⟨-, -, -, -, job, -, -, hid, -, -, before, part, after, state, record, -, -, hstands⟩ := h
  obtain ⟨hterm, -, ⟨stored, hrow, hstate, -⟩, -⟩ := hstands
  exact ⟨stored, state, hid ▸ hrow, hstate, hterm⟩

theorem standing_pass {dueThrough : LocalSchedule} {now : DateTime} {log : CallLog}
    (h : Standing articleRunner l row events s)
    (hdone : PassDone articleRunner dueThrough now batchSize s log s') :
    Standing articleRunner l row (events ++ [.pass dueThrough now log]) s' := by
  obtain ⟨jobs, hclaims, hlane⟩ := hdone.lanes l
  obtain ⟨more, hhistory, -⟩ := hlane.history
  have hothers : row.id ∉ claimedIn l log →
      (l.queue.jobs s').find? row.id = (l.queue.jobs s).find? row.id := by
    intro hnot
    rw [hclaims] at hnot
    exact hlane.others row.id hnot
  rcases h with ⟨hrow, hcount⟩ | hserved
  · by_cases hclaimed : row.id ∈ claimedIn l log
    · right
      have hin : row.id ∈ jobs.map (·.id) := hclaims ▸ hclaimed
      obtain ⟨job, hjob, hid⟩ := List.mem_map.mp hin
      obtain ⟨stored, hstored, -, hrevision, hrequest⟩ := hlane.stood job hjob
      rw [hid, hrow] at hstored
      cases hstored
      refine ⟨?_, dueThrough, now, log, job, by simp, hclaimed, hid, hrevision, hrequest,
        hlane.served job hjob⟩
      have hn : (claimedIn l log).Nodup := by
        rw [hclaims, hlane.claimed]
        exact QueueTable.dueRows_nodup _ _
      rw [count_claims_snoc, hcount]
      exact congrArg (0 + ·) (List.count_eq_one_of_mem hn hclaimed)
    · left
      refine ⟨(hothers hclaimed).trans hrow, ?_⟩
      rw [count_claims_snoc, hcount]
      exact congrArg (0 + ·) (List.count_eq_zero_of_not_mem hclaimed)
  · right
    have hnot : row.id ∉ claimedIn l log := by
      intro hclaimed
      have hin : row.id ∈ jobs.map (·.id) := hclaims ▸ hclaimed
      obtain ⟨job, hjob, hid⟩ := List.mem_map.mp hin
      obtain ⟨stored, hstored, hqueued, -⟩ := hlane.stood job hjob
      obtain ⟨stored', state, hstored', hstate, hterm⟩ := hserved.terminal
      rw [hid, hstored'] at hstored
      cases hstored
      rw [hstate, PublishState.db_inj] at hqueued
      rw [hqueued] at hterm
      cases hterm
    exact hserved.step ⟨(hothers hnot).symm, hnot⟩ ⟨more, hhistory⟩

theorem standing_meanwhile (h : Standing articleRunner l row events s) (hpass : e.isPass = false)
    (hmean : Meanwhile s e s') : Standing articleRunner l row (events ++ [e]) s' := by
  have hnone : e.claims l = [] := by
    cases e with
    | pass dueThrough now log => cases hpass
    | enqueue l' request now reply => rfl
    | recordDispatch request report now reply => rfl
  rcases h with ⟨hrow, hcount⟩ | hserved
  · left
    refine ⟨hmean.rows l row.id row hrow, ?_⟩
    rw [count_claims_snoc, hcount, hnone]
    rfl
  · right
    obtain ⟨stored, state, hstored, -⟩ := hserved.terminal
    refine hserved.step ⟨?_, by rw [hnone]; exact List.not_mem_nil⟩ (hmean.history l)
    rw [hstored, hmean.rows l row.id stored hstored]

end Standing

/-! ## 5. All of them -/

section Drains
variable {l : Lane} {s s' : Store} {row : JobRow} {articleRunner : Bool} {batchSize : Nat}
  {before events : List DaemonEvent} {first last : LocalSchedule}

/-- Steps from stores that can be served, at clocks that read, within the times given. -/
def OrderlyStep (articleRunner : Bool) (batchSize : Nat) (first last : LocalSchedule) (s : Store)
    (e : DaemonEvent) (s' : Store) : Prop :=
  Serviceable s ∧ (e.clock.FourDigitYear ∧ e.Between first last) ∧
    DaemonStep articleRunner batchSize s e s'

/-- A step is a pass, done, or what happens meanwhile. -/
theorem orderly_cases {e : DaemonEvent}
    (h : OrderlyStep articleRunner batchSize first last s e s') :
    (∃ dueThrough now log, e = .pass dueThrough now log ∧ first.text ≤ dueThrough.text ∧
      dueThrough.text ≤ last.text ∧ PassDone articleRunner dueThrough now batchSize s log s') ∨
    e.isPass = false ∧ Meanwhile s e s' := by
  obtain ⟨hs, ⟨hclock, hbetween⟩, hstep⟩ := h
  cases hpass : e.isPass with
  | false => exact .inr ⟨rfl, daemon_meanwhile hs hclock hpass hstep⟩
  | true =>
    cases e with
    | pass dueThrough now log =>
      obtain ⟨reply, hrun⟩ := hstep
      exact .inl ⟨dueThrough, now, log, rfl, hbetween.1, hbetween.2, (quiet_pass hs hclock hrun).2⟩
    | enqueue l request now reply => cases hpass
    | recordDispatch request report now reply => cases hpass

theorem daemon_serviceable {e : DaemonEvent}
    (h : OrderlyStep articleRunner batchSize first last s e s') : Serviceable s' := by
  rcases orderly_cases h with ⟨dueThrough, now, log, -, -, -, hdone⟩ | ⟨-, hmean⟩
  · exact hdone.serviceable
  · exact hmean.serviceable

/-- **Through a whole run a job waits as it was, or has been served.** -/
theorem standing_run (h : Trace (OrderlyStep articleRunner batchSize first last) s events s')
    (hrow : Standing articleRunner l row before s) :
    Standing articleRunner l row (before ++ events) s' := by
  induction h generalizing before with
  | nil =>
    rw [List.append_nil]
    exact hrow
  | @cons s s₁ s' e rest hs _ ih =>
    rw [List.append_cons]
    refine ih ?_
    rcases orderly_cases hs with ⟨dueThrough, now, log, rfl, -, -, hdone⟩ | ⟨hpass, hmean⟩
    · exact standing_pass hrow hdone
    · exact standing_meanwhile hrow hpass hmean

/-- A job that is due is in the backlog while it waits. -/
theorem standing_of_idle (h : Standing articleRunner l row events s)
    (hdue : QueueTable.isDue first row = true) (hidle : backlog l first s = 0) :
    ServedOnce articleRunner l row events s := by
  rcases h with ⟨hrow, -⟩ | hserved
  · exact absurd hdue (List.countP_eq_zero.mp hidle row (Table.find?_mem hrow))
  · exact hserved

/-- **Once its lane runs out of due jobs, or its passes have covered them, a due job is served.** -/
theorem served_of_idle_or_le (load : Store → Nat) {brings : DaemonEvent → Nat}
    (h : Trace (OrderlyStep articleRunner batchSize first last) s events s')
    (hrow : (l.queue.jobs s).find? row.id = some row) (hdue : QueueTable.isDue first row = true)
    (hzero : ∀ m, load m = 0 → backlog l first m = 0)
    (hturn : ∀ s₁ dueThrough now log s₂, first.text ≤ dueThrough.text →
      dueThrough.text ≤ last.text → PassDone articleRunner dueThrough now batchSize s₁ log s₂ →
      backlog l first s₂ = 0 ∨ load s₂ + batchSize ≤ load s₁)
    (hother : ∀ s₁ e s₂, Meanwhile s₁ e s₂ → load s₂ ≤ load s₁ + brings e)
    (hpasses : load s + (events.map brings).sum ≤ batchSize * events.countP DaemonEvent.isPass) :
    ServedOnce articleRunner l row events s' := by
  have hstart : Standing articleRunner l row [] s := .inl ⟨hrow, rfl⟩
  have hcount := h.idle_or_le (fun m => backlog l first m = 0) load DaemonEvent.isPass brings
    batchSize
    (fun s₁ e s₂ hs hpass => by
      rcases orderly_cases hs with ⟨dueThrough, now, log, -, hle, hle', hdone⟩ | ⟨hno, -⟩
      · exact hturn s₁ dueThrough now log s₂ hle hle' hdone
      · rw [hno] at hpass
        cases hpass)
    (fun s₁ e s₂ hs hpass => by
      rcases orderly_cases hs with ⟨dueThrough, now, log, rfl, -⟩ | ⟨-, hmean⟩
      · cases hpass
      · exact hother s₁ e s₂ hmean)
  rcases hcount with ⟨es₁, es₂, m, rfl, h₁, hidle, h₂⟩ | hle
  · have hserved := standing_of_idle (standing_run h₁ hstart) hdue hidle
    rcases standing_run h₂ (.inr hserved) with ⟨-, hnone⟩ | hdone
    · -- What was claimed by then is still counted.
      have hone := hserved.1
      rw [List.nil_append] at hone hnone
      rw [List.flatMap_append, List.count_append, hone] at hnone
      omega
    · exact hdone
  · have hload : load s' = 0 := by omega
    exact standing_of_idle (standing_run h hstart) hdue (hzero s' hload)

end Drains

/-- **The scheduler drains its queues.** From any store the two queues reach, at clocks of the years
    0 to 9999, let the daemon make passes that nothing disturbs, each looking at least as far as
    `first` and no further than `last`, while videos and articles are enqueued between them.
    Once the passes together have room for the videos due through `first`, with those that came,
    each of these has been served exactly once; and once they have room for the videos due through
    `last` besides, so has each article due through `first`. Whatever the services answer, a
    further pass comes to its end. -/
theorem scheduler_drains {articleRunner : Bool} {batchSize : Nat}
    (hbatch : batchSize ≤ maxClaimBatch) {past : List ((Nat × QueueEvent) ⊕ ArticleEvent)}
    {w : QueueWorld} (hreach : Trace RepositoryStep .initial past w)
    (hpast : ∀ e ∈ past, ClockReads e) {events : List DaemonEvent} {s' : Store}
    (h : Trace (DaemonStep articleRunner batchSize) w.store events s')
    (hclock : ∀ e ∈ events, e.clock.FourDigitYear) {first last : LocalSchedule}
    (hbetween : ∀ e ∈ events, e.Between first last) :
    (backlog .video first w.store + (events.map (·.brings .video first)).sum ≤
        batchSize * events.countP DaemonEvent.isPass →
      ∀ row ∈ w.store.jobs.rows, QueueTable.isDue first row = true →
        ServedOnce articleRunner .video row events s') ∧
    (backlog .video last w.store + backlog .article first w.store +
        (events.map fun e => e.brings .video last + e.brings .article first).sum ≤
        batchSize * events.countP DaemonEvent.isPass →
      ∀ row ∈ w.store.articleJobs.rows, QueueTable.isDue first row = true →
        ServedOnce articleRunner .article row events s') ∧
    ∀ (services : Services) (due : LocalSchedule) (now : DateTime), now.FourDigitYear →
      ∃ log s'',
        QuietRuns (runSchedulerTickAt articleRunner due now batchSize) s' log (.ok ()) s'' ∧
        ∀ c ∈ log, AnsweredBy services c := by
  have hs : Serviceable w.store := serviceable_reachable hreach hpast
  have hrun : Trace (OrderlyStep articleRunner batchSize first last) w.store events s' :=
    h.restrict (fun e he => ⟨hclock e he, hbetween e he⟩) hs fun s₁ e s₂ he hI hstep =>
      daemon_serviceable ⟨hI, he, hstep⟩
  have hend : Serviceable s' := hrun.invariant hs fun s₁ e s₂ _ hstep => daemon_serviceable hstep
  refine ⟨fun hpasses row hrow hdue => ?_, fun hpasses row hrow hdue => ?_,
    fun services due now hnow => quiet_pass_exists services hend hnow⟩
  · exact served_of_idle_or_le (l := .video) (backlog .video first) hrun
      (Table.find?_of_mem hrow) hdue (fun m hzero => hzero)
      (fun _ _ _ _ _ hle _ hdone => backlog_video hdone hbatch hle)
      (fun _ _ _ hmean => hmean.backlog .video first) hpasses
  · refine served_of_idle_or_le (l := .article)
      (fun m => backlog .video last m + backlog .article first m) hrun
      (Table.find?_of_mem hrow) hdue (fun m hzero => by omega)
      (fun _ _ _ _ _ hle hle' hdone => backlog_article hdone hbatch hle hle')
      (fun s₁ e s₂ hmean => ?_) hpasses
    have hvideo := hmean.backlog .video last
    have harticle := hmean.backlog .article first
    omega

/-! ## 6. A run, evaluated -/

/-- The enqueued sample as a run of the two queues. -/
theorem sample_repository : Trace RepositoryStep .initial
    [.inl (1, .allocate scheduledRequest sampleNow (.ok sampleJob)),
      .inl (1, .insert sampleJob (.ok ()))] ⟨sampleQueued, []⟩ :=
  .cons (.first (.allocated sample_allocate)) (.single (.first (.insert [] [] rfl sample_insert)))

theorem sample_reads : ∀ e ∈ ([.inl (1, .allocate scheduledRequest sampleNow (.ok sampleJob)),
    .inl (1, .insert sampleJob (.ok ()))] : List ((Nat × QueueEvent) ⊕ ArticleEvent)),
    ClockReads e := by
  have hnow : NaiveDateTime.FourDigitYear sampleNow := by decide
  intro e he
  simp only [List.mem_cons, List.not_mem_nil, or_false] at he
  rcases he with rfl | rfl
  · intro now hclock
    cases hclock
    exact hnow
  · intro now hclock
    cases hclock

/-- Providers that queue all they are given, and an article runner that refuses it. -/
def queueingServices : Services where
  answer
    | .video, request => (queueingRegistry.dispatchAll request).2
    | .article, _ => .error .emptyArticleContent
  dispatches l request := by
    cases l with
    | video => exact ⟨queueingRegistry, rfl⟩
    | article => trivial

theorem sample_backlog : backlog .video sampleDue sampleQueued = 1 := by
  unfold sampleQueued
  decide +kernel

theorem sample_row : ∃ row ∈ sampleQueued.jobs.rows, row.id = "job-1" ∧
    QueueTable.isDue sampleDue row = true := by
  obtain ⟨row, jobs, hto, hins, he⟩ := insertJob_ok sample_insert
  obtain ⟨-, hid, hstate, hdue, -⟩ := QueueTable.jobToRow_ok hto
  refine ⟨row, ?_, hid, isDue_iff.mpr ⟨hstate, sampleDue.text, hdue, le_rfl⟩⟩
  rw [he]
  change row ∈ jobs.rows
  rw [(Table.insert_eq_some hins).2]
  exact List.mem_append_right _ (List.mem_singleton_self row)

/-- One pass serves the job enqueued before it. -/
theorem scheduler_drains_sample : ∃ log s' row, row.id = "job-1" ∧
    ServedOnce true .video row [.pass sampleDue sampleNow log] s' := by
  have hnow : NaiveDateTime.FourDigitYear sampleNow := by decide
  obtain ⟨log, s', hpass, -⟩ := @quiet_pass_exists _ _ sampleDue 5 true queueingServices
    (serviceable_reachable sample_repository sample_reads) hnow
  obtain ⟨row, hrow, hid, hdue⟩ := sample_row
  have hrun : Trace (DaemonStep true 5) sampleQueued [.pass sampleDue sampleNow log] s' :=
    .single ⟨.ok (), hpass⟩
  have hbetween : ∀ e ∈ [DaemonEvent.pass sampleDue sampleNow log],
      e.Between sampleDue sampleDue := by simp [DaemonEvent.Between]
  refine ⟨log, s', row, hid, (scheduler_drains (by decide) sample_repository sample_reads hrun
    (by simpa [DaemonEvent.clock] using hnow) hbetween).1 ?_ row hrow hdue⟩
  simp [sample_backlog, DaemonEvent.brings, DaemonEvent.isPass]

end MatriXpost
