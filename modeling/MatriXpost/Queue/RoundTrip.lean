/-
  File:      MatriXpost/Queue/RoundTrip.lean
  Subject:   A JOB IS READ AS IT WAS ENQUEUED, video or article, for as long as its row stands.

  * `Lane.Durable job row`: wherever the row stands under the job's id, loading the job answers it
    as it is, and a claim that takes it answers it claimed;
  * `Lane.durable_iff`: this holds exactly when the job's time of update has a year of four
    digits. The text written for another year is refused on reading;
  * `jobs_round_trip`: the round trip of `enqueue` and `enqueue_article`.
-/
import MatriXpost.Queue.Readable
import MatriXpost.Process.Calls

namespace MatriXpost

/-! ## 1. What an enqueue writes -/

/-- What point queries read after a job was inserted. -/
theorem find?_inserted {R δ : Type} {q : QueueTable R δ} {job : Job R δ} {row : JobRow}
    {table jobs : Table JobRow.id} (hto : q.jobToRow job = .ok row)
    (hins : table.insert row = some jobs) :
    jobs.find? job.id = some row ∧ ∀ k, k ≠ job.id → jobs.find? k = table.find? k := by
  have hid := (QueueTable.jobToRow_ok hto).2.1
  refine ⟨?_, fun k hk => ?_⟩
  · rw [Table.find?_insert hins, if_pos hid]
  · rw [Table.find?_insert hins, if_neg (by rw [hid]; exact hk.symm)]

/-- A job that can be written goes under an id that is free. -/
theorem exists_inserted {R δ : Type} {q : QueueTable R δ} {job : Job R δ} {requestJson : Json}
    {table : Table JobRow.id} (hjson : q.encode job.request = .ok requestJson)
    (hfree : table.find? job.id = none) :
    ∃ row jobs, q.jobToRow job = .ok row ∧ table.insert row = some jobs := by
  obtain ⟨row, hto⟩ := QueueTable.exists_jobToRow hjson
  rw [← (QueueTable.jobToRow_ok hto).2.1] at hfree
  obtain ⟨jobs, hins⟩ := Table.insert_of_find?_none hfree
  exact ⟨row, jobs, hto, hins⟩

section Enqueue
variable {s s' : Store} {now : DateTime}

/-- A successful enqueue inserts one job under a new id. -/
theorem enqueue_ok {request : PublishRequest} {job : ScheduledJob}
    (h : Sql.Runs (enqueue request now) s (.ok job) s') :
    ∃ row jobs, request.validate = .ok () ∧
      job = enqueuedJob request ("job-" ++ toString (s.jobSequence + 1)) now ∧
      videoQueue.jobToRow job = .ok row ∧ s.jobs.insert row = some jobs ∧
      s' = { s with jobs := jobs, jobSequence := s.jobSequence + 1 } := by
  rw [enqueue_eq] at h
  obtain ⟨begun, s₁, hbegin, h₁⟩ := Sql.runs_bind_ok h
  obtain ⟨hvalid, rfl, rfl⟩ := enqueueBegin_ok hbegin
  obtain ⟨u, s₂, hinsert, h₂⟩ := Sql.runs_bind_ok h₁
  obtain ⟨row, jobs, hto, hins, rfl⟩ := insertJob_ok hinsert
  obtain ⟨he, rfl⟩ := Sql.runs_pure.mp h₂
  cases he
  exact ⟨row, jobs, hvalid, rfl, hto, hins, rfl⟩

theorem enqueue_clean {request : PublishRequest} (hvalid : request.validate = .ok ())
    (hutf8 : request.source.IsUtf8)
    (hfree : s.jobs.find? ("job-" ++ toString (s.jobSequence + 1)) = none) :
    ∃ job s', Sql.Clean (enqueue request now) s (.ok job) s' := by
  have hsafe : request.runnerSafe.source.IsUtf8 := hutf8
  obtain ⟨requestJson, hjson⟩ := PublishRequest.exists_toJson hsafe
  obtain ⟨row, jobs, hto, hins⟩ := @exists_inserted _ _ videoQueue
    (enqueuedJob request ("job-" ++ toString (s.jobSequence + 1)) now) _ _ hjson hfree
  unfold enqueue
  rw [hvalid]
  refine ⟨_, _, (Sql.clean_lift _ _).bind (Sql.Clean.bind
    ((Sql.clean_execute nextJob s).bind (Sql.clean_pure _ _)) (Sql.Clean.bind
      (insertJob_clean hto hins) (Sql.clean_pure _ _)))⟩

theorem enqueueArticle_clean {request : PublishArticleRequest} {due : LocalSchedule}
    (hvalid : request.validate = .ok ()) (hdue : request.scheduledAt = some due)
    (hutf8 : ∀ path, request.file = some path → ∃ text, path = .utf8 text)
    (hfree : s.articleJobs.find? ("article-job-" ++ toString (s.articleJobSequence + 1)) = none) :
    ∃ job s', Sql.Clean (enqueueArticle request now) s (.ok job) s' := by
  have hsafe : ∀ path, request.runnerSafe.file = some path → ∃ text, path = .utf8 text := hutf8
  obtain ⟨requestJson, hjson⟩ := PublishArticleRequest.exists_toJson hsafe
  obtain ⟨row, jobs, hto, hins⟩ := @exists_inserted _ _ articleQueue
    (enqueuedArticle request due (s.articleJobSequence + 1) now) _ _ hjson hfree
  unfold enqueueArticle
  rw [hvalid, hdue]
  refine ⟨_, _, (Sql.clean_lift _ _).bind (Sql.Clean.bind (Sql.clean_lift (.ok due) _)
    (Sql.Clean.bind (Sql.clean_execute nextArticleJob s) (Sql.Clean.bind
      (insertJob_clean hto hins) (Sql.clean_pure _ _))))⟩

end Enqueue

namespace Lane

/-! ## 2. Enqueue, load and claim of a lane -/

/-- `enqueue` and `enqueue_article`. -/
def enqueue : (l : Lane) → l.Request → DateTime → Sql DomainError Store l.Job
  | video => MatriXpost.enqueue
  | article => enqueueArticle

/-- `Repository::job`, and its counterpart for articles. -/
def job (l : Lane) (id : String) : Sql DomainError Store (Option l.Job) := l.queue.loadJob id

/-- `claim_due` and `claim_due_articles`. -/
def claimDue (l : Lane) (dueThrough : LocalSchedule) (now : DateTime) (limit : Nat) :
    Sql DomainError Store (List l.Job) := l.queue.claim dueThrough now limit

/-- A valid request with paths that are text; an article is scheduled. -/
def Enqueueable : (l : Lane) → l.Request → Prop
  | video => fun request => request.validate = .ok () ∧ request.source.IsUtf8
  | article => fun request => request.validate = .ok () ∧ request.scheduledAt.isSome ∧
      ∀ path, request.file = some path → ∃ text, path = .utf8 text

/-- The id the next job goes under. -/
def nextId : Lane → Store → String
  | video => fun s => "job-" ++ toString (s.jobSequence + 1)
  | article => fun s => "article-job-" ++ toString (s.articleJobSequence + 1)

/-- The job has the runner-safe request, its due time, the initial state, and this clock. -/
def IsEnqueued : (l : Lane) → l.Request → DateTime → l.Job → Prop
  | video => fun request now job =>
    job = ⟨job.id, request.runnerSafe, if request.draft then .draft else .queued,
      request.scheduledAt, 0, now⟩
  | article => fun request now job => ∃ due, request.scheduledAt = some due ∧
      job = ⟨job.id, request.runnerSafe, .queued, due, 0, now⟩

/-- Every stored job but these is as it was, those of the other lane among them. -/
def OthersKept (l : Lane) (ids : List String) (s s' : Store) : Prop :=
  (∀ k, k ∉ ids → (l.queue.jobs s').find? k = (l.queue.jobs s).find? k) ∧
    ∀ l', l' ≠ l → l'.queue.jobs s' = l'.queue.jobs s

variable {l : Lane} {s s' : Store} {request : l.Request} {now : DateTime} {job : l.Job}

/-- **What a successful enqueue wrote.** -/
theorem enqueue_ok (h : Sql.Runs (l.enqueue request now) s (.ok job) s') :
    l.IsEnqueued request now job ∧ job.id = l.nextId s ∧
      l.queue.parseDue (l.queue.dueText job.dueAt) = .ok job.dueAt ∧
      ∃ row, l.queue.jobToRow job = .ok row ∧ (l.queue.jobs s').find? job.id = some row ∧
        l.OthersKept [job.id] s s' := by
  cases l with
  | video =>
    obtain ⟨row, jobs, hvalid, rfl, hto, hins, rfl⟩ := MatriXpost.enqueue_ok h
    obtain ⟨hrow, hothers⟩ := find?_inserted hto hins
    refine ⟨rfl, rfl, parseDue_of_validate hvalid, row, hto, hrow, fun k hk => ?_, ?_⟩
    · exact hothers k (by simpa using hk)
    · intro l' hne
      cases l' with
      | video => exact absurd rfl hne
      | article => rfl
  | article =>
    obtain ⟨due, row, jobs, hvalid, hdue, rfl, hto, hins, rfl⟩ := enqueueArticle_ok h
    have hacc := accepted_of_checkSchedule (PublishArticleRequest.validate_ok hvalid).1 hdue
    obtain ⟨hrow, hothers⟩ := find?_inserted hto hins
    refine ⟨⟨due, hdue, rfl⟩, rfl, LocalSchedule.parse_of_accepted hacc, row, hto, hrow,
      fun k hk => ?_, ?_⟩
    · exact hothers k (by simpa using hk)
    · intro l' hne
      cases l' with
      | video => rfl
      | article => exact absurd rfl hne

/-- **A request that can be enqueued is, under a free id and without faults.** -/
theorem enqueue_clean (h : l.Enqueueable request)
    (hfree : (l.queue.jobs s).find? (l.nextId s) = none) :
    ∃ job s', Sql.Clean (l.enqueue request now) s (.ok job) s' := by
  cases l with
  | video =>
    obtain ⟨hvalid, hutf8⟩ := h
    exact MatriXpost.enqueue_clean hvalid hutf8 hfree
  | article =>
    obtain ⟨hvalid, hsome, hutf8⟩ := h
    obtain ⟨due, hdue⟩ := Option.isSome_iff_exists.mp hsome
    exact enqueueArticle_clean hvalid hdue hutf8 hfree

/-! ## 3. While the row stands -/

/-- While this row stands under its id, the job is loaded as it is, and a claim that takes it
    answers it claimed and changes no job it did not take. -/
structure Durable (l : Lane) (job : l.Job) (row : JobRow) : Prop where
  loaded : ∀ s, (l.queue.jobs s).find? job.id = some row →
    Sql.Clean (l.job job.id) s (.ok (some job)) s ∧
      ∀ found s', Sql.Runs (l.job job.id) s (.ok found) s' → found = some job ∧ s' = s
  claimed : ∀ s, (l.queue.jobs s).find? job.id = some row →
    ∀ dueThrough now limit jobs s', Sql.Runs (l.claimDue dueThrough now limit) s (.ok jobs) s' →
      (∀ j ∈ jobs, j.id = job.id → j = { job with
        state := .dispatching, revision := job.revision + 1, updatedAt := now }) ∧
      l.OthersKept (jobs.map (·.id)) s s'

/-- **A job is durable exactly when its time of update can be written.** -/
theorem durable_iff {row : JobRow} (hto : l.queue.jobToRow job = .ok row)
    (hparse : l.queue.parseDue (l.queue.dueText job.dueAt) = .ok job.dueAt)
    (hstored : (l.queue.jobs s).find? job.id = some row) :
    l.Durable job row ↔ job.updatedAt.FourDigitYear := by
  constructor
  · intro h
    obtain ⟨hload, -⟩ := h.loaded s hstored
    obtain ⟨-, hfound⟩ := QueueTable.loadJob_ok hload.runs
    rw [hstored] at hfound
    obtain ⟨read, hread, -⟩ := hfound
    exact QueueTable.fourDigitYear_of_rowToJob hto hread
  · intro hyear
    have hread := QueueTable.rowToJob_jobToRow hto hparse hyear
    constructor
    · intro s₁ hrow
      refine ⟨QueueTable.loadJob_clean hrow hread, fun found s₂ hload => ?_⟩
      obtain ⟨rfl, hfound⟩ := QueueTable.loadJob_ok hload
      rw [hrow] at hfound
      obtain ⟨job', hread', rfl⟩ := hfound
      rw [hread] at hread'
      cases hread'
      exact ⟨rfl, rfl⟩
    · intro s₁ hrow dueThrough now limit jobs s₂ hclaim
      obtain ⟨-, hjobs, -, rfl⟩ := QueueTable.claim_jobs hclaim
      refine ⟨fun j hj hid => ?_, fun k hk => QueueTable.find?_raise_of_not_mem hk,
        fun l' hne => jobs_raise_other hne _ _ _⟩
      obtain ⟨row', current, hrow', hread', -, rfl⟩ := hjobs j hj
      rw [hid, hrow] at hrow'
      cases hrow'
      rw [hread] at hread'
      cases hread'
      rfl

/-! ## 4. The round trip -/

/-- What enqueuing a request comes to: it succeeds under a free id if nothing fails; the job that
    is answered is the request's, every other job is as it was, and it is durable. -/
structure RoundTrips (l : Lane) (request : l.Request) (now : DateTime) : Prop where
  accepted : ∀ s, (l.queue.jobs s).find? (l.nextId s) = none →
    ∃ job s', Sql.Clean (l.enqueue request now) s (.ok job) s'
  stored : ∀ s job s', Sql.Runs (l.enqueue request now) s (.ok job) s' →
    l.IsEnqueued request now job ∧ l.OthersKept [job.id] s s' ∧
      ∃ row, (l.queue.jobs s').find? job.id = some row ∧ l.Durable job row

theorem IsEnqueued.updatedAt (h : l.IsEnqueued request now job) : job.updatedAt = now := by
  cases l with
  | video => exact congrArg Job.updatedAt h
  | article =>
    obtain ⟨due, -, h⟩ := h
    exact congrArg Job.updatedAt h

/-- A job that comes back carries a clock whose text is read. -/
theorem RoundTrips.fourDigitYear (htrips : l.RoundTrips request now) (h : l.Enqueueable request) :
    now.FourDigitYear := by
  have hfree : (l.queue.jobs .initial).find? (l.nextId .initial) = none := by cases l <;> rfl
  obtain ⟨job, s', hclean⟩ := htrips.accepted .initial hfree
  obtain ⟨hjob, -, hparse, row, hto, hrow, -⟩ := enqueue_ok hclean.runs
  obtain ⟨-, -, row', hrow', hdurable⟩ := htrips.stored _ _ _ hclean.runs
  rw [hrow] at hrow'
  cases hrow'
  rw [← hjob.updatedAt]
  exact (durable_iff hto hparse hrow).mp hdurable

end Lane

/-- **The round trip of jobs, of either lane**: it holds exactly when the clock that is written
    has a year of four digits. -/
theorem jobs_round_trip (l : Lane) (request : l.Request) (now : DateTime)
    (h : l.Enqueueable request) : l.RoundTrips request now ↔ now.FourDigitYear := by
  constructor
  · intro htrips
    exact htrips.fourDigitYear h
  · intro hyear
    refine ⟨fun s hfree => Lane.enqueue_clean h hfree, fun s job s' hrun => ?_⟩
    obtain ⟨hjob, -, hparse, row, hto, hrow, hothers⟩ := Lane.enqueue_ok hrun
    refine ⟨hjob, hothers, row, hrow, (Lane.durable_iff hto hparse hrow).mpr ?_⟩
    rw [hjob.updatedAt]
    exact hyear

/-- A request and a clock that come back. -/
theorem jobs_round_trip_sample : Lane.video.RoundTrips sampleRequest articleNow :=
  (jobs_round_trip .video sampleRequest articleNow ⟨by decide, trivial⟩).mpr (by decide)

/-- A job enqueued in the year 10000 does not. -/
theorem not_roundTrips_year_10000 :
    ¬ Lane.video.RoundTrips sampleRequest ⟨10000, 1, 1, 0, 0, 0, 0, by decide⟩ := by
  intro h
  exact absurd (h.fourDigitYear ⟨by decide, trivial⟩) (by decide)

end MatriXpost
