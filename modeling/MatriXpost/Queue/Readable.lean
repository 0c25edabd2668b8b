/-
  File:      MatriXpost/Queue/Readable.lean
  Subject:   WHAT THE QUEUES STORED READS BACK. In runs whose clocks lie in the years 0 to 9999
             every job row can be read, and its due time is a schedule some request brought.

  A row that cannot be read fails every claim that chooses it, so claims rest on this.

  * `QueueTable.Readable` is the invariant of a row; a state change keeps it
    (`readable_advanced`), an insert of a validated job brings it (`readable_jobToRow`);
  * `queue_readable` and `articles_readable` are the two runs.
-/
import MatriXpost.Queue.Run
import MatriXpost.Queue.ArticleRun

namespace MatriXpost

/-- The text reads as a time. -/
def LocalSchedule.Accepted (due : LocalSchedule) : Prop := ∃ t, due.asNaive = .ok t

theorem LocalSchedule.parse_of_accepted {due : LocalSchedule} (h : due.Accepted) :
    LocalSchedule.parse due.text = .ok due := LocalSchedule.parse_eq_ok.mpr ⟨rfl, h⟩

theorem accepted_of_checkSchedule {schedule : Option LocalSchedule} {due : LocalSchedule}
    (h : PublishRequest.checkSchedule schedule = .ok ()) (hdue : schedule = some due) :
    due.Accepted := by
  subst hdue
  dsimp only [PublishRequest.checkSchedule] at h
  cases ht : due.asNaive with
  | ok t => exact ⟨t, ht⟩
  | error e =>
    rw [ht] at h
    cases h

/-! ## 1. Rows -/

namespace QueueTable

variable {R δ : Type} {q : QueueTable R δ} {T : Set LocalSchedule} {s : Store}

/-- The row reads as a job, and its due time is one of `T`. -/
def Readable (q : QueueTable R δ) (T : Set LocalSchedule) (row : JobRow) : Prop :=
  (∃ job, q.rowToJob row = .ok job) ∧ ∀ text, row.dueAt = some text → (⟨text⟩ : LocalSchedule) ∈ T

/-- Columns that read make a row that reads. -/
theorem rowToJob_of {row : JobRow} {request : R} {state : PublishState} {due : δ}
    {updated : DateTime} (hrequest : q.decode row.requestJson = .ok request)
    (hstate : row.state = state.db) (hdue : q.parseDue row.dueAt = .ok due)
    (hupdated : parseTime row.updatedAt = .ok updated) :
    q.rowToJob row = .ok ⟨row.id, request, state, due, row.revision, updated⟩ := by
  unfold rowToJob
  rw [hrequest, hstate, PublishState.fromDb_db, hdue, hupdated]
  rfl

theorem parseTime_toRfc3339 {now : DateTime} (h : now.FourDigitYear) :
    parseTime (DateTime.toRfc3339 now) = .ok now := by
  rw [parseTime, parse_toRfc3339 h]

/-- The text of a time is refused when the year has not four digits. -/
theorem parseTime_toRfc3339_error {t : DateTime} (h : ¬ t.FourDigitYear) :
    parseTime (DateTime.toRfc3339 t) = .error (.corruptState (DateTime.toRfc3339 t)) := by
  rw [parseTime, parse_toRfc3339_none h]

theorem fourDigitYear_of_parseTime {t t' : DateTime}
    (h : parseTime (DateTime.toRfc3339 t) = .ok t') : t.FourDigitYear := by
  by_contra hno
  rw [parseTime_toRfc3339_error hno] at h
  cases h

/-- **A state change at a readable clock keeps a row readable.** -/
theorem readable_advanced {row : JobRow} {next : PublishState} {now : DateTime}
    (h : q.Readable T row) (hnow : now.FourDigitYear) : q.Readable T (advanced next now row) := by
  obtain ⟨⟨job, hread⟩, hdue⟩ := h
  obtain ⟨-, -, -, hrequest, hparse, -⟩ := rowToJob_ok hread
  exact ⟨⟨_, rowToJob_of hrequest rfl hparse (parseTime_toRfc3339 hnow)⟩, hdue⟩

theorem readable_raise {ids : List String} {next : PublishState} {now : DateTime}
    (h : ∀ row ∈ (q.jobs s).rows, q.Readable T row) (hnow : now.FourDigitYear) :
    ∀ row ∈ (q.jobs (q.raise s ids next now)).rows, q.Readable T row := by
  intro row hrow
  rcases mem_raise hrow with ⟨hold, -⟩ | ⟨old, hold, -, rfl⟩
  · exact h row hold
  · exact readable_advanced (h old hold) hnow

/-- **The row of a job reads back as the job**: its due time parses, and its time of update has a
    year of four digits. -/
theorem rowToJob_jobToRow {job : Job R δ} {row : JobRow} (hto : q.jobToRow job = .ok row)
    (hparse : q.parseDue (q.dueText job.dueAt) = .ok job.dueAt)
    (hnow : job.updatedAt.FourDigitYear) : q.rowToJob row = .ok job := by
  obtain ⟨hencode, hid, hstate, hcolumn, hrevision, hupdated⟩ := jobToRow_ok hto
  rw [← hcolumn] at hparse
  have hread := rowToJob_of (q.decode_encode hencode) hstate hparse
    (hupdated ▸ parseTime_toRfc3339 hnow)
  rw [hid, hrevision] at hread
  exact hread

/-- Any other year is not read back. -/
theorem fourDigitYear_of_rowToJob {job job' : Job R δ} {row : JobRow}
    (hto : q.jobToRow job = .ok row) (hread : q.rowToJob row = .ok job') :
    job.updatedAt.FourDigitYear := by
  have htime := (rowToJob_ok hread).2.2.2.2.2
  rw [(jobToRow_ok hto).2.2.2.2.2] at htime
  exact fourDigitYear_of_parseTime htime

/-- **The row of a job whose due time parses is readable.** -/
theorem readable_jobToRow {job : Job R δ} {row : JobRow} (hto : q.jobToRow job = .ok row)
    (hparse : q.parseDue (q.dueText job.dueAt) = .ok job.dueAt)
    (hdue : ∀ text, q.dueText job.dueAt = some text → (⟨text⟩ : LocalSchedule) ∈ T)
    (hnow : job.updatedAt.FourDigitYear) : q.Readable T row := by
  obtain ⟨-, -, -, hcolumn, -⟩ := jobToRow_ok hto
  rw [← hcolumn] at hdue
  exact ⟨⟨job, rowToJob_jobToRow hto hparse hnow⟩, hdue⟩

theorem readable_insert {row : JobRow} {table : Table JobRow.id}
    (h : ∀ row ∈ (q.jobs s).rows, q.Readable T row) (hrow : q.Readable T row)
    (hins : (q.jobs s).insert row = some table) : ∀ row ∈ table.rows, q.Readable T row := by
  intro row' hmem
  rw [(Table.insert_eq_some hins).2, List.mem_append, List.mem_singleton] at hmem
  rcases hmem with hmem | rfl
  · exact h row' hmem
  · exact hrow

end QueueTable

section Runs
variable {T : Set LocalSchedule} {N : Set DateTime}

/-! ## 2. The video queue -/

/-- The event is given a clock of `N`, and a request it brings is due at a time of `T`. -/
def QueueEvent.Within (T : Set LocalSchedule) (N : Set DateTime) (e : QueueEvent) : Prop :=
  (∀ now, e.clock = some now → now ∈ N) ∧
  ∀ request now reply due, e = .allocate request now reply → request.scheduledAt = some due →
    due ∈ T

def QueueStepWithin (T : Set LocalSchedule) (N : Set DateTime) (w : QueueWorld)
    (e : Nat × QueueEvent) (w' : QueueWorld) : Prop := QueueStep w e w' ∧ e.2.Within T N

/-- A job about to be inserted: its due time parses and is one of `T`. -/
def PendingReadable (T : Set LocalSchedule) (job : ScheduledJob) : Prop :=
  videoQueue.parseDue (videoQueue.dueText job.dueAt) = .ok job.dueAt ∧
  (∀ text, videoQueue.dueText job.dueAt = some text → (⟨text⟩ : LocalSchedule) ∈ T) ∧
  job.updatedAt.FourDigitYear

/-- The due time of a valid request parses. -/
theorem parseDue_of_validate {request : PublishRequest} (hvalid : request.validate = .ok ()) :
    videoQueue.parseDue (videoQueue.dueText request.scheduledAt) = .ok request.scheduledAt := by
  cases hs : request.scheduledAt with
  | none => rfl
  | some due =>
    have hacc := accepted_of_checkSchedule (PublishRequest.validate_ok hvalid).2.2 hs
    change (LocalSchedule.parse due.text).map some = _
    rw [LocalSchedule.parse_of_accepted hacc]
    rfl

theorem pendingReadable_enqueued {request : PublishRequest} {id : String} {now : DateTime}
    (hvalid : request.validate = .ok ()) (hT : ∀ due, request.scheduledAt = some due → due ∈ T)
    (hnow : now.FourDigitYear) : PendingReadable T (enqueuedJob request id now) := by
  refine ⟨parseDue_of_validate hvalid, fun text htext => ?_, hnow⟩
  have hsome : request.scheduledAt.map (·.text) = some text := htext
  obtain ⟨due, hs, rfl⟩ := Option.map_eq_some_iff.mp hsome
  exact hT due hs

/-- **Every row a run of the queue reaches is readable.** -/
theorem queue_readable (hN : ∀ now ∈ N, now.FourDigitYear) {events : List (Nat × QueueEvent)}
    {w : QueueWorld} (h : Trace (QueueStepWithin T N) .initial events w) :
    ∀ row ∈ w.store.jobs.rows, videoQueue.Readable T row := by
  suffices hboth : (∀ row ∈ w.store.jobs.rows, videoQueue.Readable T row) ∧
      ∀ job ∈ w.pending, PendingReadable T job from hboth.1
  refine h.invariant (I := fun w => (∀ row ∈ w.store.jobs.rows, videoQueue.Readable T row) ∧
    ∀ job ∈ w.pending, PendingReadable T job)
    ⟨fun row hrow => (by cases hrow), fun job hjob => (by cases hjob)⟩ ?_
  intro w₁ e w₂ hI hstep
  obtain ⟨hrows, hpending⟩ := hI
  obtain ⟨hstep, hclock, hschedule⟩ := hstep
  constructor
  · cases queueStep_cases hstep with
    | same hnil hjobs =>
      rw [hjobs]
      exact hrows
    | inserted job row hnil hto hins hjob =>
      obtain ⟨hparse, hdue, hnow⟩ := hpending job hjob
      exact QueueTable.readable_insert (q := videoQueue) hrows
        (QueueTable.readable_jobToRow hto hparse hdue hnow) hins
    | raised next now hn hwins hjobs he =>
      rw [hjobs]
      exact QueueTable.readable_raise (q := videoQueue) hrows (hN now (hclock now he))
  · intro job hjob
    rcases queueStep_pending hstep hjob with hjob | ⟨request, now, id, he, hvalid, rfl⟩
    · exact hpending job hjob
    · refine pendingReadable_enqueued hvalid (fun due hs => hschedule _ _ _ due he hs) ?_
      exact hN now (hclock now (by rw [he]; rfl))

/-! ## 3. The article queue -/

/-- The operation is given a clock of `N`, and a request it brings is due at a time of `T`. -/
def ArticleEvent.Within (T : Set LocalSchedule) (N : Set DateTime) (e : ArticleEvent) : Prop :=
  e.clock ∈ N ∧
  ∀ request now reply due, e = .enqueue request now reply → request.scheduledAt = some due →
    due ∈ T

def ArticleStepWithin (T : Set LocalSchedule) (N : Set DateTime) (s : Store) (e : ArticleEvent)
    (s' : Store) : Prop := ArticleStep s e s' ∧ e.Within T N

/-- **Every row a run of the article queue reaches is readable.** -/
theorem articles_readable (hN : ∀ now ∈ N, now.FourDigitYear) {events : List ArticleEvent}
    {s : Store} (h : Trace (ArticleStepWithin T N) .initial events s) :
    ∀ row ∈ s.articleJobs.rows, articleQueue.Readable T row := by
  refine h.invariant (I := fun s => ∀ row ∈ s.articleJobs.rows, articleQueue.Readable T row)
    (fun row hrow => by cases hrow) ?_
  intro s₁ e s₂ hrows hstep
  obtain ⟨hstep, hclock, hschedule⟩ := hstep
  have hnow := hN _ hclock
  cases articleStep_cases hstep with
  | same hjobs =>
    rw [hjobs]
    exact hrows
  | inserted request due rowid row hvalid hdue he hto hins =>
    have hacc := accepted_of_checkSchedule (PublishArticleRequest.validate_ok hvalid).1 hdue
    refine QueueTable.readable_insert (q := articleQueue) hrows ?_ hins
    refine QueueTable.readable_jobToRow hto (LocalSchedule.parse_of_accepted hacc) ?_ hnow
    intro text htext
    cases htext
    exact hschedule request _ _ due he hdue
  | raised ids src next hsrc hnext hids hjobs =>
    rw [hjobs]
    exact QueueTable.readable_raise (q := articleQueue) hrows hnow
  | completed id row next record hrow hdisp hterm hjobs =>
    rw [hjobs]
    exact QueueTable.readable_raise (q := articleQueue) hrows hnow

end Runs

end MatriXpost
