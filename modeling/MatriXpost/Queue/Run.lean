/-
  File:      MatriXpost/Queue/Run.lean
  Subject:   RUNS OF THE VIDEO QUEUE: any number of repository instances over one database, their
             transactions in any order, with any arguments and under any faults.

  An event is one atomic step of one instance with its reply. `enqueue` is two of them, since
  its two statements are committed one by one (`enqueue_eq`); what stands between them is
  `pending`.

  * `queueStep_cases` says once what a step can do to the jobs: nothing, one new row, or one
    `raise` of rows that were at the revisions they were won at, along an edge of the
    transition graph or back from `dispatching` to `queued`. Every invariant is derived from it;
  * `queueStep_failed`: a failing step leaves the store as it was;
  * `queueStep_terminal`: no step touches a job in a terminal state, and `history_grows`: a run
    keeps the history it starts from and appends what its events recorded.
-/
import MatriXpost.Store.Jobs
import MatriXpost.Lib.Trace
import Mathlib.Control.Monad.Basic

namespace MatriXpost

/-! ## 1. Enqueue, cut where it can be interrupted -/

/-- `enqueue` up to its first commit: the job under its allocated id. -/
def enqueueBegin (request : PublishRequest) (now : DateTime) :
    Sql DomainError Store ScheduledJob := do
  Sql.lift request.validate
  let id ← allocateJobId
  pure (enqueuedJob request id now)

/-- `enqueue` is its beginning and the insert of the job this answers. -/
theorem enqueue_eq (request : PublishRequest) (now : DateTime) :
    enqueue request now = (do
      let job ← enqueueBegin request now
      insertJob job
      pure job) := by
  simp only [enqueue, enqueueBegin, bind_assoc, pure_bind]

theorem enqueueBegin_ok {request : PublishRequest} {now : DateTime} {s s' : Store}
    {job : ScheduledJob} (h : Sql.Runs (enqueueBegin request now) s (.ok job) s') :
    request.validate = .ok () ∧
      job = enqueuedJob request ("job-" ++ toString (s.jobSequence + 1)) now ∧
      s' = { s with jobSequence := s.jobSequence + 1 } := by
  obtain ⟨u, s₁, hlift, h₁⟩ := Sql.runs_bind_ok h
  obtain ⟨hvalid, rfl⟩ := Sql.runs_lift.mp hlift
  obtain ⟨id, s₂, halloc, h₂⟩ := Sql.runs_bind_ok h₁
  obtain ⟨rfl, rfl⟩ := allocateJobId_ok halloc
  obtain ⟨he, rfl⟩ := Sql.runs_pure.mp h₂
  cases he
  exact ⟨hvalid.symm, rfl, rfl⟩

/-- A beginning that fails changes nothing: its one write is its last statement. -/
theorem enqueueBegin_error {request : PublishRequest} {now : DateTime} {s s' : Store}
    {e : DomainError} (h : Sql.Runs (enqueueBegin request now) s (.error e) s') : s' = s := by
  rcases Sql.runs_bind_error h with h | ⟨u, s₁, hlift, h₁⟩
  · exact (Sql.runs_lift.mp h).2
  obtain ⟨-, rfl⟩ := Sql.runs_lift.mp hlift
  rcases Sql.runs_bind_error h₁ with h | ⟨id, s₂, halloc, h₂⟩
  · rcases Sql.runs_bind_error h with h | ⟨rowid, s₃, hexec, h₃⟩
    · exact Sql.runs_statement_error h
    · exact absurd (Sql.runs_pure.mp h₃).1 (by simp)
  · exact absurd (Sql.runs_pure.mp h₂).1 (by simp)

/-! ## 2. Events and steps -/

/-- One atomic step of a repository instance, with its reply. -/
inductive QueueEvent where
  | allocate (request : PublishRequest) (now : DateTime) (reply : Except DomainError ScheduledJob)
  | insert (job : ScheduledJob) (reply : Except DomainError Unit)
  | transition (id : String) (expected : Nat) (next : PublishState) (now : DateTime)
      (reply : Except DomainError ScheduledJob)
  | complete (id : String) (expected : Nat) (next : PublishState) (now : DateTime)
      (detail : Option String) (reply : Except DomainError (ScheduledJob × HistoryRecord))
  | claim (dueThrough : LocalSchedule) (now : DateTime) (limit : Nat)
      (reply : Except DomainError (List ScheduledJob))
  | requeue (id : String) (expected : Nat) (now : DateTime)
      (reply : Except DomainError ScheduledJob)
  | recordDispatch (request : PublishRequest) (report : ProviderDispatchReport) (now : DateTime)
      (reply : Except DomainError HistoryRecord)
  | append (record : HistoryRecord) (reply : Except DomainError Unit)

/-- The database, and the jobs whose enqueue stands between its two commits. -/
structure QueueWorld where
  store : Store
  pending : List ScheduledJob

def QueueWorld.initial : QueueWorld := ⟨.initial, []⟩

/-- A step of instance number `e.1`. -/
inductive QueueStep : QueueWorld → Nat × QueueEvent → QueueWorld → Prop
  | allocated {w : QueueWorld} {n : Nat} {request : PublishRequest} {now : DateTime}
      {job : ScheduledJob} {s : Store} :
      Sql.Runs (enqueueBegin request now) w.store (.ok job) s →
      QueueStep w (n, .allocate request now (.ok job)) ⟨s, job :: w.pending⟩
  | notAllocated {w : QueueWorld} {n : Nat} {request : PublishRequest} {now : DateTime}
      {e : DomainError} {s : Store} :
      Sql.Runs (enqueueBegin request now) w.store (.error e) s →
      QueueStep w (n, .allocate request now (.error e)) ⟨s, w.pending⟩
  | insert {w : QueueWorld} {n : Nat} {job : ScheduledJob} {reply : Except DomainError Unit}
      {s : Store} (before after : List ScheduledJob) :
      w.pending = before ++ job :: after → Sql.Runs (insertJob job) w.store reply s →
      QueueStep w (n, .insert job reply) ⟨s, before ++ after⟩
  | transition {w : QueueWorld} {n : Nat} {id : String} {expected : Nat} {next : PublishState}
      {now : DateTime} {reply : Except DomainError ScheduledJob} {s : Store} :
      Sql.Runs (transitionJob id expected next now) w.store reply s →
      QueueStep w (n, .transition id expected next now reply) ⟨s, w.pending⟩
  | complete {w : QueueWorld} {n : Nat} {id : String} {expected : Nat} {next : PublishState}
      {now : DateTime} {detail : Option String}
      {reply : Except DomainError (ScheduledJob × HistoryRecord)} {s : Store} :
      Sql.Runs (completeJobWithHistory id expected next now detail) w.store reply s →
      QueueStep w (n, .complete id expected next now detail reply) ⟨s, w.pending⟩
  | claim {w : QueueWorld} {n : Nat} {dueThrough : LocalSchedule} {now : DateTime} {limit : Nat}
      {reply : Except DomainError (List ScheduledJob)} {s : Store} :
      Sql.Runs (claimDue dueThrough now limit) w.store reply s →
      QueueStep w (n, .claim dueThrough now limit reply) ⟨s, w.pending⟩
  | requeue {w : QueueWorld} {n : Nat} {id : String} {expected : Nat} {now : DateTime}
      {reply : Except DomainError ScheduledJob} {s : Store} :
      Sql.Runs (requeueClaim id expected now) w.store reply s →
      QueueStep w (n, .requeue id expected now reply) ⟨s, w.pending⟩
  | recordDispatch {w : QueueWorld} {n : Nat} {request : PublishRequest}
      {report : ProviderDispatchReport} {now : DateTime}
      {reply : Except DomainError HistoryRecord} {s : Store} :
      Sql.Runs (recordProviderDispatchHistory request report now) w.store reply s →
      QueueStep w (n, .recordDispatch request report now reply) ⟨s, w.pending⟩
  | append {w : QueueWorld} {n : Nat} {record : HistoryRecord} {reply : Except DomainError Unit}
      {s : Store} :
      Sql.Runs (appendHistory record) w.store reply s →
      QueueStep w (n, .append record reply) ⟨s, w.pending⟩

/-! ## 3. What an event presents and wins -/

namespace QueueEvent

/-- The job and the revision a transition, completion or requeue names. -/
def presented : QueueEvent → Option (String × Nat)
  | .transition id expected _ _ _ => some (id, expected)
  | .complete id expected _ _ _ _ => some (id, expected)
  | .requeue id expected _ _ => some (id, expected)
  | _ => none

/-- The jobs a successful claim returns, with the revision each has there. -/
def claimed : QueueEvent → List (String × Nat)
  | .claim _ _ _ (.ok jobs) => jobs.map fun job => (job.id, job.revision)
  | _ => []

/-- The call was answered. -/
def succeeded : QueueEvent → Bool
  | .allocate _ _ reply => reply.isOk
  | .insert _ reply => reply.isOk
  | .transition _ _ _ _ reply => reply.isOk
  | .complete _ _ _ _ _ reply => reply.isOk
  | .claim _ _ _ reply => reply.isOk
  | .requeue _ _ _ reply => reply.isOk
  | .recordDispatch _ _ _ reply => reply.isOk
  | .append _ reply => reply.isOk

/-- The jobs an event wins, each with the revision it had before. -/
def wins : QueueEvent → List (String × Nat)
  | .transition id expected _ _ (.ok _) => [(id, expected)]
  | .complete id expected _ _ _ (.ok _) => [(id, expected)]
  | .requeue id expected _ (.ok _) => [(id, expected)]
  | .claim _ _ _ (.ok jobs) => jobs.map fun job => (job.id, job.revision - 1)
  | _ => []

/-- The clock a call is given. -/
def clock : QueueEvent → Option DateTime
  | .allocate _ now _ => some now
  | .transition _ _ _ now _ => some now
  | .complete _ _ _ now _ _ => some now
  | .claim _ now _ _ => some now
  | .requeue _ _ now _ => some now
  | .recordDispatch _ _ now _ => some now
  | _ => none

/-- The history records a successful event inserts. -/
def recorded : QueueEvent → List HistoryRecord
  | .complete _ _ _ _ _ (.ok (_, record)) => [record]
  | .recordDispatch _ _ _ (.ok record) => [record]
  | .append record (.ok _) => [record]
  | _ => []

end QueueEvent

/-! ## 4. What a step does to the jobs -/

/-- The three things a step does to the jobs. -/
inductive JobsChange (w w' : QueueWorld) (e : QueueEvent) : Prop
  | same : e.wins = [] → w'.store.jobs = w.store.jobs → JobsChange w w' e
  | inserted (job : ScheduledJob) (row : JobRow) :
      e.wins = [] → videoQueue.jobToRow job = .ok row →
      w.store.jobs.insert row = some w'.store.jobs → job ∈ w.pending → JobsChange w w' e
  | raised (next : PublishState) (now : DateTime) :
      (e.wins.map Prod.fst).Nodup →
      (∀ id v, (id, v) ∈ e.wins → ∃ row current, w.store.jobs.find? id = some row ∧
        videoQueue.rowToJob row = .ok current ∧ current.revision = v ∧
        (current.state.canTransitionTo next = true ∨
          current.state = .dispatching ∧ next = .queued)) →
      w'.store.jobs = (videoQueue.raise w.store (e.wins.map Prod.fst) next now).jobs →
      e.clock = some now → JobsChange w w' e

theorem wins_of_claimed (claimed : List ScheduledJob) :
    (claimed.map fun job => (job.id, job.revision - 1)).map Prod.fst = claimed.map (·.id) := by
  rw [List.map_map]
  rfl

/-- A call that failed won nothing and recorded nothing. -/
theorem QueueEvent.of_failed {e : QueueEvent} (h : e.succeeded = false) :
    e.wins = [] ∧ e.recorded = [] := by
  cases e with
  | allocate | insert => exact ⟨rfl, rfl⟩
  | transition id expected next now reply =>
    cases reply with
    | error e => exact ⟨rfl, rfl⟩
    | ok job => cases h
  | complete id expected next now detail reply =>
    cases reply with
    | error e => exact ⟨rfl, rfl⟩
    | ok pair => cases h
  | claim dueThrough now limit reply =>
    cases reply with
    | error e => exact ⟨rfl, rfl⟩
    | ok claimed => cases h
  | requeue id expected now reply =>
    cases reply with
    | error e => exact ⟨rfl, rfl⟩
    | ok job => cases h
  | recordDispatch request report now reply =>
    cases reply with
    | error e => exact ⟨rfl, rfl⟩
    | ok record => cases h
  | append record reply =>
    cases reply with
    | error e => exact ⟨rfl, rfl⟩
    | ok u => cases h

/-- **A step that fails leaves the store as it was.** -/
theorem queueStep_failed {w w' : QueueWorld} {e : Nat × QueueEvent} (h : QueueStep w e w')
    (hfail : e.2.succeeded = false) : w'.store = w.store := by
  cases h with
  | allocated h => cases hfail
  | notAllocated h => exact enqueueBegin_error h
  | @insert n job reply s before after hpending h =>
    cases reply with
    | error e => exact insertJob_error h
    | ok u => cases hfail
  | @transition n id expected next now reply s h =>
    cases reply with
    | error e => exact transitionJob_error h
    | ok job => cases hfail
  | @complete n id expected next now detail reply s h =>
    cases reply with
    | error e => exact completeJobWithHistory_error h
    | ok pair => cases hfail
  | @claim n dueThrough now limit reply s h =>
    cases reply with
    | error e => exact QueueTable.claim_error h
    | ok claimed => cases hfail
  | @requeue n id expected now reply s h =>
    cases reply with
    | error e => exact requeueClaim_error h
    | ok job => cases hfail
  | @recordDispatch n request report now reply s h =>
    cases reply with
    | error e => exact Sql.runs_transaction_error h
    | ok record => cases hfail
  | @append n record reply s h =>
    rcases appendHistory_cases h with ⟨e, rfl, rfl⟩ | ⟨row, history, rfl, -, -, rfl⟩
    · rfl
    · cases hfail

/-- Its jobs and its history, in particular. -/
theorem queueStep_error {w w' : QueueWorld} {e : Nat × QueueEvent} (h : QueueStep w e w')
    (hfail : e.2.succeeded = false) :
    w'.store.jobs = w.store.jobs ∧ w'.store.history = w.store.history := by
  rw [queueStep_failed h hfail]
  exact ⟨rfl, rfl⟩

/-- **What a step of any instance does to the jobs.** -/
theorem queueStep_cases {w w' : QueueWorld} {e : Nat × QueueEvent} (h : QueueStep w e w') :
    JobsChange w w' e.2 := by
  by_cases hfail : e.2.succeeded = false
  · exact .same (QueueEvent.of_failed hfail).1 (queueStep_error h hfail).1
  cases h with
  | allocated h =>
    obtain ⟨-, -, rfl⟩ := enqueueBegin_ok h
    exact .same rfl rfl
  | notAllocated h => exact absurd rfl hfail
  | @insert n job reply s before after hpending h =>
    cases reply with
    | error e => exact absurd rfl hfail
    | ok u =>
      obtain ⟨row, jobs, hrow, hins, rfl⟩ := insertJob_ok h
      exact .inserted job row rfl hrow hins (by rw [hpending]; simp)
  | @transition n id expected next now reply s h =>
    cases reply with
    | error e => exact absurd rfl hfail
    | ok job =>
      obtain ⟨row, current, hrow, hread, hedge, hrev, rfl, -⟩ := transitionJob_ok h
      refine .raised next now (List.nodup_singleton id) (fun k v hmem => ?_) rfl rfl
      cases List.mem_singleton.mp hmem
      exact ⟨row, current, hrow, hread, hrev, .inl hedge⟩
  | @complete n id expected next now detail reply s h =>
    cases reply with
    | error e => exact absurd rfl hfail
    | ok pair =>
      obtain ⟨job, record⟩ := pair
      obtain ⟨row, current, rowid, hrow', history, hrow, hread, hedge, hrev, -, -, -, -, -, rfl⟩ :=
        completeJobWithHistory_ok h
      refine .raised next now (List.nodup_singleton id) (fun k v hmem => ?_) rfl rfl
      cases List.mem_singleton.mp hmem
      exact ⟨row, current, hrow, hread, hrev, .inl hedge⟩
  | @claim n dueThrough now limit reply s h =>
    cases reply with
    | error e => exact absurd rfl hfail
    | ok claimed =>
      obtain ⟨hn, hjobs, -, rfl⟩ := QueueTable.claim_jobs (q := videoQueue) h
      refine .raised .dispatching now ?_ (fun k v hmem => ?_) ?_ rfl
      · exact (wins_of_claimed claimed).symm ▸ hn
      · obtain ⟨job, hjob, he⟩ := List.mem_map.mp hmem
        cases he
        obtain ⟨row, current, hrow, hread, hstate, rfl⟩ := hjobs job hjob
        exact ⟨row, current, hrow, hread, rfl, .inl (by rw [hstate]; rfl)⟩
      · exact congrArg (fun ids => (videoQueue.raise w.store ids .dispatching now).jobs)
          (wins_of_claimed claimed).symm
  | @requeue n id expected now reply s h =>
    cases reply with
    | error e => exact absurd rfl hfail
    | ok job =>
      obtain ⟨row, current, hrow, hread, hstate, hrev, rfl, -⟩ := QueueTable.requeue_ok h
      refine .raised .queued now (List.nodup_singleton id) (fun k v hmem => ?_) rfl rfl
      cases List.mem_singleton.mp hmem
      exact ⟨row, current, hrow, hread, hrev, .inr ⟨hstate, rfl⟩⟩
  | recordDispatch h =>
    rename_i n request report now reply s
    cases reply with
    | error e => exact absurd rfl hfail
    | ok record =>
      obtain ⟨rowid, row, history, -, -, -, rfl⟩ := recordProviderDispatchHistory_ok h
      exact .same rfl rfl
  | append h =>
    rcases appendHistory_cases h with ⟨e, rfl, rfl⟩ | ⟨row, history, rfl, -, -, rfl⟩
    · exact .same rfl rfl
    · exact .same rfl rfl

/-- A pending job was pending, or its enqueue has just begun. -/
theorem queueStep_pending {w w' : QueueWorld} {e : Nat × QueueEvent} (h : QueueStep w e w')
    {job : ScheduledJob} (hjob : job ∈ w'.pending) :
    job ∈ w.pending ∨ ∃ request now id, e.2 = .allocate request now (.ok job) ∧
      request.validate = .ok () ∧ job = enqueuedJob request id now := by
  cases h with
  | @allocated n request now job' s h =>
    rcases List.mem_cons.mp hjob with rfl | hjob
    · obtain ⟨hvalid, hjob, -⟩ := enqueueBegin_ok h
      exact .inr ⟨request, now, _, rfl, hvalid, hjob⟩
    · exact .inl hjob
  | @insert n job' reply s before after hpending h =>
    refine .inl ?_
    rw [hpending]
    rcases List.mem_append.mp hjob with hjob | hjob
    · exact List.mem_append_left _ hjob
    · exact List.mem_append_right _ (List.mem_cons_of_mem _ hjob)
  | notAllocated h => exact .inl hjob
  | transition h => exact .inl hjob
  | complete h => exact .inl hjob
  | claim h => exact .inl hjob
  | requeue h => exact .inl hjob
  | recordDispatch h => exact .inl hjob
  | append h => exact .inl hjob

/-- **No step touches a job that has reached a terminal state.** -/
theorem queueStep_terminal {w w' : QueueWorld} {e : Nat × QueueEvent} (h : QueueStep w e w')
    {id : String} {row : JobRow} {state : PublishState} (hrow : w.store.jobs.find? id = some row)
    (hstate : row.state = state.db) (hterm : state.terminal = true) :
    w'.store.jobs.find? id = some row := by
  cases queueStep_cases h with
  | same hnil hjobs =>
    rw [hjobs]
    exact hrow
  | inserted job row' hnil hto hins => exact Table.find?_insert_of_some hins hrow
  | raised next now hn hwins hjobs =>
    rw [hjobs]
    refine (QueueTable.find?_raise_of_not_mem (q := videoQueue) fun hid => ?_).trans hrow
    -- A row that was raised had an edge out, or was dispatching.
    obtain ⟨⟨k, v⟩, hkv, rfl⟩ := List.mem_map.mp hid
    obtain ⟨row', current, hrow', hread, -, hcase⟩ := hwins k v hkv
    rw [hrow] at hrow'
    cases hrow'
    have hcurrent : current.state = state := by
      have hdb := (QueueTable.rowToJob_ok hread).2.1
      rw [hstate, PublishState.db_inj] at hdb
      exact hdb.symm
    rw [hcurrent] at hcase
    rcases hcase with hedge | ⟨hdisp, -⟩
    · rw [(PublishState.terminal_iff state).mp hterm next] at hedge
      cases hedge
    · rw [hdisp] at hterm
      cases hterm

theorem history_of_insert {record : HistoryRecord} {row : HistoryRow}
    {history history' : Table HistoryRow.id} (hto : record.toRow = .ok row)
    (hins : history.insert row = some history') :
    ∃ rows, List.Forall₂ (fun record row => HistoryRecord.toRow record = .ok row) [record] rows ∧
      history'.rows = history.rows ++ rows :=
  ⟨[row], .cons hto .nil, (Table.insert_eq_some hins).2⟩

/-- **The history grows by what the event recorded, and keeps all it had.** -/
theorem queueStep_history {w w' : QueueWorld} {e : Nat × QueueEvent} (h : QueueStep w e w') :
    ∃ rows, List.Forall₂ (fun record row => HistoryRecord.toRow record = .ok row)
        e.2.recorded rows ∧
      w'.store.history.rows = w.store.history.rows ++ rows := by
  have hsame : ∀ s : Store, s.history = w.store.history →
      ∃ rows, List.Forall₂ (fun record row => HistoryRecord.toRow record = .ok row) [] rows ∧
        s.history.rows = w.store.history.rows ++ rows := by
    intro s hs
    exact ⟨[], .nil, by rw [hs, List.append_nil]⟩
  by_cases hfail : e.2.succeeded = false
  · rw [(QueueEvent.of_failed hfail).2]
    exact hsame _ (queueStep_error h hfail).2
  cases h with
  | allocated h =>
    obtain ⟨-, -, rfl⟩ := enqueueBegin_ok h
    exact hsame _ rfl
  | notAllocated h => exact absurd rfl hfail
  | @insert n job reply s before after hpending h =>
    cases reply with
    | error e => exact absurd rfl hfail
    | ok u =>
      obtain ⟨row, jobs, hrow, hins, rfl⟩ := insertJob_ok h
      exact hsame _ rfl
  | @transition n id expected next now reply s h =>
    cases reply with
    | error e => exact absurd rfl hfail
    | ok job =>
      obtain ⟨row, current, -, -, -, -, rfl, -⟩ := transitionJob_ok h
      exact hsame _ rfl
  | @complete n id expected next now detail reply s h =>
    cases reply with
    | error e => exact absurd rfl hfail
    | ok pair =>
      obtain ⟨job, record⟩ := pair
      obtain ⟨row, current, rowid, hrow', history, -, -, -, -, -, -, -, hto, hins, rfl⟩ :=
        completeJobWithHistory_ok h
      exact history_of_insert hto hins
  | @claim n dueThrough now limit reply s h =>
    cases reply with
    | error e => exact absurd rfl hfail
    | ok claimed =>
      obtain ⟨-, -, -, rfl⟩ := QueueTable.claim_jobs (q := videoQueue) h
      exact hsame _ rfl
  | @requeue n id expected now reply s h =>
    cases reply with
    | error e => exact absurd rfl hfail
    | ok job =>
      obtain ⟨row, current, -, -, -, -, rfl, -⟩ := QueueTable.requeue_ok h
      exact hsame _ rfl
  | @recordDispatch n request report now reply s h =>
    cases reply with
    | error e => exact absurd rfl hfail
    | ok record =>
      obtain ⟨rowid, row, history, -, hto, hins, rfl⟩ := recordProviderDispatchHistory_ok h
      exact history_of_insert hto hins
  | @append n record reply s h =>
    rcases appendHistory_cases h with ⟨e, rfl, rfl⟩ | ⟨row, history, rfl, hto, hins, rfl⟩
    · exact hsame _ rfl
    · exact history_of_insert hto hins

/-- **A run keeps the history it starts from, and appends what its events recorded, in their
    order.** -/
theorem history_grows {events : List (Nat × QueueEvent)} {w₀ w : QueueWorld}
    (h : Trace QueueStep w₀ events w) :
    ∃ rows, List.Forall₂ (fun record row => HistoryRecord.toRow record = .ok row)
        (events.flatMap (·.2.recorded)) rows ∧
      w.store.history.rows = w₀.store.history.rows ++ rows := by
  refine h.invariant_events (I := fun es w => ∃ rows, List.Forall₂
    (fun record row => HistoryRecord.toRow record = .ok row) (es.flatMap (·.2.recorded)) rows ∧
    w.store.history.rows = w₀.store.history.rows ++ rows) ⟨[], .nil, by simp⟩ ?_
  intro es w₁ e w₂ _ hI hstep
  obtain ⟨rows, hall, hrows⟩ := hI
  obtain ⟨new, hnew, hrows'⟩ := queueStep_history hstep
  refine ⟨rows ++ new, ?_, by rw [hrows', hrows, List.append_assoc]⟩
  rw [List.flatMap_append]
  refine List.rel_append hall ?_
  rwa [List.flatMap_cons, List.flatMap_nil, List.append_nil]

/-- The history of a run from the initial store is what its events recorded. -/
theorem history_recorded {events : List (Nat × QueueEvent)} {w : QueueWorld}
    (h : Trace QueueStep .initial events w) :
    List.Forall₂ (fun record row => HistoryRecord.toRow record = .ok row)
      (events.flatMap (·.2.recorded)) w.store.history.rows := by
  obtain ⟨rows, hall, hrows⟩ := history_grows h
  have hnil : QueueWorld.initial.store.history.rows = [] := rfl
  rw [hrows, hnil, List.nil_append]
  exact hall

/-! ## 5. A run, evaluated -/

/-- A clock before `sampleDue`. -/
def sampleNow : DateTime := ⟨2026, 7, 1, 8, 0, 0, 0, by decide⟩

def sampleDue : LocalSchedule := ⟨"2026-07-29 09:00:00"⟩

def scheduledRequest : PublishRequest := { sampleRequest with scheduledAt := some sampleDue }

/-- The job one instance enqueues and another claims. -/
def sampleJob : ScheduledJob := enqueuedJob scheduledRequest "job-1" sampleNow

@[irreducible] def sampleAllocated : Store :=
  (enqueueBegin scheduledRequest sampleNow ⟨.initial, []⟩).2.store

@[irreducible] def sampleQueued : Store := (insertJob sampleJob ⟨sampleAllocated, []⟩).2.store

@[irreducible] def sampleClaimed : Store :=
  (claimDue sampleDue sampleNow 5 ⟨sampleQueued, []⟩).2.store

theorem sample_allocate :
    Sql.Runs (enqueueBegin scheduledRequest sampleNow) .initial (.ok sampleJob)
      sampleAllocated := by
  unfold sampleAllocated
  refine Sql.runs_of_reply ?_
  decide +kernel

theorem sample_insert : Sql.Runs (insertJob sampleJob) sampleAllocated (.ok ()) sampleQueued := by
  unfold sampleQueued
  refine Sql.runs_of_reply ?_
  decide +kernel

theorem sample_enqueued : Trace QueueStep .initial
    [(1, .allocate scheduledRequest sampleNow (.ok sampleJob)), (1, .insert sampleJob (.ok ()))]
    ⟨sampleQueued, []⟩ :=
  .cons (.allocated sample_allocate)
    (.single (.insert [] [] rfl sample_insert))

theorem sample_claim : Sql.Runs (claimDue sampleDue sampleNow 5) sampleQueued
    (.ok [QueueTable.claimedJob sampleNow sampleJob]) sampleClaimed := by
  unfold sampleClaimed
  refine Sql.runs_of_reply ?_
  decide +kernel

end MatriXpost
