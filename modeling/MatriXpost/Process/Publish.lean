/-
  File:      MatriXpost/Process/Publish.lean
  Subject:   WHEN A SCHEDULED VIDEO IS PUBLISHED. All entry points run as processes over one
             database; what reaches a provider or a runner's executor is read off their calls.

  * `OnTime` is the purpose: a request reaches them because a pass has claimed its job when due, or
    because it was handed in without a schedule;
  * `keeps_entry`: each entry point alone keeps to it, where it is careful; the MCP tool, the
    desktop and the scheduler always are;
  * `publishes_on_time`: then every run does;
  * `published_early`: the CLI, its batch, the daemon and the runner take a scheduled request and
    publish it at once.
-/
import MatriXpost.Process.Entry
import MatriXpost.Queue.Due

namespace MatriXpost

/-! ## 1. What is on time -/

/-- A request a call can bring to a provider's `enqueue` or to the executor. -/
def Call.Reaches : Call → PublishRequest → Prop
  | .dispatch .video request, r =>
    ∃ registry : ProviderRegistry, ∃ call ∈ (registry.dispatchAll request).1, call.request = r
  | .execute _ request, r => request = r
  | _, _ => False

/-- One schedule is at or before another. -/
def LocalSchedule.NotAfter (a b : LocalSchedule) : Prop :=
  ∃ ta tb, a.asNaive = .ok ta ∧ b.asNaive = .ok tb ∧ ta ≤ tb

/-- The requests an entry point was handed. The desktop's says its schedule apart. -/
def Entry.given : Entry → List PublishRequest
  | .cliPublish request _ => [request]
  | .cliBatch turns => turns.filterMap fun turn => match turn.item with
    | .ready _ _ request => some request
    | .skipped _ _ _ => none
  | .daemonPublish request _ => [request]
  | .mcpPublish request _ => [request]
  | .desktopDispatch _ input _ => match input.targets.mapM Platform.fromStr with
    | .ok targets =>
      [{ desktopRequest input targets with scheduledAt := input.scheduledAt.map .mk }]
    | .error _ => []
  | .tick _ _ _ _ => []
  | .runnerPublish _ body => [body.request]

/-- Why a request may reach a provider or the executor: it was handed in without a schedule (a
    runner may have put a staged file in place of its source), or this pass has claimed its job,
    due at or before the pass's time. -/
inductive OnTime (entry : Entry) (log : CallLog) (r : PublishRequest) : Prop
  | unscheduled (g : PublishRequest) : g ∈ entry.given → g.scheduledAt = none →
      r = { g with source := r.source } → OnTime entry log r
  | due (articleRunner : Bool) (dueThrough : LocalSchedule) (updatedAt : DateTime)
      (batchSize : Nat) (jobs : List ScheduledJob) (job : ScheduledJob) (due : LocalSchedule) :
      entry = .tick articleRunner dueThrough updatedAt batchSize →
      ⟨.claim .video dueThrough updatedAt batchSize, Except.ok jobs⟩ ∈ log → job ∈ jobs →
      job.request.scheduledAt = some due → job.dueAt = some due → due.NotAfter dueThrough →
      r = { job.request with scheduledAt := none } → OnTime entry log r

/-- What is published on time carries no schedule. -/
theorem OnTime.unscheduled_request {entry : Entry} {log : CallLog} {r : PublishRequest}
    (h : OnTime entry log r) : r.scheduledAt = none := by
  cases h with
  | unscheduled g _ hg he =>
    rw [he]
    exact hg
  | due _ _ _ _ _ job due _ _ _ _ _ _ he => rw [he]

abbrev PublishPool := Pool Entry Call Call.Reply Store

abbrev PublishEvent := PoolEvent Entry Call Call.Reply

abbrev PublishStep : PublishPool → PublishEvent → PublishPool → Prop :=
  PoolStep Entry.program Call.Handles

/-- All that an event brings to a provider or the executor is on time. -/
def PublishesOnTime : PublishEvent → Prop
  | .called entry log c => ∀ r, c.call.Reaches r → OnTime entry log r
  | _ => True

/-! ## 2. Careful entry points -/

/-- A remote medium is staged, a local one needs none. -/
def RunnerService.Stages (service : RunnerService) : MediaSource → Prop
  | .localFile _ => True
  | .remoteUrl url => ∃ support path, service.remoteMedia = some support ∧
      support.stage (.remoteUrl url) = .ok path

/-- A request that passes the checks of an unguarded entry point carries no schedule; what is
    enqueued is due, and what a pass looks for is, at times of `T`. -/
def Entry.Careful (T : Set LocalSchedule) : Entry → Prop
  | .cliPublish request _ => request.validate = .ok () → request.scheduledAt = none
  | .cliBatch turns => ∀ turn ∈ turns, ∀ row fileName request source,
      turn.item = .ready row fileName request → request.source = .localFile source →
      turn.revalidate source = .ok () → request.validate = .ok () → request.scheduledAt = none
  | .daemonPublish request _ => request.validate = .ok () → request.scheduledAt = none
  | .mcpPublish request _ => ∀ due, request.scheduledAt = some due → due ∈ T
  | .desktopDispatch _ _ _ => True
  | .tick _ dueThrough _ _ => dueThrough ∈ T
  | .runnerPublish service body => body.acceptable = true → service.executor = true →
      service.Stages body.request.source → body.request.scheduledAt = none

def StartsCarefully (T : Set LocalSchedule) : PublishEvent → Prop
  | .started entry => entry.Careful T
  | _ => True

/-- What the replies say of the jobs they bring: an allocated job is the request's, a claimed one
    has the schedule of its request and is due through the claim. -/
def Backed (T : Set LocalSchedule) : Called Call Call.Reply → Prop
  | ⟨.allocate request now, .ok job⟩ => ∃ id, job = enqueuedJob request id now
  | ⟨.claim .video dueThrough _ _, .ok jobs⟩ => dueThrough ∈ T →
      ∀ job : ScheduledJob, job ∈ jobs → ∃ due, job.request.scheduledAt = some due ∧
        job.dueAt = some due ∧ due.NotAfter dueThrough
  | _ => True

/-- The calls of an entry point: jobs to insert are fresh from `enqueue`, and what reaches a
    provider or the executor is on time. -/
def Admits (T : Set LocalSchedule) (entry : Entry) (log : CallLog) (c : Call) : Prop :=
  (∀ job, c = .insert job → ∃ request id now, job = enqueuedJob request id now ∧
    ∀ due, request.scheduledAt = some due → due ∈ T) ∧
  ∀ r, c.Reaches r → OnTime entry log r

section Keeps
variable {T : Set LocalSchedule} {entry : Entry} {log : CallLog}

/-- The account of an entry point's task. -/
abbrev Publishes {α : Type} (T : Set LocalSchedule) (entry : Entry) (final : CallLog → α → Prop)
    (log : CallLog) (p : Task α) : Prop := p.Keeps (Backed T) (Admits T entry) final log

/-- A call that inserts nothing and reaches nobody is admitted. -/
theorem admits_quiet {c : Call} (hins : ∀ job, c ≠ .insert job) (hreach : ∀ r, ¬ c.Reaches r) :
    Admits T entry log c :=
  ⟨fun job he => absurd he (hins job), fun r hr => absurd hr (hreach r)⟩

/-- A dispatch brings to providers the request itself, if it is valid. -/
theorem reaches_dispatch {request r : PublishRequest}
    (h : Call.Reaches (.dispatch .video request) r) :
    r = request ∧ request.validate = .ok () := by
  obtain ⟨registry, call, hcall, rfl⟩ := h
  obtain ⟨he, -, hvalid⟩ := dispatchAll_calls hcall
  exact ⟨he, hvalid⟩

theorem admits_dispatch {request : PublishRequest}
    (h : request.validate = .ok () → OnTime entry log request) :
    Admits T entry log (.dispatch .video request) := by
  refine ⟨fun job he => (by cases he), fun r hr => ?_⟩
  obtain ⟨rfl, hvalid⟩ := reaches_dispatch hr
  exact h hvalid

/-- **A front end that dispatches at once is on time if its request is.** -/
theorem keeps_dispatchAndRecord {α : Type} {request : PublishRequest} {now : DateTime}
    {done : ProviderDispatchReport → α} {lost : α} {failed : DomainError → α}
    (h : request.validate = .ok () → OnTime entry log request) :
    Publishes T entry (fun _ _ => True) log (dispatchAndRecord request now done lost failed) := by
  refine ⟨admits_dispatch h, fun result _ => ?_⟩
  rcases result with e | report
  · trivial
  · refine ⟨admits_quiet (by simp) (fun r => id), fun recorded _ => ?_⟩
    rcases recorded with e | record <;> trivial

/-- A request handed in without a schedule is on time. -/
theorem onTime_given {request : PublishRequest} (hmem : request ∈ entry.given)
    (hs : request.scheduledAt = none) : OnTime entry log request := .unscheduled request hmem hs rfl

theorem keeps_batch {turns : List BatchTurn}
    (hgiven : ∀ turn ∈ turns, ∀ row fileName request, turn.item = .ready row fileName request →
      request ∈ entry.given)
    (hcareful : Entry.Careful T (.cliBatch turns)) :
    Publishes T entry (fun _ _ => True) log (dispatchItems turns) := by
  induction turns generalizing log with
  | nil => trivial
  | cons turn rest ih =>
    have hrest : ∀ log, Publishes T entry (fun _ _ => True) log (dispatchItems rest) :=
      fun log => ih (fun other hother => hgiven other (List.mem_cons_of_mem _ hother))
        fun other hother => hcareful other (List.mem_cons_of_mem _ hother)
    refine keeps_bind (keeps_mono (F := fun _ _ => True) ?_ fun log' outcome _ =>
      keeps_bind (keeps_mono (hrest log') fun _ _ _ => trivial))
    unfold dispatchItem
    split
    · rename_i row fileName request hitem
      split
      · rename_i source hsource
        split
        · rename_i hre
          refine keeps_dispatchAndRecord fun hvalid => onTime_given ?_ ?_
          · exact hgiven turn List.mem_cons_self row fileName request hitem
          · exact hcareful turn List.mem_cons_self row fileName request source hitem hsource hre
              hvalid
        · trivial
      · trivial
    · trivial

theorem keeps_mcp {request : PublishRequest} {now : DateTime} (hmem : request ∈ entry.given)
    (hT : ∀ due, request.scheduledAt = some due → due ∈ T) :
    Publishes T entry (fun _ _ => True) log (publishVideoResult request now) := by
  unfold publishVideoResult
  split
  · refine ⟨admits_quiet (by simp) (fun r => id), fun allocated hbacked => ?_⟩
    rcases allocated with e | job
    · trivial
    · obtain ⟨id, rfl⟩ := hbacked
      refine ⟨⟨fun job he => ?_, fun r hr => hr.elim⟩, fun inserted _ => ?_⟩
      · cases he
        exact ⟨request, id, now, rfl, hT⟩
      · rcases inserted with e | u <;> trivial
  · rename_i hguard
    rw [Bool.or_eq_true, not_or] at hguard
    exact keeps_dispatchAndRecord fun _ => onTime_given hmem (by simpa using hguard.2)

theorem keeps_desktop {localRunnerRegistry : List String → List Platform → Except DesktopError Unit}
    {input : DispatchToLocalRunnerInput} {now : DateTime}
    (hentry : entry = .desktopDispatch localRunnerRegistry input now) :
    Publishes T entry (fun _ _ => True) log
      (dispatchToLocalRunner localRunnerRegistry input now) := by
  unfold dispatchToLocalRunner
  split
  · trivial
  split
  · trivial
  rename_i hguard
  cases htargets : input.targets.mapM Platform.fromStr with
  | error e => trivial
  | ok targets =>
    dsimp only
    split
    · trivial
    split
    · trivial
    refine keeps_dispatchAndRecord fun _ => onTime_given ?_ rfl
    have hnone : input.scheduledAt = none := by simpa using hguard
    rw [hentry, Entry.given, htargets, hnone]
    exact List.mem_singleton_self _

theorem keeps_runner {service : RunnerService} {body : ProviderRunnerRequest}
    (hmem : body.request ∈ entry.given)
    (hcareful : Entry.Careful T (.runnerPublish service body)) :
    Publishes T entry (fun _ _ => True) log (runnerPublish service body) := by
  unfold runnerPublish
  split
  · trivial
  rename_i hacceptable
  split
  · trivial
  rename_i hexecutor
  have hnone : service.Stages body.request.source → body.request.scheduledAt = none :=
    hcareful (by simpa using hacceptable) (by simpa using hexecutor)
  have hexec : ∀ request, request = { body.request with source := request.source } →
      service.Stages body.request.source →
      Admits T entry log (.execute body.platform request) := by
    intro request he hstages
    refine ⟨fun job hj => (by cases hj), fun r hr => ?_⟩
    cases hr
    exact .unscheduled body.request hmem (hnone hstages) he
  refine keeps_bind (keeps_mono (F := fun _ _ => True) ?_ fun log' reply _ => ?_)
  · unfold publishWithStagedMedia
    cases hsource : body.request.source with
    | localFile path =>
      refine ⟨hexec body.request rfl ?_, fun _ _ => trivial⟩
      rw [hsource]
      trivial
    | remoteUrl url =>
      dsimp only
      cases hmedia : service.remoteMedia with
      | none => trivial
      | some support =>
        dsimp only
        cases hstage : support.stage (.remoteUrl url) with
        | error reason => trivial
        | ok path =>
          refine ⟨hexec _ rfl ?_, fun reply _ => ?_⟩
          · rw [hsource]
            exact ⟨support, path, hmedia, hstage⟩
          · rcases reply with reason | jobId
            · trivial
            · dsimp only
              cases support.cleanup <;> trivial
  · rcases reply with reason | jobId
    · trivial
    · dsimp only
      split <;> trivial

/-- A claimed job's turn brings to providers its request without the schedule, and nothing else. -/
theorem keeps_turn {articleRunner : Bool} {dueThrough : LocalSchedule} {now : DateTime}
    {batchSize : Nat} {jobs : List ScheduledJob} {job : ScheduledJob} {due : LocalSchedule}
    (hentry : entry = .tick articleRunner dueThrough now batchSize)
    (hclaim : ⟨.claim .video dueThrough now batchSize, Except.ok jobs⟩ ∈ log) (hjob : job ∈ jobs)
    (hs : job.request.scheduledAt = some due) (hdue : job.dueAt = some due)
    (hle : due.NotAfter dueThrough) :
    Publishes T entry (fun log _ => ⟨.claim .video dueThrough now batchSize, Except.ok jobs⟩ ∈ log)
      log (handleClaimed .video true now job) := by
  refine ⟨admits_dispatch fun _ => ?_, fun result _ => ?_⟩
  · exact .due articleRunner dueThrough now batchSize jobs job due hentry hclaim hjob hs hdue hle
      rfl
  refine ⟨admits_quiet (by simp) (fun r => id), fun completed _ => ?_⟩
  rcases completed with e | done
  · refine ⟨admits_quiet (by simp) (fun r => id), fun requeued _ => ?_⟩
    exact List.mem_append_left _ (List.mem_append_left _ (List.mem_append_left _ hclaim))
  · exact List.mem_append_left _ (List.mem_append_left _ hclaim)

/-- An article's turn brings no video anywhere. -/
theorem keeps_article {configured : Bool} {now : DateTime} {job : ArticleScheduledJob} :
    Publishes T entry (fun _ _ => True) log (handleClaimed .article configured now job) := by
  have hsettle : ∀ log (terminal : PublishState × String),
      Publishes T entry (fun _ _ => True) log (settle .article now job terminal) := by
    intro log terminal
    refine ⟨admits_quiet (by simp) (fun r => id), fun completed _ => ?_⟩
    rcases completed with e | done
    · exact ⟨admits_quiet (by simp) (fun r => id), fun _ _ => trivial⟩
    · trivial
  cases configured with
  | false => exact hsettle _ _
  | true => exact ⟨admits_quiet (by simp) (fun r => id), fun result _ => hsettle _ _⟩

/-- **A pass publishes the jobs of its own claim, when due.** -/
theorem keeps_pass {articleRunner : Bool} {dueThrough : LocalSchedule} {now : DateTime}
    {batchSize : Nat} (hentry : entry = .tick articleRunner dueThrough now batchSize)
    (hT : dueThrough ∈ T) :
    Publishes T entry (fun _ _ => True) log
      (runSchedulerTickAt articleRunner dueThrough now batchSize) := by
  refine ⟨admits_quiet (by simp) (fun r => id), fun claimed hbacked => ?_⟩
  rcases claimed with e | jobs
  · trivial
  have hdue := hbacked hT
  refine keeps_bind (p := Prog.forEach jobs (handleClaimed .video true now))
    (keeps_mono (keeps_forEach (I := fun rest log => (∀ job ∈ rest, job ∈ jobs) ∧
      ⟨.claim .video dueThrough now batchSize, Except.ok jobs⟩ ∈ log) ?_ ?_) fun log _ _ => ?_)
  · exact ⟨fun job hjob => hjob, List.mem_append_right _ (List.mem_singleton_self _)⟩
  · intro job rest log hI
    obtain ⟨hall, hclaim⟩ := hI
    have hjob := hall job List.mem_cons_self
    obtain ⟨due, hs, hcolumn, hle⟩ := hdue job hjob
    refine keeps_mono (keeps_turn hentry hclaim hjob hs hcolumn hle) fun log _ hlog => ⟨?_, hlog⟩
    exact fun job' hjob' => hall job' (List.mem_cons_of_mem job hjob')
  refine ⟨admits_quiet (by simp) (fun r => id), fun claimed' _ => ?_⟩
  rcases claimed' with e | articles
  · trivial
  refine keeps_bind (p := Prog.forEach articles (handleClaimed .article articleRunner now))
    (keeps_mono (keeps_forEach (I := fun _ _ => True) trivial fun job rest log _ => keeps_article)
      fun log _ _ => trivial)

/-- **A careful entry point is on time.** -/
theorem keeps_entry (h : entry.Careful T) :
    Publishes T entry (fun _ _ => True) [] entry.program := by
  have hdiscard : ∀ {α : Type} (p : Task α), Publishes T entry (fun _ _ => True) [] p →
      Publishes T entry (fun _ _ => True) [] p.discard :=
    fun p hp => keeps_bind (keeps_mono hp fun _ _ _ => trivial)
  cases entry with
  | cliPublish request now =>
    exact hdiscard _ (keeps_dispatchAndRecord fun hvalid =>
      onTime_given (List.mem_singleton_self _) (h hvalid))
  | cliBatch turns =>
    refine hdiscard _ (keeps_bind (keeps_mono (keeps_batch ?_ h) fun _ _ _ => trivial))
    intro turn hturn row fileName request he
    exact List.mem_filterMap.mpr ⟨turn, hturn, by rw [he]⟩
  | daemonPublish request now =>
    exact hdiscard _ (keeps_dispatchAndRecord fun hvalid =>
      onTime_given (List.mem_singleton_self _) (h hvalid))
  | mcpPublish request now => exact hdiscard _ (keeps_mcp (List.mem_singleton_self _) h)
  | desktopDispatch localRunnerRegistry input now => exact hdiscard _ (keeps_desktop rfl)
  | tick articleRunner dueThrough updatedAt batchSize => exact hdiscard _ (keeps_pass rfl h)
  | runnerPublish service body => exact hdiscard _ (keeps_runner (List.mem_singleton_self _) h)

end Keeps

/-! ## 3. Rows are due when their requests say -/

section Rows
variable {T : Set LocalSchedule}

/-- The due time of a row is the schedule of its request, and one of `T`. -/
structure DueAsScheduled (T : Set LocalSchedule) (row : JobRow) : Prop where
  column : ∀ request, videoQueue.decode row.requestJson = .ok request →
    request.scheduledAt.map (·.text) = row.dueAt
  known : ∀ text, row.dueAt = some text → (⟨text⟩ : LocalSchedule) ∈ T

theorem dueAsScheduled_enqueued {request : PublishRequest} {id : String} {now : DateTime}
    {row : JobRow} (hto : videoQueue.jobToRow (enqueuedJob request id now) = .ok row)
    (hT : ∀ due, request.scheduledAt = some due → due ∈ T) : DueAsScheduled T row := by
  obtain ⟨hencode, -, -, hcolumn, -⟩ := QueueTable.jobToRow_ok hto
  have hdue : row.dueAt = request.scheduledAt.map (·.text) := hcolumn
  refine ⟨fun request' hdecode => ?_, fun text htext => ?_⟩
  · have he : request' = request.runnerSafe :=
      Except.ok.inj (hdecode.symm.trans (videoQueue.decode_encode hencode))
    rw [he, hdue, PublishRequest.runnerSafe_scheduledAt]
  · rw [hdue, Option.map_eq_some_iff] at htext
    obtain ⟨due, hs, rfl⟩ := htext
    exact hT due hs

/-- **A call keeps rows due as scheduled.** -/
theorem dueAsScheduled_change {entry : Entry} {log : CallLog} {c : Call} {r : c.Reply}
    {s s' : Store} (hadmits : Admits T entry log c) (h : CallChange c r s s')
    (hs : ∀ row ∈ s.jobs.rows, DueAsScheduled T row) :
    ∀ row ∈ s'.jobs.rows, DueAsScheduled T row := by
  have hraise : ∀ ids next now, ∀ row ∈ (videoQueue.raise s ids next now).jobs.rows,
      DueAsScheduled T row := by
    intro ids next now row hrow
    rcases QueueTable.mem_raise (q := videoQueue) hrow with ⟨hold, -⟩ | ⟨old, hold, -, rfl⟩
    · exact hs row hold
    · exact ⟨(hs old hold).column, (hs old hold).known⟩
  cases h with
  | same _ hjobs =>
    rw [hjobs]
    exact hs
  | inserted job new hcall _ hto hins =>
    obtain ⟨request, id, now, rfl, hT⟩ := hadmits.1 job hcall
    intro row hrow
    rw [(Table.insert_eq_some hins).2, List.mem_append, List.mem_singleton] at hrow
    rcases hrow with hrow | rfl
    · exact hs row hrow
    · exact dueAsScheduled_enqueued hto hT
  | claimed dueThrough now limit _ _ _ hjobs =>
    rw [hjobs]
    exact hraise _ _ _
  | settled id revision next now _ _ hjobs =>
    rw [hjobs]
    exact hraise _ _ _

/-- **The jobs of a claim have the schedules of their requests, and are due through it.** -/
theorem backed_claim (hT : ∀ due ∈ T, due.Accepted) (hagree : AgreesOn T) {s s' : Store}
    {dueThrough : LocalSchedule} {now : DateTime} {limit : Nat} {jobs : List ScheduledJob}
    (hs : ∀ row ∈ s.jobs.rows, DueAsScheduled T row) (hthrough : dueThrough ∈ T)
    (h : Sql.Runs (videoQueue.claim dueThrough now limit) s (.ok jobs) s') {job : ScheduledJob}
    (hjob : job ∈ jobs) : ∃ due, job.request.scheduledAt = some due ∧ job.dueAt = some due ∧
      due.NotAfter dueThrough := by
  obtain ⟨candidates, hall, rfl, -⟩ := QueueTable.claim_ok h
  obtain ⟨current, hcurrent, rfl⟩ := List.mem_map.mp hjob
  obtain ⟨row, hrow, hread⟩ := QueueTable.row_of_mem hall hcurrent
  obtain ⟨hfind, -, text, htext, hle⟩ := QueueTable.mem_dueRows hrow
  obtain ⟨-, -, -, hdecode, hparse, -⟩ := QueueTable.rowToJob_ok hread
  obtain ⟨hcolumn, hknown⟩ := hs row (Table.find?_mem hfind)
  have hmem := hknown text htext
  obtain ⟨ta, hta⟩ := hT _ hmem
  obtain ⟨tb, htb⟩ := hT _ hthrough
  refine ⟨⟨text⟩, ?_, ?_, ta, tb, hta, htb, (hagree _ hmem _ hthrough ta tb hta htb).mp hle⟩
  · have hschedule := hcolumn current.request hdecode
    rw [htext, Option.map_eq_some_iff] at hschedule
    obtain ⟨due, hdue, he⟩ := hschedule
    change current.request.scheduledAt = _
    rw [hdue, ← he]
  · change current.dueAt = _
    rw [htext] at hparse
    change (LocalSchedule.parse text).map some = .ok current.dueAt at hparse
    rw [LocalSchedule.parse_of_accepted ⟨ta, hta⟩] at hparse
    exact (Except.ok.inj hparse).symm

theorem backed_of_handles (hT : ∀ due ∈ T, due.Accepted) (hagree : AgreesOn T) {c : Call}
    {r : c.Reply} {s s' : Store} (hs : ∀ row ∈ s.jobs.rows, DueAsScheduled T row)
    (h : c.Handles s r s') : Backed T ⟨c, r⟩ := by
  cases c with
  | allocate request now =>
    rcases r with e | job
    · trivial
    · exact ⟨_, (enqueueBegin_ok h).2.1⟩
  | claim l dueThrough now limit =>
    cases l with
    | article => trivial
    | video =>
      rcases r with e | jobs
      · trivial
      · exact fun hthrough job hjob => backed_claim hT hagree hs hthrough h hjob
  | _ => trivial

end Rows

/-! ## 4. Runs -/

/-- Every process keeps to its account, and rows are due as scheduled. -/
structure Punctual (T : Set LocalSchedule) (w : PublishPool) : Prop where
  keeps : w.Keeps (Backed T) (Admits T) (fun _ _ => True)
  rows : ∀ row ∈ w.state.jobs.rows, DueAsScheduled T row

section Runs
variable {T : Set LocalSchedule} {w w' : PublishPool} {e : PublishEvent}

theorem punctual_step (hT : ∀ due ∈ T, due.Accepted) (hagree : AgreesOn T) (h : Punctual T w)
    (hstep : PublishStep w e w') (hcareful : StartsCarefully T e) : Punctual T w' := by
  constructor
  · refine pool_keeps_step h.keeps hstep ?_ ?_
    · cases hstep with
      | called before after hcall => exact backed_of_handles hT hagree h.rows hcall
      | _ => trivial
    · cases e with
      | started entry => exact keeps_entry hcareful
      | _ => trivial
  · cases hstep with
    | @called entry log c k r s s' before after hcall =>
      have hadmits : Admits T entry log c := (h.keeps ⟨entry, log, .call c k⟩ (by simp)).1
      exact dueAsScheduled_change hadmits (callChange_of hcall) h.rows
    | started entry => exact h.rows
    | ended before after => exact h.rows
    | crashed before after => exact h.rows

end Runs

/-- **When scheduled videos are published on time.** Let the schedules of the jobs and passes be
    from a set of texts that compare as their dates do. In every run of the entry points, in any
    order and with any crashes, in which the CLI, its batch, the daemon and the runner are handed
    no valid request with a schedule: whatever reaches a provider or a runner's executor was
    claimed by this pass when due, its schedule cleared, or was handed in without one. -/
theorem publishes_on_time {T : Set LocalSchedule} (hT : ∀ due ∈ T, due.Accepted)
    (hagree : AgreesOn T) {events : List PublishEvent} {w : PublishPool}
    (h : Trace PublishStep ⟨.initial, []⟩ events w)
    (hcareful : ∀ e ∈ events, StartsCarefully T e) : ∀ e ∈ events, PublishesOnTime e := by
  intro e he
  obtain ⟨before, after, rfl⟩ := List.append_of_mem he
  obtain ⟨m, m', hbefore, hstep, -⟩ := h.at_event
  have hpunctual : Punctual T m := by
    refine hbefore.invariant_on (I := Punctual T) (P := StartsCarefully T)
      (fun e he => hcareful e (List.mem_append_left _ he)) ?_ ?_
    · exact ⟨fun p hp => (by cases hp), fun row hrow => (by cases hrow)⟩
    · exact fun _ _ _ he hI hstep => punctual_step hT hagree hI hstep he
  cases e with
  | called entry log c => exact (pool_permitted hpunctual.keeps hstep).2
  | _ => trivial

/-! ## 5. A run on time, and four that are not -/

/-- The schedules of the sample run. -/
def sampleTimes : Set LocalSchedule := {due | due.Canonical}

theorem sampleDue_canonical : sampleDue.Canonical :=
  ⟨⟨2026, 7, 29, 9, 0, 0, 0, by decide⟩, by decide, by decide, by decide +kernel⟩

def samplePass : Entry := .tick true sampleDue sampleNow 5

/-- The dispatch of the sample pass, after its claim. -/
def sampleDispatched : PublishEvent :=
  .called samplePass
    [⟨.claim .video sampleDue sampleNow 5,
      Except.ok [QueueTable.claimedJob sampleNow sampleJob]⟩]
    ⟨.dispatch .video (Lane.unscheduled .video scheduledRequest), sampleReply⟩

/-- The MCP tool is handed `scheduledRequest`; a pass claims its job, dispatches it and crashes. -/
def samplePublication : List PublishEvent :=
  [.started (.mcpPublish scheduledRequest sampleNow),
    .called (.mcpPublish scheduledRequest sampleNow) []
      ⟨.allocate scheduledRequest sampleNow, Except.ok sampleJob⟩,
    .called (.mcpPublish scheduledRequest sampleNow)
      [⟨.allocate scheduledRequest sampleNow, Except.ok sampleJob⟩]
      ⟨.insert sampleJob, Except.ok ()⟩,
    .ended (.mcpPublish scheduledRequest sampleNow)
      [⟨.allocate scheduledRequest sampleNow, Except.ok sampleJob⟩,
        ⟨.insert sampleJob, Except.ok ()⟩],
    .started samplePass,
    .called samplePass []
      ⟨.claim .video sampleDue sampleNow 5, Except.ok [QueueTable.claimedJob sampleNow sampleJob]⟩,
    sampleDispatched,
    .crashed samplePass
      [⟨.claim .video sampleDue sampleNow 5,
        Except.ok [QueueTable.claimedJob sampleNow sampleJob]⟩,
        ⟨.dispatch .video (Lane.unscheduled .video scheduledRequest), sampleReply⟩]]

theorem sample_publication :
    Trace PublishStep ⟨.initial, []⟩ samplePublication ⟨sampleClaimed, []⟩ := by
  have hdispatch : Call.Handles (.dispatch .video (Lane.unscheduled .video scheduledRequest))
      sampleClaimed sampleReply sampleClaimed := ⟨⟨queueingRegistry, rfl⟩, rfl⟩
  refine .cons (.started (Entry.mcpPublish scheduledRequest sampleNow)) ?_
  refine .cons (poolStep_called sample_allocate rfl) ?_
  refine .cons (poolStep_called sample_insert rfl) ?_
  refine .cons (.ended [] []) ?_
  refine .cons (.started samplePass) ?_
  refine .cons (poolStep_called sample_claim rfl) ?_
  refine .cons (poolStep_called hdispatch rfl) ?_
  exact .single (.crashed [] [])

theorem publishes_on_time_sample : PublishesOnTime sampleDispatched := by
  have hmem : sampleDispatched ∈ samplePublication := by simp [samplePublication]
  refine publishes_on_time (T := sampleTimes) (fun due h => LocalSchedule.accepted_of_canonical h)
    agreesOn_canonical sample_publication ?_ sampleDispatched hmem
  have hdue : ∀ due, scheduledRequest.scheduledAt = some due → due ∈ sampleTimes := by
    intro due hs
    cases hs
    exact sampleDue_canonical
  simp only [samplePublication, List.forall_mem_cons, StartsCarefully, Entry.Careful, samplePass,
    sampleDispatched, List.not_mem_nil, false_imp_iff, implies_true, and_true, true_and]
  exact ⟨hdue, sampleDue_canonical⟩

/-- The entry point, called so, publishes something that is not on time. -/
def PublishesEarly (entry : Entry) : Prop :=
  ∃ events w, Trace PublishStep ⟨.initial, []⟩ (.started entry :: events) w ∧
    ∃ e ∈ events, ¬ PublishesOnTime e

/-- An entry point whose first call brings on a scheduled request publishes early. -/
theorem early_of_call {entry : Entry} {c : Call} {r : c.Reply} {request : PublishRequest}
    (hprogram : ∃ k, entry.program = .call c k) (hcall : c.Handles .initial r .initial)
    (hreach : c.Reaches request) (hs : request.scheduledAt ≠ none) : PublishesEarly entry := by
  obtain ⟨k, hprogram⟩ := hprogram
  refine ⟨[.called entry [] ⟨c, r⟩], _, .cons (.started entry)
    (.single (poolStep_called hcall hprogram)), _, List.mem_singleton_self _, fun h => hs ?_⟩
  exact (h request hreach).unscheduled_request

/-- A dispatch of `scheduledRequest` brings it to a provider. -/
theorem scheduled_reaches : Call.Reaches (.dispatch .video scheduledRequest) scheduledRequest := by
  refine ⟨queueingRegistry, ?_⟩
  decide +kernel

theorem early_of_dispatch {entry : Entry}
    (hprogram : ∃ k, entry.program = .call (.dispatch .video scheduledRequest) k) :
    PublishesEarly entry :=
  early_of_call (c := .dispatch .video scheduledRequest)
    (r := (queueingRegistry.dispatchAll scheduledRequest).2) hprogram
    ⟨⟨queueingRegistry, rfl⟩, rfl⟩ scheduled_reaches (by simp [scheduledRequest])

/-- A runner with an executor, and a body it accepts. -/
def sampleRunner : RunnerService := ⟨true, none⟩

def sampleBody : ProviderRunnerRequest := ⟨1, .douyin, scheduledRequest⟩

theorem sampleBody_program :
    ∃ k, (Entry.runnerPublish sampleRunner sampleBody).program =
      .call (.execute .douyin scheduledRequest) k := by
  have hacceptable : sampleBody.acceptable = true := by decide +kernel
  apply Exists.intro
  change (runnerPublish sampleRunner sampleBody).discard = _
  unfold runnerPublish
  rw [hacceptable]
  rfl

/-- **The CLI, its batch, the daemon's route and the runner's handler are handed a valid request
    for July 29, and publish it at once.** -/
theorem published_early :
    PublishesEarly (.cliPublish scheduledRequest sampleNow) ∧
    PublishesEarly (.cliBatch
      [⟨.ready 2 "video.mp4" scheduledRequest, fun _ => .ok (), sampleNow⟩]) ∧
    PublishesEarly (.daemonPublish scheduledRequest sampleNow) ∧
    PublishesEarly (.runnerPublish sampleRunner sampleBody) := by
  refine ⟨early_of_dispatch ⟨_, rfl⟩, early_of_dispatch ⟨_, rfl⟩, early_of_dispatch ⟨_, rfl⟩, ?_⟩
  exact early_of_call (c := .execute .douyin scheduledRequest) (r := Except.ok "1")
    sampleBody_program rfl rfl (by simp [scheduledRequest])

end MatriXpost
