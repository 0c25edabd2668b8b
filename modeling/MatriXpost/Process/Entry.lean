/-
  File:      MatriXpost/Process/Entry.lean
  Subject:   THE ENTRY POINTS THAT CAN PUBLISH A VIDEO: the CLI with its batch, the daemon's route,
             the MCP tool, the desktop, and the handler of a runner.

  Each is a task over the same calls; the clock it reads, what the file system answers and what
  staging a remote medium answers are arguments.

  * `Entry.program` is the task an entry point runs, the scheduler's pass among them.
-/
import MatriXpost.Process.Tick
import MatriXpost.Runner.Protocol

namespace MatriXpost

/-! ## 1. The CLI -/

def notPersisted : String := "local dispatch result could not be persisted"

/-- What the front ends that dispatch at once have in common: the dispatch, and its record. They
    differ in what they answer when both go well, when the record fails, and when the dispatch
    does. -/
def dispatchAndRecord {α : Type} (request : PublishRequest) (now : DateTime)
    (done : ProviderDispatchReport → α) (lost : α) (failed : DomainError → α) : Task α := do
  match ← Task.dispatch .video request with
  | .ok report => do
    match ← Task.recordDispatch request report now with
    | .ok _ => pure (done report)
    | .error _ => pure lost
  | .error error => pure (failed error)

/-- The result `emit` is given, when there is one. -/
def Emitted.present {α : Type} (e : Emitted α) : Emitted (Option α) :=
  ⟨e.ok, e.code, some e.result, e.message⟩

/-- `dispatch_publish`. -/
def dispatchPublish (request : PublishRequest) (now : DateTime) :
    Task (Emitted (Option DispatchEmission)) :=
  dispatchAndRecord request now (fun report => (emitDispatch report).present)
    (emit 4 none (some notPersisted)) (fun error => emit 2 none (some error.text))

/-! ## 2. The batch -/

inductive BatchItem where
  | ready (row : Nat) (fileName : String) (request : PublishRequest)
  | skipped (row : Nat) (fileName : String) (reason : String)

/-- What a dispatched row is recorded as. -/
def dispatchRow (row : Nat) (fileName : String) (request : PublishRequest) (now : DateTime) :
    Task BatchRowOutcome :=
  dispatchAndRecord request now (fun report => rowOutcome row fileName (.ok report))
    (rowOutcome row fileName (.error notPersisted))
    (fun error => rowOutcome row fileName (.error error.text))

/-- A turn of the loop: the item, what `revalidate_source` answers in the plan's directory at this
    time, and the clock. -/
structure BatchTurn where
  item : BatchItem
  revalidate : PathBuf → Except String Unit
  now : DateTime

/-- The body of the loop. -/
def dispatchItem (turn : BatchTurn) : Task BatchRowOutcome :=
  match turn.item with
  | .ready row fileName request =>
    match request.source with
    | .localFile source =>
      match turn.revalidate source with
      | .ok _ => dispatchRow row fileName request turn.now
      | .error reason => pure ⟨row, fileName, .skipped reason⟩
    | .remoteUrl _ => pure ⟨row, fileName, .skipped "batch source is unexpectedly remote"⟩
  | .skipped row fileName reason => pure ⟨row, fileName, .skipped reason⟩

/-- The loop over the plan's items. -/
def dispatchItems : List BatchTurn → Task (List BatchRowOutcome)
  | [] => pure []
  | turn :: rest => do
    let outcome ← dispatchItem turn
    let outcomes ← dispatchItems rest
    pure (outcome :: outcomes)

def BatchRowState.isSkipped : BatchRowState → Bool
  | .skipped _ => true
  | _ => false

def BatchRowState.isQueued : BatchRowState → Bool
  | .queued _ => true
  | _ => false

def BatchRowState.isUnavailable : BatchRowState → Bool
  | .unavailable _ => true
  | _ => false

def BatchRowState.isRejected : BatchRowState → Bool
  | .rejected _ => true
  | _ => false

/-- The exit code of a batch. -/
def classify (rows : List BatchRowOutcome) : Nat :=
  let skipped := rows.any (·.state.isSkipped)
  let attempted := rows.filter fun row => !row.state.isSkipped
  if !skipped && !attempted.isEmpty && attempted.all (·.state.isQueued) then 0
  else if !skipped && !attempted.isEmpty && attempted.all (·.state.isUnavailable) then 3
  else 4

structure BatchSummary where
  rows : List BatchRowOutcome
  queued : Nat
  unavailable : Nat
  rejected : Nat
  skipped : Nat

/-- One row more in its count. -/
def BatchSummary.count (result : BatchSummary) (row : BatchRowOutcome) : BatchSummary :=
  match row.state with
  | .queued _ => { result with queued := result.queued + 1 }
  | .unavailable _ => { result with unavailable := result.unavailable + 1 }
  | .rejected _ => { result with rejected := result.rejected + 1 }
  | .skipped _ => { result with skipped := result.skipped + 1 }

def summary (rows : List BatchRowOutcome) : BatchSummary :=
  rows.foldl BatchSummary.count ⟨rows, 0, 0, 0, 0⟩

/-- `batch::dispatch`. -/
def batchDispatch (turns : List BatchTurn) : Task (Emitted BatchSummary) := do
  let outcomes ← dispatchItems turns
  let code := classify outcomes
  let message :=
    if code = 0 then
      "all rows were queued by local runners; remote platform processing is not confirmed"
    else if code = 3 then "every attempted row was unavailable; no publishing was attempted"
    else "batch completed with skipped, rejected, or mixed local runner outcomes"
  pure (emit code (summary outcomes) (some message))

/-! ## 3. The daemon -/

/-- A reply that carries data. -/
def ApiResponse.present {α : Type} (r : ApiResponse α) : ApiResponse (Option α) :=
  ⟨r.status, r.ok, r.success, r.outcome, some r.data, r.message⟩

/-- The route `publish`, from a request `parse_publish` has read. -/
def publish (request : PublishRequest) (now : DateTime) :
    Task (ApiResponse (Option PublishReply)) :=
  dispatchAndRecord request now (fun report => (dispatchResponse request report).present)
    (apiResponse 500 "failed" none notPersisted)
    (fun error => apiResponse 400 "rejected" none error.text)

/-! ## 4. The MCP service -/

def jobResult (job : ScheduledJob) : JobResult := ⟨job.id, job.state, job.dueAt, job.revision⟩

def persistLocalVideoJob (request : PublishRequest) (now : DateTime) :
    Task (Except String PublicationResult) := do
  match ← Task.enqueue request now with
  | .error error => pure (.error error.text)
  | .ok job =>
    let outcome := if request.draft then "draft_locally" else "scheduled_locally"
    let message :=
      if request.draft then "local draft was persisted; no remote publishing was attempted"
      else "local scheduled job was persisted; no remote publishing was attempted"
    pure (.ok ⟨outcome, false, false, true, some (jobResult job), none, message⟩)

/-- `publish_video_result`, from a request `video_request` has built. -/
def publishVideoResult (request : PublishRequest) (now : DateTime) :
    Task (Except String PublicationResult) :=
  if request.draft || request.scheduledAt.isSome then persistLocalVideoJob request now
  else
    dispatchAndRecord request now
      (fun report => .ok { videoDispatchResult report with persisted := true })
      (.error notPersisted) (fun error => .error error.text)

/-! ## 5. The desktop -/

/-- Strict one-shot request for already-running, loopback-only provider runners. -/
structure DispatchToLocalRunnerInput where
  title : String
  mediaPath : String
  targets : List String
  scheduledAt : Option String
  providerRunners : List String
  confirmed : Bool

structure LocalRunnerDispatchOutcome where
  platform : String
  state : String
  reason : String

structure LocalRunnerDispatchReport where
  outcomes : List LocalRunnerDispatchOutcome
  remotePublishConfirmed : Bool

def localRunnerDispatchOutcome (platform : Platform) (outcome : DispatchOutcome) :
    LocalRunnerDispatchOutcome :=
  match outcome with
  | .queued _ => ⟨platform.asStr, "runner_accepted",
      "the local runner accepted the request; remote platform processing is not confirmed"⟩
  | .unavailable _ => ⟨platform.asStr, "runner_unavailable",
      "the declared local runner is unavailable for this platform"⟩
  | .rejected _ => ⟨platform.asStr, "runner_rejected",
      "the local runner did not accept this request"⟩

/-- The request the desktop builds. -/
def desktopRequest (input : DispatchToLocalRunnerInput) (targets : List Platform) :
    PublishRequest where
  source := .localFile (.utf8 (trim input.mediaPath))
  title := input.title
  shortTitle := none
  tags := []
  address := none
  draft := false
  bt2 := none
  scheduledAt := none
  taskName := none
  account := default
  wechatLink := default
  overrides := []
  targets := targets

def localRunnerDispatchReport (request : PublishRequest) (now : DateTime) :
    Task (Except DesktopError LocalRunnerDispatchReport) :=
  let outcomes (report : ProviderDispatchReport) := Platform.all.filterMap fun platform =>
    (report.outcomes platform).map (localRunnerDispatchOutcome platform)
  dispatchAndRecord request now (fun report => .ok ⟨outcomes report, false⟩)
    (.error (.storage notPersisted))
    (fun _ => .error (.invalidRequest "local runner dispatch request is invalid"))

/-- `dispatch_to_local_runner`; `localRunnerRegistry` reads the declared runners. -/
def dispatchToLocalRunner
    (localRunnerRegistry : List String → List Platform → Except DesktopError Unit)
    (input : DispatchToLocalRunnerInput) (now : DateTime) :
    Task (Except DesktopError LocalRunnerDispatchReport) :=
  if !input.confirmed then
    pure (.error (.invalidRequest "explicit local runner confirmation is required"))
  else if input.scheduledAt.isSome then
    pure (.error (.invalidRequest
      "scheduled dispatch is not available; save a local draft instead"))
  else
    match input.targets.mapM Platform.fromStr with
    | .error error => pure (.error (.invalidRequest error.text))
    | .ok targets =>
      let request := desktopRequest input targets
      match request.validate with
      | .error error => pure (.error (.invalidRequest error.text))
      | .ok _ =>
        match localRunnerRegistry input.providerRunners request.targets with
        | .error error => pure (.error error)
        | .ok _ => localRunnerDispatchReport request now

/-! ## 6. The runner -/

def remoteMediaExecutionRejection : String := "remote media publication failed"

/-- What staging answers: the staged file, and how its cleanup goes. -/
structure RemoteMediaSupport where
  stage : MediaSource → Except String PathBuf
  cleanup : Except String Unit

/-- What a runner has for the handler: an executor, and the staging of remote media. -/
structure RunnerService where
  executor : Bool
  remoteMedia : Option RemoteMediaSupport

def publishWithStagedMedia (remoteMedia : Option RemoteMediaSupport) (platform : Platform)
    (request : PublishRequest) : Task (Except String String) :=
  match request.source with
  | .localFile _ => Task.execute platform request
  | .remoteUrl _ =>
    match remoteMedia with
    | none => pure (.error
        "remote media staging is disabled; start the runner with --remote-media-dir")
    | some support =>
      match support.stage request.source with
      | .error reason => pure (.error reason)
      | .ok path => do
        match ← Task.execute platform { request with source := .localFile path } with
        | .error reason => pure (.error reason)
        | .ok jobId =>
          match support.cleanup with
          | .error _ => pure (.error "staged remote media cleanup failed")
          | .ok _ => pure (.ok jobId)

/-- The checks of the handler. -/
def ProviderRunnerRequest.acceptable (body : ProviderRunnerRequest) : Bool :=
  body.version == providerRunnerProtocolVersion && body.request.targets.contains body.platform &&
    body.request.validate.isOk && !body.request.hasAccountRouting

/-- The handler `publish` of a runner: an HTTP status and a response. -/
def runnerPublish (service : RunnerService) (body : ProviderRunnerRequest) :
    Task (Nat × ProviderRunnerResponse) :=
  if !body.acceptable then
    pure (400, .rejected providerRunnerProtocolVersion body.platform
      "invalid version, platform, or publish request")
  else if !service.executor then
    pure (200, .unavailable providerRunnerProtocolVersion body.platform
      "browser debugger address is not configured; no browser session was started")
  else do
    let remote := match body.request.source with
      | .remoteUrl _ => true
      | .localFile _ => false
    match ← publishWithStagedMedia service.remoteMedia body.platform body.request with
    | .ok jobId =>
      if !isBlank jobId then
        pure (200, .queued providerRunnerProtocolVersion body.platform jobId)
      else
        pure (200, .rejected providerRunnerProtocolVersion body.platform
          (if remote then remoteMediaExecutionRejection
            else "runner completed without a valid job identifier"))
    | .error reason =>
      pure (200, .rejected providerRunnerProtocolVersion body.platform
        (if remote then remoteMediaExecutionRejection else reason))

/-! ## 7. All of them -/

/-- An entry point with what it is called with. -/
inductive Entry where
  | cliPublish (request : PublishRequest) (now : DateTime)
  | cliBatch (turns : List BatchTurn)
  | daemonPublish (request : PublishRequest) (now : DateTime)
  | mcpPublish (request : PublishRequest) (now : DateTime)
  | desktopDispatch
      (localRunnerRegistry : List String → List Platform → Except DesktopError Unit)
      (input : DispatchToLocalRunnerInput) (now : DateTime)
  | tick (articleRunner : Bool) (dueThrough : LocalSchedule) (updatedAt : DateTime)
      (batchSize : Nat)
  | runnerPublish (service : RunnerService) (body : ProviderRunnerRequest)

def Entry.program : Entry → Task Unit
  | .cliPublish request now => (dispatchPublish request now).discard
  | .cliBatch turns => (batchDispatch turns).discard
  | .daemonPublish request now => (publish request now).discard
  | .mcpPublish request now => (publishVideoResult request now).discard
  | .desktopDispatch localRunnerRegistry input now =>
    (dispatchToLocalRunner localRunnerRegistry input now).discard
  | .tick articleRunner dueThrough updatedAt batchSize =>
    (runSchedulerTickAt articleRunner dueThrough updatedAt batchSize).discard
  | .runnerPublish service body => (MatriXpost.runnerPublish service body).discard

end MatriXpost
