/-
  File:      MatriXpost/Process/FrontEnds.lean
  Subject:   WHAT THE FRONT ENDS ANSWER. The CLI, the daemon, the MCP service and the desktop as
             programs that work and then give an answer, beside passes of the scheduler and
             handlers of runners over one database.

  An answer says up to four things: whether every runner completed, whether one was set to work at
  all, whether something was stored, and under which id. `PublishAnswer.asserts` reads them off;
  `Assertion.TrueOf` compares them with the calls the front end has made.
-/
import MatriXpost.Lib.Through
import MatriXpost.Process.Entry
import MatriXpost.WebDriver.Attempted

namespace MatriXpost

/-! ## 1. The front ends -/

/-- The job a scheduled article is answered with. -/
structure ArticleJobResult where
  id : String
  state : PublishState
  dueAt : LocalSchedule
  revision : Nat
deriving DecidableEq, Repr

/-- The `result` the CLI emits for an article. -/
inductive ArticleEmission where
  | notConfigured
  | queued (jobId : String)
  | unavailable (reason : String)
  | rejected (reason : String)
  | scheduled (job : ArticleJobResult)
deriving DecidableEq, Repr

/-- The durable result of a draft save. -/
structure DraftSaved where
  id : String
  state : String
  remotePublishAttempted : Bool
deriving DecidableEq, Repr

/-- What a front end answers. A pass of the scheduler and a runner's handler answer elsewhere. -/
inductive PublishAnswer where
  | cliPublish (emitted : Emitted (Option DispatchEmission))
  | cliBatch (emitted : Emitted (Option BatchSummary))
  | cliArticle (emitted : Emitted (Option ArticleEmission))
  | daemon (response : ApiResponse (Option PublishReply))
  | mcp (result : Except String PublicationResult)
  | desktop (result : Except DesktopError LocalRunnerDispatchReport)
  | desktopDraft (result : Except DesktopError DraftSaved)
  | background

/-- A call of a front end: one of the tasks', `enqueue_article`, or the answer it gives. -/
inductive FrontCall where
  | task (c : Call)
  | enqueueArticle (request : PublishArticleRequest) (now : DateTime)
  | answer (a : PublishAnswer)

namespace FrontCall

@[reducible] def Reply : FrontCall → Type
  | task c => c.Reply
  | enqueueArticle _ _ => Except DomainError ArticleScheduledJob
  | answer _ => Unit

def Handles : (c : FrontCall) → Store → c.Reply → Store → Prop
  | task c, s, r, s' => c.Handles s r s'
  | enqueueArticle request now, s, r, s' => Sql.Runs (MatriXpost.enqueueArticle request now) s r s'
  | answer _, s, _, s' => s' = s

end FrontCall

abbrev FrontTask (α : Type) := Prog FrontCall FrontCall.Reply α

abbrev FrontCalled := Called FrontCall FrontCall.Reply

namespace FrontTask

/-- A task among the calls of a front end. -/
def ofTask {α : Type} (p : Task α) : FrontTask α :=
  p.through fun c => Prog.perform (FrontCall.task c)

def enqueueArticle (request : PublishArticleRequest) (now : DateTime) :
    FrontTask (Except DomainError ArticleScheduledJob) :=
  Prog.perform (FrontCall.enqueueArticle request now)

/-- `dispatch` of the article runner. -/
def dispatchArticle (request : PublishArticleRequest) :
    FrontTask (Except DomainError ArticleDispatchOutcome) :=
  Prog.perform (FrontCall.task (.dispatch .article request))

end FrontTask

/-- The arm of `Command::Publish` for one video: the request as parsed, and the opening of the
    database. -/
def runPublish (parsed : Except String PublishRequest) (opened : Except String Unit)
    (now : DateTime) : Task (Emitted (Option DispatchEmission)) :=
  match parsed with
  | .error error => pure (emit 2 none (some error))
  | .ok request =>
    match opened with
    | .error error => pure (emit 4 none (some error))
    | .ok _ => dispatchPublish request now

/-- The arm for a directory: the prepared plan, and the opening of the database. -/
def runPublishDir (prepared : Except String (List BatchTurn)) (opened : Except String Unit) :
    Task (Emitted (Option BatchSummary)) :=
  match prepared with
  | .error error => pure (emit 2 none (some error))
  | .ok turns =>
    match opened with
    | .error error => pure (emit 4 none (some error))
    | .ok _ => do
      let emitted ← batchDispatch turns
      pure emitted.present

/-- `emit_article_dispatch_outcome`. -/
def emitArticleDispatchOutcome : ArticleDispatchOutcome → Emitted (Option ArticleEmission)
  | .queued jobId => emit 0 (some (.queued jobId)) (some
      ("local article runner completed its WebDriver workflow; " ++
        "remote platform processing is not confirmed"))
  | .unavailable reason => emit 3 (some (.unavailable reason))
      (some "article runner was unavailable; no remote publication success is claimed")
  | .rejected reason _ => emit 4 (some (.rejected reason))
      (some "article runner dispatch was rejected; no remote publication success is claimed")

/-- `dispatch_article`. -/
def dispatchArticle (runner : Bool) (request : PublishArticleRequest) :
    FrontTask (Emitted (Option ArticleEmission)) :=
  if !runner then
    pure (emit 3 (some .notConfigured)
      (some "no article runner is configured; no publishing was attempted"))
  else do
    match ← FrontTask.dispatchArticle request with
    | .ok outcome => pure (emitArticleDispatchOutcome outcome)
    | .error error => pure (emit 2 none (some error.text))

/-- `schedule_article`. -/
def scheduleArticle (request : PublishArticleRequest) (now : DateTime) :
    FrontTask (Emitted (Option ArticleEmission)) := do
  match ← FrontTask.enqueueArticle request now with
  | .ok job => pure (emit 0 (some (.scheduled ⟨job.id, job.state, job.dueAt, job.revision⟩)) (some
      ("scheduled article was persisted for local runner work; " ++
        "no remote publishing was attempted")))
  | .error error => pure (emit 4 none (some error.text))

/-- The arm of `Command::PublishArticle`. -/
def runPublishArticle (runner : Bool) (opened : Except String Unit)
    (request : PublishArticleRequest) (now : DateTime) :
    FrontTask (Emitted (Option ArticleEmission)) :=
  match request.validate with
  | .error error => pure (emit 2 none (some error.text))
  | .ok _ =>
    if request.scheduledAt.isSome then
      match opened with
      | .error error => pure (emit 4 none (some error))
      | .ok _ => scheduleArticle request now
    else dispatchArticle runner request

def articleUnavailableResult : PublicationResult :=
  ⟨"unavailable", false, false, false, none, none,
    "no article runner is configured; no remote publishing was attempted"⟩

/-- `publish_article_result`, from a request `article_request` has built. -/
def publishArticleResult (runner : Bool) (request : PublishArticleRequest) (now : DateTime) :
    FrontTask (Except String PublicationResult) :=
  if request.scheduledAt.isSome then do
    match ← FrontTask.enqueueArticle request now with
    | .error error => pure (.error error.text)
    | .ok _ => pure (.ok ⟨"scheduled_locally", false, false, true, none, none,
        "scheduled article was persisted for local runner work; " ++
          "no remote publishing was attempted"⟩)
  else if !runner then pure (.ok articleUnavailableResult)
  else do
    match ← FrontTask.dispatchArticle request with
    | .error error => pure (.error error.text)
    | .ok outcome => pure (.ok (WebDriver.articleDispatchResult outcome))

structure SaveDraftInput where
  title : String
  mediaPath : String
  targets : List String
  scheduledAt : Option String

/-- `.filter(|value| !value.trim().is_empty()).map(LocalSchedule::parse).transpose()?`. -/
def draftSchedule : Option String → Except DomainError (Option LocalSchedule)
  | none => .ok none
  | some value => if isBlank value then .ok none else (LocalSchedule.parse value).map some

def localDraft (input : SaveDraftInput) (scheduledAt : Option LocalSchedule)
    (targets : List Platform) : PublishRequest where
  source := .localFile (.utf8 (trim input.mediaPath))
  title := input.title
  shortTitle := none
  tags := []
  address := none
  draft := true
  bt2 := none
  scheduledAt := scheduledAt
  taskName := none
  account := default
  wechatLink := default
  overrides := []
  targets := targets

/-- `save_local_draft`. -/
def saveLocalDraft (input : SaveDraftInput) (now : DateTime) :
    Task (Except DesktopError DraftSaved) :=
  match draftSchedule input.scheduledAt with
  | .error error => pure (.error (.invalidRequest error.text))
  | .ok scheduledAt =>
    match input.targets.mapM Platform.fromStr with
    | .error error => pure (.error (.invalidRequest error.text))
    | .ok targets =>
      let request := localDraft input scheduledAt targets
      match request.validate with
      | .error error => pure (.error (.invalidRequest error.text))
      | .ok _ => do
        match ← Task.enqueue request now with
        | .error error => pure (.error (.invalidRequest error.text))
        | .ok job => pure (.ok ⟨job.id, "draft", false⟩)

/-- A front end with what it is called with, or work in the background. -/
inductive Front where
  | cliPublish (parsed : Except String PublishRequest) (opened : Except String Unit)
      (now : DateTime)
  | cliBatch (prepared : Except String (List BatchTurn)) (opened : Except String Unit)
  | cliArticle (runner : Bool) (opened : Except String Unit) (request : PublishArticleRequest)
      (now : DateTime)
  | daemonPublish (request : PublishRequest) (now : DateTime)
  | mcpVideo (request : PublishRequest) (now : DateTime)
  | mcpArticle (runner : Bool) (request : PublishArticleRequest) (now : DateTime)
  | desktopDispatch
      (localRunnerRegistry : List String → List Platform → Except DesktopError Unit)
      (input : DispatchToLocalRunnerInput) (now : DateTime)
  | desktopDraft (input : SaveDraftInput) (now : DateTime)
  | background (entry : Entry)

namespace Front

/-- What it does, and the answer it comes to. -/
def work : Front → FrontTask PublishAnswer
  | cliPublish parsed opened now => do
    let emitted ← FrontTask.ofTask (runPublish parsed opened now)
    pure (.cliPublish emitted)
  | cliBatch prepared opened => do
    let emitted ← FrontTask.ofTask (runPublishDir prepared opened)
    pure (.cliBatch emitted)
  | cliArticle runner opened request now => do
    let emitted ← runPublishArticle runner opened request now
    pure (.cliArticle emitted)
  | daemonPublish request now => do
    let response ← FrontTask.ofTask (publish request now)
    pure (.daemon response)
  | mcpVideo request now => do
    let result ← FrontTask.ofTask (publishVideoResult request now)
    pure (.mcp result)
  | mcpArticle runner request now => do
    let result ← publishArticleResult runner request now
    pure (.mcp result)
  | desktopDispatch localRunnerRegistry input now => do
    let result ← FrontTask.ofTask (dispatchToLocalRunner localRunnerRegistry input now)
    pure (.desktop result)
  | desktopDraft input now => do
    let result ← FrontTask.ofTask (saveLocalDraft input now)
    pure (.desktopDraft result)
  | background entry => do
    FrontTask.ofTask entry.program
    pure .background

/-- Its work, and then its answer. -/
def program (front : Front) : FrontTask Unit :=
  front.work >>= fun a => .call (.answer a) fun _ => .ret ()

end Front

/-- The runners the call dispatched to have all completed. -/
def FrontCall.Completes : (c : FrontCall) → c.Reply → Prop
  | .task (.dispatch .video request), .ok report =>
    ∀ p ∈ request.targets, (report.outcomes p).any (·.isQueued) = true
  | .task (.dispatch .article _), .ok outcome => ∃ jobId, outcome = .queued jobId
  | _, _ => False

/-- A runner was set to work: it queued the request, or turned it down with work begun; of a
    dispatch that failed, that its registry had called a provider. -/
def FrontCall.SetsToWork : (c : FrontCall) → c.Reply → Prop
  | .task (.dispatch .video request), .ok report =>
    ∃ p ∈ request.targets, (report.outcomes p).any (·.isUnavailable) = false
  | .task (.dispatch .video request), .error e =>
    ∃ registry : ProviderRegistry, (registry.dispatchAll request).2 = .error e ∧
      (registry.dispatchAll request).1 ≠ []
  | .task (.dispatch .article _), .ok outcome =>
    (∃ jobId, outcome = .queued jobId) ∨ ∃ reason, outcome = .rejected reason true
  | _, _ => False

/-- The call has stored what it was called with. -/
def FrontCall.Stores : (c : FrontCall) → c.Reply → Prop
  | .task (.recordDispatch _ _ _), .ok _ => True
  | .task (.insert _), .ok _ => True
  | .enqueueArticle _ _, .ok _ => True
  | _, _ => False

/-- What an answer says; what it does not speak of is `none`. -/
structure Assertion where
  completed : Option Bool
  attempted : Option Bool
  persisted : Option Bool
  job : Option String
deriving DecidableEq, Repr

/-- Nothing was done at all. -/
def Assertion.untouched : Assertion := ⟨some false, some false, some false, none⟩

/-- Something may have been attempted; its result is not stored. -/
def Assertion.lost : Assertion := ⟨none, none, some false, none⟩

end MatriXpost
