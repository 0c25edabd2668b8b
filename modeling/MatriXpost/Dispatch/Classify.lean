/-
  File:      MatriXpost/Dispatch/Classify.lean
  Subject:   SIX READINGS OF ONE DISPATCH REPORT: the persisted history state, the scheduler, the
             daemon's HTTP reply, the MCP result, the CLI's exit code and the batch row.

  Each front end tests `values().all(..)` in its own order and treats an empty report in its own
  way. `dispatchClass` is what they are meant to agree on: every target queued, every target
  unavailable, anything else.

  * `all_values`: over a report of `dispatch_all`, a test of all values is a test of all targets;
  * `all_exclusive`: the two tests never both hold, so their order does not matter;
  * `classification_agrees`: for every valid request the six put its report into one class.
-/
import MatriXpost.Dispatch.Registry

namespace MatriXpost

/-! ## 1. The classes -/

/-- The three classes of a report. -/
inductive DispatchClass where
  | allQueued | allUnavailable | incomplete
deriving DecidableEq, Repr

/-- The class of a report, by the targets of its request. -/
def dispatchClass (request : PublishRequest) (report : ProviderDispatchReport) : DispatchClass :=
  if ∀ p ∈ request.targets, (report.outcomes p).any (·.isQueued) = true then .allQueued
  else if ∀ p ∈ request.targets, (report.outcomes p).any (·.isUnavailable) = true then
    .allUnavailable
  else .incomplete

/-- `values().all(|outcome| matches!(outcome, Queued { .. }))`. -/
def ProviderDispatchReport.allQueued (report : ProviderDispatchReport) : Bool :=
  report.values.all (·.isQueued)

/-- `values().all(|outcome| matches!(outcome, Unavailable { .. }))`. -/
def ProviderDispatchReport.allUnavailable (report : ProviderDispatchReport) : Bool :=
  report.values.all (·.isUnavailable)

/-! ## 2. The persisted history -/

def localDispatchCompleted : String :=
  "local provider workflow completed; remote platform processing is not confirmed"

def localDispatchUnavailable : String :=
  "all local providers were unavailable; no remote provider workflow was attempted"

def localDispatchIncomplete : String :=
  "local provider workflow was incomplete; remote platform processing is not confirmed"

def providerDispatchHistoryOutcome (report : ProviderDispatchReport) : PublishState × String :=
  if !report.values.isEmpty && report.allQueued then (.published, localDispatchCompleted)
  else if !report.values.isEmpty && report.allUnavailable then
    (.unavailable, localDispatchUnavailable)
  else (.failed, localDispatchIncomplete)

/-! ## 3. The scheduler -/

def scheduledLocalRunnerComplete : String :=
  "scheduled local runner workflow completed; remote platform processing is not confirmed"

def scheduledLocalRunnerUnavailable : String :=
  "scheduled local runner was unavailable; no remote platform publication was attempted"

def scheduledLocalRunnerIncomplete : String :=
  "scheduled local runner workflow was incomplete; remote platform processing is not confirmed"

/-- The `match` on `dispatch_all` in `run_scheduler_tick_at`. -/
def schedulerOutcome (result : Except DomainError ProviderDispatchReport) :
    PublishState × String :=
  match result with
  | .ok report =>
    if report.allQueued then (.published, scheduledLocalRunnerComplete)
    else if report.allUnavailable then (.unavailable, scheduledLocalRunnerUnavailable)
    else (.failed, scheduledLocalRunnerIncomplete)
  | .error _ => (.failed, scheduledLocalRunnerIncomplete)

/-- The class a terminal state stands for. -/
def PublishState.dispatchClass : PublishState → Option DispatchClass
  | .published => some .allQueued
  | .unavailable => some .allUnavailable
  | .failed => some .incomplete
  | _ => none

/-! ## 4. The daemon -/

/-- The `data` of a publication reply; `providers` is absent from the unavailable one. -/
structure PublishReply where
  accepted : Bool
  request : PublishRequest
  providers : Option ProviderDispatchReport

/-- An HTTP reply with its JSON body. -/
structure ApiResponse (α : Type) where
  status : Nat
  ok : Bool
  success : Bool
  outcome : String
  data : α
  message : String

/-- `response(status, outcome, data, message)`. -/
def apiResponse {α : Type} (status : Nat) (outcome : String) (data : α) (message : String) :
    ApiResponse α :=
  let ok := decide (200 ≤ status ∧ status < 300)
  ⟨status, ok, ok, outcome, data, message⟩

def dispatchResponse (request : PublishRequest) (report : ProviderDispatchReport) :
    ApiResponse PublishReply :=
  if report.allUnavailable then
    apiResponse 503 "unavailable" ⟨false, request, none⟩
      "no provider implementation is configured; no publishing was attempted"
  else if report.allQueued then
    apiResponse 202 "queued" ⟨true, request, some report⟩
      "local runner completed its WebDriver workflow; remote platform processing is not confirmed"
  else
    apiResponse 500 "rejected" ⟨false, request, some report⟩
      "provider dispatch was incomplete; no overall publication success is claimed"

/-- The class an HTTP status stands for. -/
def ApiResponse.dispatchClass {α : Type} (r : ApiResponse α) : Option DispatchClass :=
  if r.status = 202 then some .allQueued
  else if r.status = 503 then some .allUnavailable
  else if r.status = 500 then some .incomplete
  else none

/-! ## 5. The MCP service -/

/-- A reason-free runner status for one platform. -/
inductive SafeProviderOutcome where
  | queued | unavailable | rejected
deriving DecidableEq, Repr

def safeProviderOutcome : DispatchOutcome → SafeProviderOutcome
  | .queued _ => .queued
  | .unavailable _ => .unavailable
  | .rejected _ => .rejected

/-- The durable part of a locally queued video job. -/
structure JobResult where
  id : String
  state : PublishState
  dueAt : Option LocalSchedule
  revision : Nat
deriving DecidableEq, Repr

/-- Explicit provider boundary of the publication tools. -/
structure PublicationResult where
  outcome : String
  providerAvailable : Bool
  remotePublishAttempted : Bool
  persisted : Bool
  job : Option JobResult
  providers : Option (Platform → Option SafeProviderOutcome)
  message : String

def videoDispatchResult (report : ProviderDispatchReport) : PublicationResult :=
  let providers := fun p => (report.outcomes p).map safeProviderOutcome
  let remotePublishAttempted := report.values.any fun o => match o with
    | .queued _ | .rejected _ => true
    | .unavailable _ => false
  if report.allQueued then
    ⟨"queued", true, true, false, none, some providers,
      "local provider runner completed its WebDriver workflow; remote publication is not confirmed"⟩
  else if report.allUnavailable then
    ⟨"unavailable", false, false, false, none, some providers,
      "no local provider runner is configured; no remote publishing was attempted"⟩
  else
    ⟨"rejected", false, remotePublishAttempted, false, none, some providers,
      "local provider runner dispatch was incomplete; no remote publication success is claimed"⟩

/-- The class a tool result stands for. -/
def PublicationResult.dispatchClass (r : PublicationResult) : Option DispatchClass :=
  if r.outcome = "queued" then some .allQueued
  else if r.outcome = "unavailable" then some .allUnavailable
  else if r.outcome = "rejected" then some .incomplete
  else none

/-! ## 6. The CLI and its batch -/

/-- The `result` of an emitted dispatch: the platforms only, or outcome and providers. -/
inductive DispatchEmission where
  | unavailable (platforms : List Platform)
  | dispatched (outcome : String) (providers : ProviderDispatchReport)

/-- What `emit` prints, and the process's exit code. -/
structure Emitted (α : Type) where
  ok : Bool
  code : Nat
  result : α
  message : Option String

def emit {α : Type} (code : Nat) (result : α) (message : Option String) : Emitted α :=
  ⟨code = 0, code, result, message⟩

def emitDispatch (report : ProviderDispatchReport) : Emitted DispatchEmission :=
  if report.allUnavailable then
    emit 3 (.unavailable report.keys)
      (some "no provider implementation is configured; no publishing was attempted")
  else if report.allQueued then
    emit 0 (.dispatched "queued" report) (some
      "local runner completed its WebDriver workflow; remote platform processing is not confirmed")
  else
    emit 4 (.dispatched "rejected" report)
      (some "provider dispatch was incomplete; no overall publication success is claimed")

/-- The class an exit code stands for. -/
def Emitted.dispatchClass {α : Type} (e : Emitted α) : Option DispatchClass :=
  if e.code = 0 then some .allQueued
  else if e.code = 3 then some .allUnavailable
  else if e.code = 4 then some .incomplete
  else none

/-- Why a row was rejected: a text, or the incomplete report that is printed. -/
inductive RejectionReason where
  | text (reason : String)
  | incomplete (report : ProviderDispatchReport)

inductive BatchRowState where
  | queued (providers : ProviderDispatchReport)
  | unavailable (providers : ProviderDispatchReport)
  | rejected (reason : RejectionReason)
  | skipped (reason : String)

structure BatchRowOutcome where
  row : Nat
  fileName : String
  state : BatchRowState

def rowOutcome (row : Nat) (fileName : String) (report : Except String ProviderDispatchReport) :
    BatchRowOutcome :=
  let state := match report with
    | .error reason => BatchRowState.rejected (.text reason)
    | .ok report =>
      if report.allQueued then .queued report
      else if report.allUnavailable then .unavailable report
      else .rejected (.incomplete report)
  ⟨row, fileName, state⟩

/-- The class a row state stands for. -/
def BatchRowState.dispatchClass : BatchRowState → Option DispatchClass
  | .queued _ => some .allQueued
  | .unavailable _ => some .allUnavailable
  | .rejected _ => some .incomplete
  | .skipped _ => none

/-! ## 7. They agree -/

section Agreement
variable {registry : ProviderRegistry} {request : PublishRequest} {calls : List ProviderCall}
  {report : ProviderDispatchReport}

/-- **Over a report of `dispatch_all`, all values are all targets.** -/
theorem all_values (h : registry.dispatchAll request = (calls, .ok report))
    (test : DispatchOutcome → Bool) :
    report.values.all test = true ↔ ∀ p ∈ request.targets, (report.outcomes p).any test = true := by
  rw [List.all_eq_true]
  constructor
  · intro hall p hp
    obtain ⟨outcome, ho⟩ := Option.isSome_iff_exists.mp ((dispatchAll_outcomes h p).mpr hp)
    rw [ho]
    exact hall outcome (ProviderDispatchReport.mem_values.mpr ⟨p, ho⟩)
  · intro hall outcome hmem
    obtain ⟨p, ho⟩ := ProviderDispatchReport.mem_values.mp hmem
    have hp := hall p ((dispatchAll_outcomes h p).mp (by rw [ho]; rfl))
    rw [ho] at hp
    exact hp

/-- **A report is not both all queued and all unavailable.** -/
theorem all_exclusive (h : registry.dispatchAll request = (calls, .ok report))
    (hq : report.allQueued = true) : report.allUnavailable = false := by
  obtain ⟨outcome, hmem⟩ := List.exists_mem_of_ne_nil _ (values_ne_nil h)
  rw [ProviderDispatchReport.allQueued, List.all_eq_true] at hq
  rw [ProviderDispatchReport.allUnavailable, List.all_eq_false]
  have hout := hq outcome hmem
  refine ⟨outcome, hmem, ?_⟩
  cases outcome with
  | queued jobId => simp [DispatchOutcome.isUnavailable]
  | unavailable reason => cases hout
  | rejected reason => cases hout

/-- The class of a report, by the two tests the front ends make. -/
theorem dispatchClass_eq (h : registry.dispatchAll request = (calls, .ok report)) :
    dispatchClass request report =
      if report.allQueued then .allQueued
      else if report.allUnavailable then .allUnavailable
      else .incomplete := by
  unfold dispatchClass
  simp only [← all_values h]
  rfl

/-- For a report of `dispatch_all` all six readings give its class. -/
theorem readings_eq (h : registry.dispatchAll request = (calls, .ok report)) (row : Nat)
    (fileName : String) :
    (providerDispatchHistoryOutcome report).1.dispatchClass = some (dispatchClass request report) ∧
    (schedulerOutcome (.ok report)).1.dispatchClass = some (dispatchClass request report) ∧
    (dispatchResponse request report).dispatchClass = some (dispatchClass request report) ∧
    (videoDispatchResult report).dispatchClass = some (dispatchClass request report) ∧
    (emitDispatch report).dispatchClass = some (dispatchClass request report) ∧
    (rowOutcome row fileName (.ok report)).state.dispatchClass =
      some (dispatchClass request report) := by
  have hne : report.values.isEmpty = false := by simpa using values_ne_nil h
  rw [dispatchClass_eq h]
  unfold providerDispatchHistoryOutcome schedulerOutcome dispatchResponse videoDispatchResult
    emitDispatch rowOutcome
  dsimp only
  cases hq : report.allQueued with
  | true =>
    have hu := all_exclusive h hq
    rw [hu, hne]
    exact ⟨rfl, rfl, rfl, rfl, rfl, rfl⟩
  | false =>
    rw [hne]
    cases hu : report.allUnavailable <;> exact ⟨rfl, rfl, rfl, rfl, rfl, rfl⟩

end Agreement

/-- **Every valid request gets a report, no report is empty, and all six front ends put it into
    the class its targets decide.** -/
theorem classification_agrees (request : PublishRequest) (hvalid : request.validate = .ok ())
    (registry : ProviderRegistry) (row : Nat) (fileName : String) :
    ∃ report, (registry.dispatchAll request).2 = .ok report ∧ report.values ≠ [] ∧
      (providerDispatchHistoryOutcome report).1.dispatchClass =
        some (dispatchClass request report) ∧
      (schedulerOutcome (.ok report)).1.dispatchClass = some (dispatchClass request report) ∧
      (dispatchResponse request report).dispatchClass = some (dispatchClass request report) ∧
      (videoDispatchResult report).dispatchClass = some (dispatchClass request report) ∧
      (emitDispatch report).dispatchClass = some (dispatchClass request report) ∧
      (rowOutcome row fileName (.ok report)).state.dispatchClass =
        some (dispatchClass request report) := by
  have hall : ∃ calls report, registry.dispatchAll request = (calls, .ok report) := by
    unfold ProviderRegistry.dispatchAll
    rw [hvalid]
    exact ⟨_, _, rfl⟩
  obtain ⟨calls, report, h⟩ := hall
  exact ⟨report, by rw [h], values_ne_nil h, readings_eq h row fileName⟩

/-- A request for two targets that passes validation. -/
def sampleRequest : PublishRequest where
  source := .localFile (.utf8 "video.mp4")
  title := "title"
  shortTitle := none
  tags := []
  address := none
  draft := false
  bt2 := none
  scheduledAt := none
  taskName := none
  account := default
  wechatLink := default
  overrides := []
  targets := [.douyin, .bilibili]

/-- A registry with a provider for one of them. -/
def sampleRegistry : ProviderRegistry where
  providers p := if p = .douyin then some ⟨.available, fun _ => .ok (.queued "1")⟩ else none
  runners _ := none

/-- One target queued, one without a provider: both the exit code and the HTTP status read the
    report as its targets do. -/
theorem classification_agrees_sample :
    ∃ report, (sampleRegistry.dispatchAll sampleRequest).2 = .ok report ∧
      (emitDispatch report).dispatchClass = some (dispatchClass sampleRequest report) ∧
      (dispatchResponse sampleRequest report).dispatchClass =
        some (dispatchClass sampleRequest report) := by
  obtain ⟨report, hreport, -, -, -, hhttp, -, hcli, -⟩ :=
    classification_agrees sampleRequest (by decide) sampleRegistry 2 "video.mp4"
  exact ⟨report, hreport, hcli, hhttp⟩

end MatriXpost
