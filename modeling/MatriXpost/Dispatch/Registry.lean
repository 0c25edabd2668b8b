/-
  File:      MatriXpost/Dispatch/Registry.lean
  Subject:   THE PROVIDER REGISTRY: dispatching a request to one target and to all of them.

  A provider is code outside the repository: its availability and the answer of its `enqueue`
  are arbitrary, one value each for the one call a dispatch makes. Every call of `enqueue` is
  logged, so that what reaches a provider is part of the result.

  * `dispatchAll_outcomes`: a report holds one outcome for each target and nothing else, so for
    a valid request it is never empty (`values_ne_nil`);
  * `dispatchAll_calls`: what reaches a provider is the request itself, for one of its targets;
  * `dispatchAll_invalid`: an invalid request touches no provider.
-/
import MatriXpost.Core.Request

namespace MatriXpost

/-- Provider dispatch result. -/
inductive DispatchOutcome where
  | queued (jobId : String)
  | unavailable (reason : String)
  | rejected (reason : String)
deriving DecidableEq, Repr

def DispatchOutcome.isQueued : DispatchOutcome → Bool
  | .queued _ => true
  | _ => false

def DispatchOutcome.isUnavailable : DispatchOutcome → Bool
  | .unavailable _ => true
  | _ => false

/-- Dispatch result of the article runner. -/
inductive ArticleDispatchOutcome where
  | queued (jobId : String)
  | unavailable (reason : String)
  | rejected (reason : String) (automationAttempted : Bool)
deriving DecidableEq, Repr

inductive ProviderAvailability where
  | available
  | unavailable (reason : String)
deriving DecidableEq, Repr

/-- An installed provider, by what it answers during one dispatch. -/
structure PublishProvider where
  availability : ProviderAvailability
  enqueue : PublishRequest → Except DomainError DispatchOutcome

/-- The transports a local runner may be declared with. -/
inductive ProviderRunnerTransport where
  | unixSocket | namedPipe | tcp
deriving DecidableEq, Repr

/-- Explicit registry for installed providers and declared runners. -/
structure ProviderRegistry where
  providers : Platform → Option PublishProvider
  runners : Platform → Option ProviderRunnerTransport

/-- Per-platform results of one dispatch: a map ordered by platform. -/
structure ProviderDispatchReport where
  outcomes : Platform → Option DispatchOutcome

/-- One call of a provider's `enqueue`. -/
structure ProviderCall where
  platform : Platform
  request : PublishRequest
deriving DecidableEq, Repr

namespace ProviderDispatchReport

def empty : ProviderDispatchReport := ⟨fun _ => none⟩

/-- `outcomes.insert(platform, outcome)`. -/
def insert (report : ProviderDispatchReport) (platform : Platform) (outcome : DispatchOutcome) :
    ProviderDispatchReport :=
  ⟨fun p => if p = platform then some outcome else report.outcomes p⟩

/-- `outcomes.values()`, in platform order. -/
def values (report : ProviderDispatchReport) : List DispatchOutcome :=
  Platform.all.filterMap report.outcomes

/-- `outcomes.keys()`, in platform order. -/
def keys (report : ProviderDispatchReport) : List Platform :=
  Platform.all.filter fun p => (report.outcomes p).isSome

end ProviderDispatchReport

namespace ProviderRegistry

/-- `ProviderRunner::unavailable_reason`. -/
def unavailableReason (transport : ProviderRunnerTransport) (platform : Platform) : String :=
  let name := match transport with
    | .unixSocket => "Unix socket"
    | .namedPipe => "named pipe"
    | .tcp => "loopback TCP"
  name ++ " runner configured for " ++ platform.asStr ++ "; no execution adapter is installed"

def unregisteredReason (registry : ProviderRegistry) (platform : Platform) : String :=
  match registry.runners platform with
  | some transport => unavailableReason transport platform
  | none => "no provider registered for " ++ platform.asStr

/-- Dispatches one target after proving that it belongs to the request. Provider errors stay
    errors; a missing or unavailable provider is an ordinary outcome. -/
def dispatch (registry : ProviderRegistry) (platform : Platform) (request : PublishRequest) :
    List ProviderCall × Except DomainError DispatchOutcome :=
  match request.validate with
  | .error e => ([], .error e)
  | .ok _ =>
    if platform ∉ request.targets then ([], .error (.providerPlatformNotTarget platform))
    else
      match registry.providers platform with
      | none => ([], .ok (.unavailable (registry.unregisteredReason platform)))
      | some provider =>
        match provider.availability with
        | .available => ([⟨platform, request⟩], provider.enqueue request)
        | .unavailable reason => ([], .ok (.unavailable reason))

/-- The loop over the targets: an error becomes that target's rejected outcome. -/
def dispatchTargets (registry : ProviderRegistry) (request : PublishRequest) :
    List Platform → ProviderDispatchReport → List ProviderCall × ProviderDispatchReport
  | [], report => ([], report)
  | platform :: rest, report =>
    let (calls, result) := registry.dispatch platform request
    let outcome := match result with
      | .ok outcome => outcome
      | .error error => .rejected error.text
    let (more, final) := registry.dispatchTargets request rest (report.insert platform outcome)
    (calls ++ more, final)

/-- Dispatches every requested target. A malformed request is rejected before any provider is
    touched. -/
def dispatchAll (registry : ProviderRegistry) (request : PublishRequest) :
    List ProviderCall × Except DomainError ProviderDispatchReport :=
  match request.validate with
  | .error e => ([], .error e)
  | .ok _ =>
    let (calls, report) := registry.dispatchTargets request request.targets .empty
    (calls, .ok report)

end ProviderRegistry

/-! ## What a dispatch answers and whom it reaches -/

section Dispatch
variable {registry : ProviderRegistry} {request : PublishRequest}

theorem ProviderDispatchReport.mem_values {report : ProviderDispatchReport}
    {outcome : DispatchOutcome} :
    outcome ∈ report.values ↔ ∃ p, report.outcomes p = some outcome := by
  unfold values
  rw [List.mem_filterMap]
  exact ⟨fun ⟨p, _, h⟩ => ⟨p, h⟩, fun ⟨p, h⟩ => ⟨p, Platform.mem_all p, h⟩⟩

/-- The loop adds an outcome for each of its targets and keeps the others. -/
theorem dispatchTargets_isSome (targets : List Platform) (report : ProviderDispatchReport)
    (p : Platform) :
    ((registry.dispatchTargets request targets report).2.outcomes p).isSome =
      (decide (p ∈ targets) || (report.outcomes p).isSome) := by
  induction targets generalizing report with
  | nil => simp [ProviderRegistry.dispatchTargets]
  | cons q rest ih =>
    unfold ProviderRegistry.dispatchTargets
    dsimp only
    rw [ih]
    by_cases hpq : p = q
    · simp [ProviderDispatchReport.insert, hpq]
    · simp [ProviderDispatchReport.insert, hpq]

/-- **A report holds an outcome for each target of its request, and for no other platform.** -/
theorem dispatchAll_outcomes {calls : List ProviderCall} {report : ProviderDispatchReport}
    (h : registry.dispatchAll request = (calls, .ok report)) (p : Platform) :
    (report.outcomes p).isSome = true ↔ p ∈ request.targets := by
  unfold ProviderRegistry.dispatchAll at h
  split at h
  · cases h
  · cases h
    rw [dispatchTargets_isSome]
    simp [ProviderDispatchReport.empty]

theorem dispatchAll_valid {calls : List ProviderCall} {report : ProviderDispatchReport}
    (h : registry.dispatchAll request = (calls, .ok report)) : request.validate = .ok () := by
  unfold ProviderRegistry.dispatchAll at h
  split at h
  · cases h
  · assumption

/-- **No report is empty.** -/
theorem values_ne_nil {calls : List ProviderCall} {report : ProviderDispatchReport}
    (h : registry.dispatchAll request = (calls, .ok report)) : report.values ≠ [] := by
  obtain ⟨p, hp⟩ := List.exists_mem_of_ne_nil _
    (PublishRequest.validate_targets (dispatchAll_valid h)).1
  obtain ⟨outcome, ho⟩ := Option.isSome_iff_exists.mp ((dispatchAll_outcomes h p).mpr hp)
  exact List.ne_nil_of_mem (ProviderDispatchReport.mem_values.mpr ⟨p, ho⟩)

theorem dispatch_calls {p : Platform} {call : ProviderCall}
    (h : call ∈ (registry.dispatch p request).1) : call = ⟨p, request⟩ := by
  unfold ProviderRegistry.dispatch at h
  split at h
  · cases h
  split at h
  · cases h
  split at h
  · cases h
  split at h
  · exact List.mem_singleton.mp h
  · cases h

/-- **What reaches a provider is the request itself, for one of its targets.** -/
theorem dispatchAll_calls {call : ProviderCall} (h : call ∈ (registry.dispatchAll request).1) :
    call.request = request ∧ call.platform ∈ request.targets ∧ request.validate = .ok () := by
  unfold ProviderRegistry.dispatchAll at h
  split at h
  · cases h
  rename_i hvalid
  refine (?_ : _ ∧ _).imp_right (⟨·, hvalid⟩)
  have hgen : ∀ targets report,
      call ∈ (registry.dispatchTargets request targets report).1 →
        call.request = request ∧ call.platform ∈ targets := by
    intro targets
    induction targets with
    | nil =>
      intro report hcall
      cases hcall
    | cons q rest ih =>
      intro report hcall
      unfold ProviderRegistry.dispatchTargets at hcall
      dsimp only at hcall
      rcases List.mem_append.mp hcall with hcall | hcall
      · rw [dispatch_calls hcall]
        exact ⟨rfl, List.mem_cons_self⟩
      · obtain ⟨hr, hp⟩ := ih _ hcall
        exact ⟨hr, List.mem_cons_of_mem q hp⟩
  exact hgen _ _ h

/-- An invalid request touches no provider. -/
theorem dispatchAll_invalid {e : DomainError} (h : request.validate = .error e) :
    registry.dispatchAll request = ([], .error e) := by
  unfold ProviderRegistry.dispatchAll
  rw [h]

end Dispatch

end MatriXpost
