/-
  File:      MatriXpost/Runner/ProbeFrontEnds.lean
  Subject:   WHO ASKS A RUNNER ABOUT ITS BROWSER: the CLI, the MCP server and the desktop, from
             their arguments to the page and back.

  Sources: `dispatch_fanqie_review_status` of `cli/src/runners.rs`, `review_fanqie_status_result`
  and `ReviewStatusResult` of the MCP server, `fanqie_review_status` of the desktop with
  `local_probe_runner`, and `ProviderRunner::parse_cli`. The reader of an address is a parameter.

  * `ReviewFrontEnd.runner` is what a front end decides by itself: the runner it asks, or an answer
    without asking. **`review_status_end_to_end`**: what each front end says of a title is what the
    runner's browser showed for it.
-/
import MatriXpost.Dispatch.Classify
import MatriXpost.Runner.Probes

namespace MatriXpost

open Json

/-! ## 1. Declarations -/

section Parse
variable (parseAddress : String → Option SocketAddr)

/-- `value.strip_prefix(start)`. -/
def stripPrefix (start value : String) : Option String :=
  if start.toList <+: value.toList then
    some (String.ofList (value.toList.drop start.toList.length))
  else none

/-- The transport of `parse_cli`. -/
def ProviderRunner.parseTransport (value : String) :
    Except ProviderRunnerConfigError RunnerTransport :=
  match stripPrefix "unix:" value with
  | some path => .ok (.unixSocket (.utf8 path))
  | none =>
    match stripPrefix "pipe:" value with
    | some name => .ok (.namedPipe name)
    | none =>
      match (stripPrefix "tcp:" value).bind parseAddress with
      | some address => .ok (.tcp address)
      | none => .error .invalidArgument

def ProviderRunner.parseCli (value : String) : Except ProviderRunnerConfigError ProviderRunner := do
  match splitOnce '=' value with
  | none => .error .invalidArgument
  | some (platform, transport) => do
    let platform ← (Platform.fromStr platform).mapError fun _ => .invalidArgument
    let transport ← ProviderRunner.parseTransport parseAddress transport
    let runner : ProviderRunner := ⟨platform, transport⟩
    runner.validate
    .ok runner

end Parse

/-- `login_runner`. -/
def loginRunner (runners : List ProviderRunner) (platform : Platform) : Option ProviderRunner :=
  runners.find? fun runner => runner.platform = platform

/-! ## 2. Review status -/

/-- `serde_json::json!({ "outcome": outcome, "platform": platform })`. -/
def probeResult (outcome : String) (platform : Platform) : Json :=
  .object [("outcome", .string outcome), ("platform", platform.toJson)]

/-- The messages of a review status, the same for the CLI and the MCP server. -/
def reviewMessage : ReviewStatus → String
  | .published => "a matching local video-list card is published-like; " ++
      "this does not prove remote publication acceptance"
  | .underReview => "a matching local video-list card is under review; " ++
      "no remote publication success is claimed"
  | .rejected => "the local Fanqie review-status probe was rejected; " ++
      "no remote publication success is claimed"
  | .notFound => "no matching local video-list card was found; " ++
      "no remote publication success is claimed"
  | .unavailable => "the local Fanqie runner is unavailable; " ++
      "no browser review-status probe was completed"

/-- And where no runner is configured. -/
def notConfiguredMessage : String :=
  "no local Fanqie runner is configured; no browser review-status probe was attempted"

/-- What the CLI prints of a review status. -/
def emitReviewStatus (status : ReviewStatus) : Emitted Json :=
  let code := match status with
    | .published | .underReview | .notFound => 0
    | .unavailable => 3
    | .rejected => 4
  emit code (probeResult status.tag .fanqieVideo) (some (reviewMessage status))

def dispatchFanqieReviewStatus (runners : List ProviderRunner) (title : String) :
    Client (Emitted Json) :=
  match loginRunner runners .fanqieVideo with
  | none => pure (emit 3 (probeResult "unavailable" .fanqieVideo) (some notConfiguredMessage))
  | some runner => do
    match ← (runner.fanqieReviewStatusWith title).outcome with
    | .ok status => pure (emitReviewStatus status)
    | .error (_ : DomainError) => pure (emitReviewStatus .rejected)

structure ReviewStatusResult where
  outcome : String
  platform : String
  message : String
deriving DecidableEq, Repr

namespace ReviewStatusResult

/-- `ReviewStatusResult::unavailable`. -/
def notConfigured : ReviewStatusResult := ⟨"unavailable", "fqsp", notConfiguredMessage⟩

/-- `From<ReviewStatus>`. -/
def ofStatus (status : ReviewStatus) : ReviewStatusResult :=
  ⟨status.tag, "fqsp", reviewMessage status⟩

/-- `ReviewStatusResult::rejected`. -/
def rejected : ReviewStatusResult := ⟨"rejected", "fqsp", reviewMessage .rejected⟩

end ReviewStatusResult

def reviewFanqieStatusResult (runners : List ProviderRunner) (title : String) :
    Client ReviewStatusResult :=
  match loginRunner runners .fanqieVideo with
  | none => pure .notConfigured
  | some runner => do
    match ← (runner.fanqieReviewStatusWith title).outcome with
    | .ok status => pure (.ofStatus status)
    | .error (_ : DomainError) => pure .rejected

namespace Desktop

/-- The declaration of a probe's runner is refused. -/
def runnerDeclarationRefused : DesktopError :=
  .invalidRequest "runner must use the matching PLATFORM=tcp:127.0.0.1:PORT declaration"

def localProbeRunner (parseAddress : String → Option SocketAddr) (declaration : Option String)
    (platform : Platform) : Except DesktopError (Option ProviderRunner) :=
  match (declaration.map trim).filter fun value => value ≠ "" with
  | none => .ok none
  | some declaration =>
    match ProviderRunner.parseCli parseAddress declaration with
    | .error _ => .error runnerDeclarationRefused
    | .ok runner =>
      match runner.transport with
      | .tcp _ =>
        if runner.platform ≠ platform then .error runnerDeclarationRefused else .ok (some runner)
      | _ => .error runnerDeclarationRefused

def validReviewTitleQuery (value : String) : Bool :=
  let normalized := normalizeReviewTitleQuery value
  normalized ≠ "" && normalized.utf8ByteSize ≤ reviewStatusTitleQueryMaxBytes

structure FanqieReviewStatusInput where
  titleQuery : String
  providerRunner : Option String
  confirmed : Bool

section Probes
variable (parseAddress : String → Option SocketAddr)

/-- The state of the report. -/
def fanqieReviewStatus (input : FanqieReviewStatusInput) : Client (Except DesktopError String) :=
  if !input.confirmed then
    pure (.error (.invalidRequest "explicit Fanqie review confirmation is required"))
  else if !validReviewTitleQuery input.titleQuery then
    pure (.error (.invalidRequest
      "review title query must be non-empty and within the local limit"))
  else
    match localProbeRunner parseAddress input.providerRunner .fanqieVideo with
    | .error e => pure (.error e)
    | .ok none => pure (.ok (ReviewStatus.tag .unavailable))
    | .ok (some runner) => do
      match ← (runner.fanqieReviewStatusWith input.titleQuery).outcome with
      | .ok status => pure (.ok status.tag)
      | .error (_ : DomainError) =>
        pure (.error (.invalidRequest "Fanqie review request could not be completed"))

end Probes

end Desktop

/-! ## 3. A front end over the network -/

/-- A client that turns the outcome of another into its answer. -/
theorem answers_of_outcome {α β : Type} {x : Client α} {f : Except DomainError α → β}
    {serve : Post → Browsing (Nat × ReplyBody)} {es : HopLog} {r : Except DomainError β} :
    (Client.over (do let result ← x.outcome; pure (f result)) serve).Answers es r ↔
      ∃ result, (Client.over x serve).Answers es result ∧ r = .ok (f result) := by
  rw [over_map, over_outcome]
  constructor
  · intro h
    obtain ⟨outcome, houtcome, rfl⟩ := h
    obtain ⟨result, hx, rfl⟩ := Talk.answers_outcome.mp houtcome
    exact ⟨result, hx, rfl⟩
  · intro h
    obtain ⟨result, hx, rfl⟩ := h
    exact ⟨.ok result, Talk.answers_outcome.mpr ⟨result, hx, rfl⟩, rfl⟩

/-- The three that ask for a review status. -/
inductive ReviewFrontEnd where
  | cli (runners : List ProviderRunner) (title : String)
  | mcp (runners : List ProviderRunner) (title : String)
  | desktop (input : Desktop.FanqieReviewStatusInput)

inductive ReviewAnswer where
  | cli (a : Emitted Json)
  | mcp (a : ReviewStatusResult)
  | desktop (a : Except DesktopError String)

namespace ReviewFrontEnd

def title : ReviewFrontEnd → String
  | cli _ title | mcp _ title => title
  | desktop input => input.titleQuery

/-- How a review status is shown. -/
def shown (status : ReviewStatus) : ReviewFrontEnd → ReviewAnswer
  | cli _ _ => .cli (emitReviewStatus status)
  | mcp _ _ => .mcp (.ofStatus status)
  | desktop _ => .desktop (.ok status.tag)

/-- What a client's own failure is shown as; it has none. -/
def failed : ReviewFrontEnd → ReviewAnswer
  | cli _ _ => .cli (emitReviewStatus .rejected)
  | mcp _ _ => .mcp .rejected
  | desktop _ =>
    .desktop (.error (.invalidRequest "Fanqie review request could not be completed"))

section Ask
variable (parseAddress : String → Option SocketAddr)

def client : ReviewFrontEnd → Client ReviewAnswer
  | cli runners title => do return .cli (← dispatchFanqieReviewStatus runners title)
  | mcp runners title => do return .mcp (← reviewFanqieStatusResult runners title)
  | desktop input => do return .desktop (← Desktop.fanqieReviewStatus parseAddress input)

/-- The runner that is asked, or the answer without asking one. -/
def runner : ReviewFrontEnd → Except ReviewAnswer ProviderRunner
  | cli runners _ =>
    match loginRunner runners .fanqieVideo with
    | some runner => .ok runner
    | none => .error (.cli (emit 3 (probeResult "unavailable" .fanqieVideo)
        (some notConfiguredMessage)))
  | mcp runners _ =>
    match loginRunner runners .fanqieVideo with
    | some runner => .ok runner
    | none => .error (.mcp .notConfigured)
  | desktop input =>
    if !input.confirmed then
      .error (.desktop (.error (.invalidRequest
        "explicit Fanqie review confirmation is required")))
    else if !Desktop.validReviewTitleQuery input.titleQuery then
      .error (.desktop (.error (.invalidRequest
        "review title query must be non-empty and within the local limit")))
    else
      match Desktop.localProbeRunner parseAddress input.providerRunner .fanqieVideo with
      | .error e => .error (.desktop (.error e))
      | .ok none => .error (.desktop (.ok (ReviewStatus.tag .unavailable)))
      | .ok (some runner) => .ok runner

end Ask

variable {parseAddress : String → Option SocketAddr} {front : ReviewFrontEnd}

/-- A front end that answers by itself. -/
theorem client_local {a : ReviewAnswer} (h : front.runner parseAddress = .error a) :
    front.client parseAddress = pure a := by
  cases front with
  | cli runners title =>
    dsimp only [runner] at h
    dsimp only [client, dispatchFanqieReviewStatus]
    cases hrunner : loginRunner runners .fanqieVideo with
    | some runner =>
      rw [hrunner] at h
      cases h
    | none =>
      rw [hrunner] at h
      cases h
      rfl
  | mcp runners title =>
    dsimp only [runner] at h
    dsimp only [client, reviewFanqieStatusResult]
    cases hrunner : loginRunner runners .fanqieVideo with
    | some runner =>
      rw [hrunner] at h
      cases h
    | none =>
      rw [hrunner] at h
      cases h
      rfl
  | desktop input =>
    dsimp only [runner] at h
    dsimp only [client, Desktop.fanqieReviewStatus]
    by_cases hconfirmed : (!input.confirmed) = true
    · rw [if_pos hconfirmed] at h ⊢
      cases h
      rfl
    rw [if_neg hconfirmed] at h ⊢
    by_cases hvalid : (!Desktop.validReviewTitleQuery input.titleQuery) = true
    · rw [if_pos hvalid] at h ⊢
      cases h
      rfl
    rw [if_neg hvalid] at h ⊢
    cases hrunner : Desktop.localProbeRunner parseAddress input.providerRunner .fanqieVideo with
    | error e =>
      rw [hrunner] at h
      cases h
      rfl
    | ok found =>
      rw [hrunner] at h
      cases found with
      | none =>
        cases h
        rfl
      | some runner => cases h

/-- The answer to what a client makes of its probe. -/
def answer (front : ReviewFrontEnd) : Except DomainError ReviewStatus → ReviewAnswer
  | .ok status => front.shown status
  | .error _ => front.failed

/-- A front end that asks a runner. -/
theorem client_asks {runner : ProviderRunner} (h : front.runner parseAddress = .ok runner) :
    front.client parseAddress = (do
      let result ← (runner.fanqieReviewStatusWith front.title).outcome
      pure (front.answer result)) := by
  cases front with
  | cli runners title =>
    dsimp only [ReviewFrontEnd.runner] at h
    dsimp only [client, dispatchFanqieReviewStatus]
    cases hrunner : loginRunner runners .fanqieVideo with
    | none =>
      rw [hrunner] at h
      cases h
    | some found =>
      rw [hrunner] at h
      cases h
      dsimp only
      rw [bind_assoc]
      refine congrArg (_ >>= ·) (funext fun result => ?_)
      cases result with
      | ok status => rfl
      | error e => rfl
  | mcp runners title =>
    dsimp only [ReviewFrontEnd.runner] at h
    dsimp only [client, reviewFanqieStatusResult]
    cases hrunner : loginRunner runners .fanqieVideo with
    | none =>
      rw [hrunner] at h
      cases h
    | some found =>
      rw [hrunner] at h
      cases h
      dsimp only
      rw [bind_assoc]
      refine congrArg (_ >>= ·) (funext fun result => ?_)
      cases result with
      | ok status => rfl
      | error e => rfl
  | desktop input =>
    dsimp only [ReviewFrontEnd.runner] at h
    dsimp only [client, Desktop.fanqieReviewStatus]
    by_cases hconfirmed : (!input.confirmed) = true
    · rw [if_pos hconfirmed] at h
      cases h
    rw [if_neg hconfirmed] at h ⊢
    by_cases hvalid : (!Desktop.validReviewTitleQuery input.titleQuery) = true
    · rw [if_pos hvalid] at h
      cases h
    rw [if_neg hvalid] at h ⊢
    cases hrunner : Desktop.localProbeRunner parseAddress input.providerRunner .fanqieVideo with
    | error e =>
      rw [hrunner] at h
      cases h
    | ok found =>
      rw [hrunner] at h
      cases found with
      | none => cases h
      | some found =>
        cases h
        dsimp only
        rw [bind_assoc]
        refine congrArg (_ >>= ·) (funext fun result => ?_)
        cases result with
        | ok status => rfl
        | error e => rfl

section Network
variable {bytes : Json → Nat} {text : SocketAddr → String}
  {others : Post → Browsing (Nat × ReplyBody)} {services : SocketAddr → AttachedService}

/-- What a front end says, and the dialogue it comes with: an answer of its own and no dialogue, or
    the status its probe found. -/
def Says (parseAddress : String → Option SocketAddr) (text : SocketAddr → String)
    (services : SocketAddr → AttachedService) (front : ReviewFrontEnd) (es : HopLog)
    (a : ReviewAnswer) : Prop :=
  match front.runner parseAddress with
  | .error own => es = [] ∧ a = own
  | .ok runner => ∃ o, a = front.shown o ∧ ReviewProbed text services runner front.title es o

/-- **A front end says of a title what the runner's browser showed for it**, in its own words, over
    any network of runners; what it decides by itself it says without a request. -/
theorem review_status_end_to_end {es : HopLog} {r : Except DomainError ReviewAnswer} :
    (Client.over (front.client parseAddress) (appAt bytes text others services)).Answers es r ↔
      ∃ a, r = .ok a ∧ front.Says parseAddress text services es a := by
  unfold Says
  cases hrunner : front.runner parseAddress with
  | error own =>
    rw [client_local hrunner, over_pure]
    dsimp only
    constructor
    · intro h
      obtain ⟨he, hr⟩ := h
      exact ⟨own, hr, he, rfl⟩
    · intro h
      obtain ⟨a, rfl, he, rfl⟩ := h
      exact ⟨he, rfl⟩
  | ok runner =>
    rw [client_asks hrunner, answers_of_outcome]
    dsimp only
    constructor
    · intro h
      obtain ⟨result, hover, hr⟩ := h
      obtain ⟨o, rfl, hprobed⟩ := reviewStatus_exact.mp hover
      exact ⟨front.shown o, hr, o, rfl, hprobed⟩
    · intro h
      obtain ⟨a, rfl, o, rfl, hprobed⟩ := h
      exact ⟨.ok o, reviewStatus_exact.mpr ⟨o, rfl, hprobed⟩, rfl⟩

end Network

end ReviewFrontEnd

end MatriXpost
