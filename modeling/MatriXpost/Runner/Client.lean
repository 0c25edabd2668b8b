/-
  File:      MatriXpost/Runner/Client.lean
  Subject:   THE CLIENT ADAPTERS: what they post to a local runner, and what they make of the
             reply.

  Sources: `runner/article.rs`, `runner/provider/transport.rs`, `runner/provider/login.rs`,
  `runner/provider/terminal_qr.rs` and `ProviderRegistry::from_runners`.

  An adapter is a program over one call, the POST. Its reply is whatever the transport gives it:
  a failure, or a status with a body. An `exchange` takes a reply of status 200 with a response
  that is expected; every other one is a refusal.

  * `exchange_only`, `exchange_answers_iff`: an exchange posts what it was given, once, and answers
    with a decoded response or the refusal;
  * `RunnerRegistry.fromRunners` installs a provider for each TCP declaration, once all of them
    are checked.
-/
import MatriXpost.Lib.Dialogue
import MatriXpost.Runner.Config
import MatriXpost.Runner.Protocol

namespace MatriXpost

/-! ## 1. Posting -/

/-- A POST of a JSON document to `http://{address}{path}`. -/
structure Post where
  address : SocketAddr
  path : String
  body : Json

/-- A body that was read: its length in bytes, and the JSON value it is the text of, if any. -/
structure ReplyBody where
  length : Nat
  value : Option Json

/-- `serde_json::from_str(&body).ok()`. -/
def ReplyBody.decode {α : Type} (dec : Decoder α) (body : ReplyBody) : Option α :=
  body.value.bind fun j => (dec j).toOption

/-- A failed request, or a status and a body. -/
abbrev PostReply := Except Unit (Nat × ReplyBody)

/-- A client of a local runner. -/
abbrev Client (α : Type) := Talk Post (fun _ => PostReply) DomainError α

/-- One POST: a response that is decoded and expected, or a refusal. -/
def exchange {α β : Type} (post : Post) (accepts : ReplyBody → Bool) (dec : Decoder α)
    (into : α → Option β) (refused : β) : Client β := do
  match ← Talk.ask post with
  | .error () => pure refused
  | .ok (status, body) =>
    if status ≠ 200 ∨ accepts body = false then pure refused
    else pure ((body.decode dec).bind into |>.getD refused)

/-- A body of any length. -/
def anyBody : ReplyBody → Bool := fun _ => true

theorem exchange_only {α β : Type} {ok : Post → Prop} {post : Post} {accepts : ReplyBody → Bool}
    {dec : Decoder α} {into : α → Option β} {refused : β} (h : ok post) :
    (exchange post accepts dec into refused).Only ok := by
  refine (Talk.only_ask h).bind fun reply => ?_
  rcases reply with ⟨⟨⟩⟩ | ⟨status, body⟩
  · exact Talk.only_pure refused
  · show Talk.Only ok (if _ then _ else _)
    split
    · exact Talk.only_pure refused
    · exact Talk.only_pure _

/-- What an exchange makes of a reply. -/
def exchanged {α β : Type} (accepts : ReplyBody → Bool) (dec : Decoder α) (into : α → Option β)
    (refused : β) : PostReply → β
  | .error () => refused
  | .ok (status, body) =>
    if status ≠ 200 ∨ accepts body = false then refused
    else (body.decode dec).bind into |>.getD refused

/-- **An exchange is one post, and what it makes of the reply.** -/
theorem exchange_answers_iff {α β : Type} {post : Post} {accepts : ReplyBody → Bool}
    {dec : Decoder α} {into : α → Option β} {refused : β}
    {es : List (Called Post fun _ => PostReply)} {r : Except DomainError β} :
    (exchange post accepts dec into refused).Answers es r ↔
      ∃ reply, es = [⟨post, reply⟩] ∧ r = .ok (exchanged accepts dec into refused reply) := by
  have hrest : ∀ {reply : PostReply} {es' : List (Called Post fun _ => PostReply)},
      Talk.Answers (match reply with
        | .error () => pure refused
        | .ok (status, body) =>
          if status ≠ 200 ∨ accepts body = false then pure refused
          else pure ((body.decode dec).bind into |>.getD refused)) es' r ↔
        es' = [] ∧ r = .ok (exchanged accepts dec into refused reply) := by
    intro reply es'
    cases reply with
    | error u => exact Talk.answers_pure
    | ok answer =>
      obtain ⟨status, body⟩ := answer
      dsimp only [exchanged]
      split <;> exact Talk.answers_pure
  unfold exchange
  rw [Talk.answers_bind]
  constructor
  · intro h
    rcases h with ⟨e, hask, -⟩ | ⟨es₁, reply, es₂, rfl, hask, h⟩
    · obtain ⟨reply, -, hreply⟩ := Talk.answers_ask.mp hask
      cases hreply
    · obtain ⟨reply', rfl, hreply⟩ := Talk.answers_ask.mp hask
      cases hreply
      obtain ⟨rfl, hr⟩ := hrest.mp h
      exact ⟨reply, rfl, hr⟩
  · intro h
    obtain ⟨reply, rfl, hr⟩ := h
    exact .inr ⟨[⟨post, reply⟩], reply, [], rfl, Talk.answers_ask.mpr ⟨reply, rfl, rfl⟩,
      hrest.mpr ⟨rfl, hr⟩⟩

/-- **What an exchange answers**: one post, and the decoded response of a reply of status 200, or
    the refusal. -/
theorem exchange_answers {α β : Type} {post : Post} {accepts : ReplyBody → Bool} {dec : Decoder α}
    {into : α → Option β} {refused : β} {es : List (Called Post fun _ => PostReply)}
    {r : Except DomainError β} (h : (exchange post accepts dec into refused).Answers es r) :
    ∃ reply, es = [⟨post, reply⟩] ∧ (r = .ok refused ∨
      ∃ body a b, reply = .ok (200, body) ∧ body.decode dec = some a ∧ into a = some b ∧
        r = .ok b) := by
  obtain ⟨reply, rfl, rfl⟩ := exchange_answers_iff.mp h
  refine ⟨reply, rfl, ?_⟩
  cases reply with
  | error u => exact .inl rfl
  | ok answer =>
    obtain ⟨status, body⟩ := answer
    dsimp only [exchanged]
    by_cases hrefused : status ≠ 200 ∨ accepts body = false
    · exact .inl (by rw [if_pos hrefused])
    · rw [if_neg hrefused]
      rw [not_or, not_not] at hrefused
      obtain ⟨rfl, -⟩ := hrefused
      cases hdecoded : body.decode dec with
      | none => exact .inl rfl
      | some a =>
        rw [Option.bind_some]
        cases hinto : into a with
        | none => exact .inl rfl
        | some b => exact .inr ⟨body, a, b, rfl, hdecoded, hinto, rfl⟩

/-! ## 2. Video publication -/

/-- The provider installed for a loopback declaration. -/
structure TcpRunnerProvider where
  platform : Platform
  address : SocketAddr

namespace TcpRunnerProvider

def rejected : DispatchOutcome :=
  .rejected "local provider runner did not return a valid accepted response"

/-- `enqueue_with`, and `enqueue`. -/
def enqueueWith (provider : TcpRunnerProvider) (request : PublishRequest) :
    Client DispatchOutcome := do
  let payload ← Talk.lift (ProviderRunnerRequest.toJson
    ⟨providerRunnerProtocolVersion, provider.platform, request.runnerSafe⟩)
  exchange ⟨provider.address, "/v1/publish", payload⟩ anyBody ProviderRunnerResponse.fromJson
    (·.intoDispatch provider.platform) rejected

end TcpRunnerProvider

/-- The registry of declared runners and installed providers, before a dispatch. -/
structure RunnerRegistry where
  providers : Platform → Option TcpRunnerProvider
  runners : Platform → Option ProviderRunner

namespace RunnerRegistry

def new : RunnerRegistry := ⟨fun _ => none, fun _ => none⟩

/-- The loop over the declarations: each is checked, and no platform declared twice. -/
def declare : List ProviderRunner → RunnerRegistry → Except ProviderRunnerConfigError RunnerRegistry
  | [], registry => .ok registry
  | runner :: rest, registry => do
    runner.validate
    if (registry.runners runner.platform).isSome then
      .error (.duplicatePlatform runner.platform)
    else declare rest { registry with
      runners := fun p => if p = runner.platform then some runner else registry.runners p }

/-- The address of a declared TCP runner. -/
def tcpAddress (runner : ProviderRunner) : Option (Platform × SocketAddr) :=
  match runner.transport with
  | .tcp address => some (runner.platform, address)
  | _ => none

/-- The loop over the declared TCP runners: a provider for each. -/
def install : List (Platform × SocketAddr) → RunnerRegistry →
    Except ProviderRunnerConfigError RunnerRegistry
  | [], registry => .ok registry
  | (platform, address) :: rest, registry =>
    if (registry.providers platform).isSome then .error (.duplicatePlatform platform)
    else install rest { registry with
      providers := fun p =>
        if p = platform then some ⟨platform, address⟩ else registry.providers p }

/-- Builds a registry with validated local runner declarations. -/
def fromRunners (runners : List ProviderRunner) :
    Except ProviderRunnerConfigError RunnerRegistry := do
  let registry ← declare runners new
  install ((Platform.all.filterMap registry.runners).filterMap tcpAddress) registry

/-- The kind of transport a declaration names. -/
def kind (runner : ProviderRunner) : ProviderRunnerTransport :=
  match runner.transport with
  | .unixSocket _ => .unixSocket
  | .namedPipe _ => .namedPipe
  | .tcp _ => .tcp

/-- The registry a dispatch goes through, when posts are replied to so. -/
def registry (reply : Post → PostReply) (r : RunnerRegistry) : ProviderRegistry where
  providers p := (r.providers p).map fun provider =>
    ⟨.available, fun request => ((provider.enqueueWith request).run.run reply).2⟩
  runners p := (r.runners p).map kind

/-- The posts a provider's calls of `enqueue` make. -/
def posts (reply : Post → PostReply) (r : RunnerRegistry) (calls : List ProviderCall) :
    List Post :=
  calls.flatMap fun call =>
    ((r.providers call.platform).map fun provider =>
      ((provider.enqueueWith call.request).run.run reply).1).getD []

end RunnerRegistry

/-! ## 3. Article publication -/

/-- The endpoint of an article runner. -/
structure ArticleRunner where
  address : SocketAddr
deriving DecidableEq

inductive ArticleRunnerConfigError where
  | tcpMustBeLoopback
  | credentialLikeEndpoint
  | invalidArgument
deriving DecidableEq, Repr

namespace ArticleRunner

/-- Ensures the endpoint cannot target a remote host. -/
def validate (runner : ArticleRunner) : Except ArticleRunnerConfigError Unit :=
  if runner.address.isLoopback then .ok () else .error .tcpMustBeLoopback

def rejected (automationAttempted : Bool) : ArticleDispatchOutcome :=
  .rejected "local article runner did not return a valid accepted response" automationAttempted

/-- `dispatch_with`, and `dispatch`: an unscheduled article, through the local protocol. -/
def dispatchWith (runner : ArticleRunner) (request : PublishArticleRequest) :
    Client ArticleDispatchOutcome := do
  Talk.lift request.validate
  if request.scheduledAt.isSome then
    pure (.rejected "scheduled article dispatch is not supported" false)
  else do
    let expected ← Talk.lift request.articlePlatform
    let payload ← Talk.lift (ArticleRunnerRequest.toJson
      ⟨articleRunnerProtocolVersion, request.runnerSafe⟩)
    exchange ⟨runner.address, "/v1/publish-article", payload⟩ anyBody ArticleRunnerResponse.fromJson
      (·.intoDispatch expected) (rejected true)

end ArticleRunner

/-! ## 4. Probes and terminal QR logins -/

namespace ProviderRunner

/-- `request_manual_login_with`. -/
def requestManualLoginWith (runner : ProviderRunner) : Client ManualLoginOutcome :=
  match runner.loopbackTcpAddress with
  | none => pure .unavailable
  | some address =>
    exchange ⟨address, "/v1/login", ProbeRequest.toJson
      ⟨loginRunnerProtocolVersion, runner.platform⟩⟩ anyBody LoginRunnerResponse.fromJson
      (·.intoManualLogin runner.platform) .rejected

/-- `account_readiness_with`. -/
def accountReadinessWith (runner : ProviderRunner) : Client AccountReadiness :=
  match runner.loopbackTcpAddress with
  | none => pure .unavailable
  | some address =>
    exchange ⟨address, "/v1/account-status", ProbeRequest.toJson
      ⟨accountStatusRunnerProtocolVersion, runner.platform⟩⟩ anyBody
      (StatusResponse.fromJson accountStatusVariants)
      (·.into accountStatusRunnerProtocolVersion runner.platform) .rejected

/-- `fanqie_review_status_with`: platform and title are checked before the address. -/
def fanqieReviewStatusWith (runner : ProviderRunner) (titleQuery : String) :
    Client ReviewStatus :=
  let request : ReviewStatusRunnerRequest :=
    ⟨reviewStatusRunnerProtocolVersion, .fanqieVideo, normalizeReviewTitleQuery titleQuery⟩
  if runner.platform ≠ .fanqieVideo ∨ request.validate = false then pure .rejected
  else
    match runner.loopbackTcpAddress with
    | none => pure .unavailable
    | some address =>
      exchange ⟨address, "/v1/review-status", request.toJson⟩ anyBody
        (StatusResponse.fromJson reviewStatusVariants)
        (·.into reviewStatusRunnerProtocolVersion .fanqieVideo) .rejected

/-- `terminal_qr_login_request_with`. -/
def terminalQrLoginRequestWith (runner : ProviderRunner) (path : String) (payload : Json) :
    Client TerminalQrLoginOutcome :=
  match runner.loopbackTcpAddress with
  | none => pure .unavailable
  | some address =>
    exchange ⟨address, path, payload⟩ (fun body => body.length ≤ terminalQrLoginResponseMaxBytes)
      TerminalQrLoginRunnerResponse.fromJson (·.intoTerminalQrLogin runner.platform) .rejected

/-- `request_terminal_qr_login_with`. -/
def requestTerminalQrLoginWith (runner : ProviderRunner) : Client TerminalQrLoginOutcome :=
  if terminalQrRequestMatches terminalQrLoginRunnerProtocolVersion runner.platform then
    runner.terminalQrLoginRequestWith "/v1/login/terminal-qr"
      (ProbeRequest.toJson ⟨terminalQrLoginRunnerProtocolVersion, runner.platform⟩)
  else pure .rejected

/-- A request about an attempt, if its platform and token are valid. -/
def terminalQrAttemptWith (runner : ProviderRunner) (path token : String) :
    Client TerminalQrLoginOutcome :=
  let request : TerminalQrAttemptRequest :=
    ⟨terminalQrLoginRunnerProtocolVersion, runner.platform, token⟩
  if request.validate then runner.terminalQrLoginRequestWith path request.toJson
  else pure .rejected

/-- `refresh_terminal_qr_login_with`. -/
def refreshTerminalQrLoginWith (runner : ProviderRunner) (token : String) :
    Client TerminalQrLoginOutcome :=
  runner.terminalQrAttemptWith "/v1/login/terminal-qr/refresh" token

/-- `cancel_terminal_qr_login_with`. -/
def cancelTerminalQrLoginWith (runner : ProviderRunner) (token : String) :
    Client TerminalQrLoginOutcome :=
  runner.terminalQrAttemptWith "/v1/login/terminal-qr/cancel" token

end ProviderRunner

end MatriXpost
