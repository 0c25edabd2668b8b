/-
  File:      MatriXpost/Runner/ProbeService.lean
  Subject:   THE RUNNER'S SIDE OF A MANUAL LOGIN, A READINESS PROBE AND A REVIEW PROBE: their
             messages, their handlers, and what a runner that was started has for them.

  Sources: `service.rs` and `config.rs` of the WebDriver runner, `local_webdriver_endpoint` of
  `profiles/common.rs`, and the derives of `runner/protocol.rs`.

  An executor is a publisher attached to a browser. The reader of URLs is a parameter, and so is
  the text of an address.

  * `fromJson_toJson` of each message: what one side writes the other reads;
  * `login_reports`, `accountStatus_reports`, `reviewStatus_reports`: a handler that is asked in the
    right version answers 200 with the response that carries what its executor found;
  * `AttachedPublisher` is attached at a loopback address, by construction, and
    `startRunner_executors` says which executors a runner was given: those its flags permit.
-/
import MatriXpost.Lib.Through
import MatriXpost.Runner.Client
import MatriXpost.WebDriver.Publish

namespace MatriXpost

open Json

/-! ## 1. Messages -/

/-- `LoginRunnerRequest` and `AccountStatusRunnerRequest`. -/
def ProbeRequest.fromJson (j : Json) : Except String ProbeRequest := do
  let fields ← fieldsOf ["version", "platform"] j
  .ok ⟨← required asU16 "version" fields, ← required Platform.fromJson "platform" fields⟩

def ReviewStatusRunnerRequest.fromJson (j : Json) : Except String ReviewStatusRunnerRequest := do
  let fields ← fieldsOf ["version", "platform", "title_query"] j
  .ok ⟨← required asU16 "version" fields, ← required Platform.fromJson "platform" fields,
    ← required asString "title_query" fields⟩

namespace LoginRunnerResponse

def toJson : LoginRunnerResponse → Json
  | .opened version platform manualLoginRequired => ofTagged "opened"
    (header version platform.toJson ++ [("manual_login_required", .bool manualLoginRequired)])
  | .unavailable version platform reason =>
    ProviderRunnerResponse.written "unavailable" "reason" version platform reason
  | .rejected version platform reason =>
    ProviderRunnerResponse.written "rejected" "reason" version platform reason

def version : LoginRunnerResponse → Nat
  | .opened version .. | .unavailable version .. | .rejected version .. => version

end LoginRunnerResponse

def AccountReadiness.tag : AccountReadiness → String
  | ready => "ready"
  | notReady => "not_ready"
  | unavailable => "unavailable"
  | rejected => "rejected"

def ReviewStatus.tag : ReviewStatus → String
  | published => "published"
  | underReview => "under_review"
  | rejected => "rejected"
  | notFound => "not_found"
  | unavailable => "unavailable"

/-- A status response under the tag of its outcome. -/
def StatusResponse.toJson {σ : Type} (tag : σ → String) (r : StatusResponse σ) : Json :=
  ofTagged (tag r.outcome) (header r.version r.platform.toJson)

section Messages
variable {version : Nat} {platform : Platform}

/-- The two fields of a header are read back. -/
theorem fields_header (platform : Platform) (hversion : version < 65536) :
    ∃ fields, fieldsOf ["version", "platform"] (.object (header version platform.toJson)) =
        .ok fields ∧ required asU16 "version" fields = .ok version ∧
      required Platform.fromJson "platform" fields = .ok platform := by
  obtain ⟨hknown, h₁, h₂⟩ := header_read [] [] hversion (Platform.fromJson_toJson platform) rfl
    (by decide)
  exact ⟨_, hknown, h₁, h₂⟩

theorem ProbeRequest.fromJson_toJson (hversion : version < 65536) :
    ProbeRequest.fromJson (ProbeRequest.toJson ⟨version, platform⟩) = .ok ⟨version, platform⟩ := by
  obtain ⟨fields, hfields, h₁, h₂⟩ := fields_header platform hversion
  exact except_bind_ok.mpr ⟨fields, hfields, except_bind_ok.mpr ⟨version, h₁,
    except_bind_ok.mpr ⟨platform, h₂, rfl⟩⟩⟩

theorem ReviewStatusRunnerRequest.fromJson_toJson {titleQuery : String}
    (hversion : version < 65536) :
    fromJson (toJson ⟨version, platform, titleQuery⟩) = .ok ⟨version, platform, titleQuery⟩ := by
  obtain ⟨hknown, h₁, h₂⟩ := header_read ["title_query"] [("title_query", .string titleQuery)]
    hversion (Platform.fromJson_toJson platform) rfl (by decide)
  have h₃ : required asString "title_query" (header version platform.toJson ++
      [("title_query", .string titleQuery)]) = .ok titleQuery :=
    required_string (by simp [header])
  exact except_bind_ok.mpr ⟨_, hknown, except_bind_ok.mpr ⟨version, h₁,
    except_bind_ok.mpr ⟨platform, h₂, except_bind_ok.mpr ⟨titleQuery, h₃, rfl⟩⟩⟩⟩

/-- **A written status is read back**, where its tag is the one of its variant. -/
theorem StatusResponse.fromJson_toJson {σ : Type} {variants : List (String × σ)}
    {tag : σ → String} {outcome : σ} (hversion : version < 65536)
    (htag : (variants.find? fun v => v.1 = tag outcome) = some (tag outcome, outcome)) :
    fromJson variants (toJson tag ⟨outcome, version, platform⟩) =
      .ok ⟨outcome, version, platform⟩ := by
  obtain ⟨fields, hfields, h₁, h₂⟩ := fields_header platform hversion
  have htagged : tagged (ofTagged (tag outcome) (header version platform.toJson)) =
      .ok (tag outcome, .object (header version platform.toJson)) :=
    tagged_ofTagged (by simp [header])
  refine except_bind_ok.mpr ⟨(tag outcome, .object (header version platform.toJson)), htagged, ?_⟩
  dsimp only
  rw [htag]
  exact except_bind_ok.mpr ⟨fields, hfields, except_bind_ok.mpr ⟨version, h₁,
    except_bind_ok.mpr ⟨platform, h₂, rfl⟩⟩⟩

theorem accountStatus_tag (o : AccountReadiness) :
    (accountStatusVariants.find? fun v => v.1 = o.tag) = some (o.tag, o) := by
  cases o <;> rfl

theorem reviewStatus_tag (o : ReviewStatus) :
    (reviewStatusVariants.find? fun v => v.1 = o.tag) = some (o.tag, o) := by
  cases o <;> rfl

/-- **A written login response is read back.** -/
theorem LoginRunnerResponse.fromJson_toJson {r : LoginRunnerResponse} (h : r.version < 65536) :
    fromJson r.toJson = .ok r := by
  have hreason : "reason" ≠ "outcome" := by decide
  cases r with
  | opened v p required =>
    have hv : v < 65536 := h
    obtain ⟨hknown, h₁, h₂⟩ := header_read ["manual_login_required"]
      [("manual_login_required", .bool required)] hv (Platform.fromJson_toJson p) rfl (by decide)
    have h₃ : Json.required asBool "manual_login_required" (header v p.toJson ++
        [("manual_login_required", .bool required)]) = .ok required :=
      required_of_values (j := .bool required) (by simp [header]) rfl
    exact except_bind_ok.mpr ⟨_, tagged_ofTagged (by simp [header]), except_bind_ok.mpr ⟨_,
      hknown, except_bind_ok.mpr ⟨v, h₁, except_bind_ok.mpr ⟨p, h₂, except_bind_ok.mpr
        ⟨required, h₃, rfl⟩⟩⟩⟩⟩
  | unavailable v p reason =>
    have hv : v < 65536 := h
    have hfields : ProviderRunnerResponse.fields "reason" (.object (header v p.toJson ++
        [("reason", .string reason)])) = .ok (v, p, reason) :=
      ProviderRunnerResponse.fields_written hv (.inr rfl)
    exact except_bind_ok.mpr ⟨_, ProviderRunnerResponse.tagged_written hreason,
      except_bind_ok.mpr ⟨_, hfields, rfl⟩⟩
  | rejected v p reason =>
    have hv : v < 65536 := h
    have hfields : ProviderRunnerResponse.fields "reason" (.object (header v p.toJson ++
        [("reason", .string reason)])) = .ok (v, p, reason) :=
      ProviderRunnerResponse.fields_written hv (.inr rfl)
    exact except_bind_ok.mpr ⟨_, ProviderRunnerResponse.tagged_written hreason,
      except_bind_ok.mpr ⟨_, hfields, rfl⟩⟩

end Messages

/-! ## 2. Attached browsers -/

/-- `url::Host`. -/
inductive UrlHost where
  | domain (name : String)
  | ipv4 (a b c d : UInt8)
  | ipv6 (segments : Vector UInt16 8)

def UrlHost.isLoopback : UrlHost → Bool
  | domain _ => false
  | ipv4 a b c d => (SocketAddr.v4 a b c d 0).isLoopback
  | ipv6 segments => (SocketAddr.v6 segments 0 0 0).isLoopback

/-- What is read of a URL. -/
structure EndpointUrl where
  scheme : String
  username : String
  password : Option String
  host : Option UrlHost
  path : String
  query : Option String
  fragment : Option String

def sensitiveTerms : List String := credentialLikeTerms ++ ["profile"]

def sensitive (value : String) : Bool :=
  sensitiveTerms.any fun needle => containsText (toAsciiLowercase value) needle

def localWebdriverEndpoint (parse : String → Option EndpointUrl) (value : String) :
    Except String EndpointUrl :=
  match parse value with
  | none => .error "WebDriver endpoint must be an absolute URL"
  | some url =>
    if url.scheme ≠ "http" ∨ url.username ≠ "" ∨ url.password.isSome = true ∨
        url.query.isSome = true ∨ url.fragment.isSome = true then
      .error "WebDriver endpoint must be credential-free loopback HTTP"
    else if url.host.any UrlHost.isLoopback && !sensitive url.path then .ok url
    else .error "WebDriver endpoint must be credential-free loopback HTTP"

/-- A publisher attached to a browser on this host. -/
structure AttachedPublisher where
  endpoint : EndpointUrl
  browserDebuggerAddress : SocketAddr
  loopback : browserDebuggerAddress.isLoopback = true

def buildAttachedPublisher (endpoint : Option EndpointUrl) (debuggerAddress : Option SocketAddr) :
    Except String (Option AttachedPublisher) :=
  match endpoint, debuggerAddress with
  | some endpoint, some address =>
    if h : address.isLoopback = true then .ok (some ⟨endpoint, address, h⟩)
    else .error "browser debugger address must be loopback"
  | none, some _ =>
    .error "--webdriver-endpoint is required when --browser-debugger-address is set"
  | _, none => .ok none

def buildOptInPublisher (endpoint : Option EndpointUrl) (debuggerAddress : Option SocketAddr)
    (enabled : Bool) : Except String (Option AttachedPublisher) :=
  if enabled then buildAttachedPublisher endpoint debuggerAddress else .ok none

def buildRemoteMediaSupport (directory : Option PathBuf) : Except String (Option PathBuf) :=
  match directory with
  | none => .ok none
  | some directory =>
    if directory.isAbsolute then .ok (some directory)
    else .error "--remote-media-dir must be an absolute path"

/-- The arguments of a runner. -/
structure RunnerArgs where
  bind : SocketAddr
  webdriverEndpoint : Option String
  browserDebuggerAddress : Option SocketAddr
  allowArticlePublish : Bool
  allowLoginNavigation : Bool
  allowTerminalQrLogin : Bool
  allowAccountStatusProbe : Bool
  allowReviewStatusProbe : Bool
  remoteMediaDir : Option PathBuf

/-- `RunnerService`: an executor for each thing the runner may do in the browser. -/
structure AttachedService where
  executor : Option AttachedPublisher
  articleExecutor : Option AttachedPublisher
  loginExecutor : Option AttachedPublisher
  terminalQrLoginExecutor : Option AttachedPublisher
  accountStatusExecutor : Option AttachedPublisher
  reviewStatusExecutor : Option AttachedPublisher
  remoteMediaDir : Option PathBuf
  browserDebuggerAddress : Option SocketAddr

/-- The configuration of `run`. -/
def buildService (parse : String → Option EndpointUrl) (args : RunnerArgs) :
    Except String AttachedService := do
  let endpoint ← args.webdriverEndpoint.mapM (localWebdriverEndpoint parse)
  let address := args.browserDebuggerAddress
  let executor ← buildAttachedPublisher endpoint address
  let articleExecutor ← buildOptInPublisher endpoint address args.allowArticlePublish
  let loginExecutor ← buildOptInPublisher endpoint address args.allowLoginNavigation
  let terminalQrLoginExecutor ← buildOptInPublisher endpoint address args.allowTerminalQrLogin
  let accountStatusExecutor ← buildOptInPublisher endpoint address args.allowAccountStatusProbe
  let reviewStatusExecutor ← buildOptInPublisher endpoint address args.allowReviewStatusProbe
  let remoteMediaDir ← buildRemoteMediaSupport args.remoteMediaDir
  .ok ⟨executor, articleExecutor, loginExecutor, terminalQrLoginExecutor, accountStatusExecutor,
    reviewStatusExecutor, remoteMediaDir, address⟩

/-- `run`, up to the service it serves: a failure ends the process with code 2. -/
def startRunner (parse : String → Option EndpointUrl) (args : RunnerArgs) :
    Except String AttachedService :=
  if args.bind.isLoopback = false then .error "matrixpost-webdriver-runner bind must be loopback"
  else
    (buildService parse args).mapError ("matrixpost-webdriver-runner configuration error: " ++ ·)

/-- An executor is there exactly if it is permitted and there is a browser to attach to. -/
def GivenIf (enabled : Bool) (debuggerAddress : Option SocketAddr)
    (executor : Option AttachedPublisher) : Prop :=
  executor.map (·.browserDebuggerAddress) = if enabled then debuggerAddress else none

theorem buildAttachedPublisher_ok {endpoint : Option EndpointUrl}
    {debuggerAddress : Option SocketAddr} {executor : Option AttachedPublisher}
    (h : buildAttachedPublisher endpoint debuggerAddress = .ok executor) :
    executor.map (·.browserDebuggerAddress) = debuggerAddress := by
  unfold buildAttachedPublisher at h
  split at h
  · split at h
    · cases h
      rfl
    · cases h
  · cases h
  · cases h
    rfl

theorem buildOptInPublisher_ok {endpoint : Option EndpointUrl}
    {debuggerAddress : Option SocketAddr} {enabled : Bool} {executor : Option AttachedPublisher}
    (h : buildOptInPublisher endpoint debuggerAddress enabled = .ok executor) :
    GivenIf enabled debuggerAddress executor := by
  cases enabled with
  | false =>
    cases h
    rfl
  | true => exact buildAttachedPublisher_ok h

/-- What a runner that was started has. -/
structure RunnerStarted (args : RunnerArgs) (service : AttachedService) : Prop where
  bind : args.bind.isLoopback = true
  executor : GivenIf true args.browserDebuggerAddress service.executor
  article : GivenIf args.allowArticlePublish args.browserDebuggerAddress service.articleExecutor
  login : GivenIf args.allowLoginNavigation args.browserDebuggerAddress service.loginExecutor
  terminalQr :
    GivenIf args.allowTerminalQrLogin args.browserDebuggerAddress service.terminalQrLoginExecutor
  accountStatus :
    GivenIf args.allowAccountStatusProbe args.browserDebuggerAddress service.accountStatusExecutor
  reviewStatus :
    GivenIf args.allowReviewStatusProbe args.browserDebuggerAddress service.reviewStatusExecutor

/-- **A runner has the executors its flags permit**, all attached to one browser on this host. -/
theorem startRunner_executors {parse : String → Option EndpointUrl} {args : RunnerArgs}
    {service : AttachedService} (h : startRunner parse args = .ok service) :
    RunnerStarted args service := by
  unfold startRunner at h
  by_cases hbind : args.bind.isLoopback = false
  · rw [if_pos hbind] at h
    cases h
  rw [if_neg hbind] at h
  have hbuilt : buildService parse args = .ok service := by
    cases hb : buildService parse args with
    | error e =>
      rw [hb] at h
      cases h
    | ok built =>
      rw [hb] at h
      cases h
      rfl
  obtain ⟨endpoint, -, h⟩ := except_bind_ok.mp hbuilt
  obtain ⟨executor, hexecutor, h⟩ := except_bind_ok.mp h
  obtain ⟨article, harticle, h⟩ := except_bind_ok.mp h
  obtain ⟨login, hlogin, h⟩ := except_bind_ok.mp h
  obtain ⟨terminalQr, hterminalQr, h⟩ := except_bind_ok.mp h
  obtain ⟨accountStatus, haccountStatus, h⟩ := except_bind_ok.mp h
  obtain ⟨reviewStatus, hreviewStatus, h⟩ := except_bind_ok.mp h
  obtain ⟨remoteMedia, -, h⟩ := except_bind_ok.mp h
  cases h
  exact {
    bind := by simpa using hbind
    executor := buildAttachedPublisher_ok hexecutor
    article := buildOptInPublisher_ok harticle
    login := buildOptInPublisher_ok hlogin
    terminalQr := buildOptInPublisher_ok hterminalQr
    accountStatus := buildOptInPublisher_ok haccountStatus
    reviewStatus := buildOptInPublisher_ok hreviewStatus }

/-! ## 3. Handlers -/

open WebDriver

/-- A program of the runner over the WebDriver. -/
abbrev Browsing (α : Type) := Prog Command (fun _ => Reply) α

namespace AttachedService

section Handlers
variable (text : SocketAddr → String)

def publisher (executor : AttachedPublisher) : WebDriverPublisher :=
  ⟨text executor.browserDebuggerAddress, 60⟩

def login (service : AttachedService) (body : ProbeRequest) :
    Browsing (Nat × LoginRunnerResponse) :=
  if body.version ≠ loginRunnerProtocolVersion then
    pure (400, .rejected loginRunnerProtocolVersion body.platform
      "invalid manual login request version")
  else
    match service.loginExecutor with
    | none => pure (200, .unavailable loginRunnerProtocolVersion body.platform
        "manual login navigation is not enabled or no browser session is attached")
    | some executor => do
      match ← (openManualLogin (publisher text executor) body.platform).run with
      | .ok _ => pure (200, .opened loginRunnerProtocolVersion body.platform true)
      | .error _ => pure (200, .rejected loginRunnerProtocolVersion body.platform
          "manual login navigation could not be completed")

def accountStatus (service : AttachedService) (body : ProbeRequest) :
    Browsing (Nat × StatusResponse AccountReadiness) :=
  if body.version ≠ accountStatusRunnerProtocolVersion then
    pure (400, ⟨.rejected, accountStatusRunnerProtocolVersion, body.platform⟩)
  else
    match service.accountStatusExecutor with
    | none => pure (200, ⟨.unavailable, accountStatusRunnerProtocolVersion, body.platform⟩)
    | some executor => do
      match ← (accountReadiness (publisher text executor) body.platform).run with
      | .ok true => pure (200, ⟨.ready, accountStatusRunnerProtocolVersion, body.platform⟩)
      | .ok false => pure (200, ⟨.notReady, accountStatusRunnerProtocolVersion, body.platform⟩)
      | .error _ => pure (200, ⟨.rejected, accountStatusRunnerProtocolVersion, body.platform⟩)

def reviewStatus (service : AttachedService) (body : ReviewStatusRunnerRequest) :
    Browsing (Nat × StatusResponse ReviewStatus) :=
  if body.version ≠ reviewStatusRunnerProtocolVersion ∨ body.platform ≠ .fanqieVideo ∨
      body.validate = false then
    pure (400, ⟨.rejected, reviewStatusRunnerProtocolVersion, .fanqieVideo⟩)
  else
    match service.reviewStatusExecutor with
    | none => pure (200, ⟨.unavailable, reviewStatusRunnerProtocolVersion, .fanqieVideo⟩)
    | some executor => do
      match ← (WebDriver.reviewStatus (publisher text executor) body.titleQuery).run with
      | .ok .published =>
        pure (200, ⟨.published, reviewStatusRunnerProtocolVersion, .fanqieVideo⟩)
      | .ok .underReview =>
        pure (200, ⟨.underReview, reviewStatusRunnerProtocolVersion, .fanqieVideo⟩)
      | .ok .rejected => pure (200, ⟨.rejected, reviewStatusRunnerProtocolVersion, .fanqieVideo⟩)
      | .ok .notFound => pure (200, ⟨.notFound, reviewStatusRunnerProtocolVersion, .fanqieVideo⟩)
      | .ok .unavailable | .error _ =>
        pure (200, ⟨.rejected, reviewStatusRunnerProtocolVersion, .fanqieVideo⟩)

/-! What an executor finds, or that there is none. -/

def loginOutcome : Except String Unit → ManualLoginOutcome
  | .ok _ => .opened
  | .error _ => .rejected

def readinessOutcome : Except String Bool → AccountReadiness
  | .ok true => .ready
  | .ok false => .notReady
  | .error _ => .rejected

def reviewOutcome : Except String ReviewStatus → ReviewStatus
  | .ok .unavailable | .error _ => .rejected
  | .ok status => status

def loginReport (service : AttachedService) (platform : Platform) : Browsing ManualLoginOutcome :=
  match service.loginExecutor with
  | none => pure .unavailable
  | some executor => do
    let result ← (openManualLogin (publisher text executor) platform).run
    pure (loginOutcome result)

def readinessReport (service : AttachedService) (platform : Platform) :
    Browsing AccountReadiness :=
  match service.accountStatusExecutor with
  | none => pure .unavailable
  | some executor => do
    let result ← (accountReadiness (publisher text executor) platform).run
    pure (readinessOutcome result)

def reviewReport (service : AttachedService) (titleQuery : String) : Browsing ReviewStatus :=
  match service.reviewStatusExecutor with
  | none => pure .unavailable
  | some executor => do
    let result ← (WebDriver.reviewStatus (publisher text executor) titleQuery).run
    pure (reviewOutcome result)

end Handlers

/-- The response that carries the outcome of a manual login. -/
def loginResponse (platform : Platform) : ManualLoginOutcome → LoginRunnerResponse
  | .opened => .opened loginRunnerProtocolVersion platform true
  | .unavailable => .unavailable loginRunnerProtocolVersion platform
      "manual login navigation is not enabled or no browser session is attached"
  | .rejected => .rejected loginRunnerProtocolVersion platform
      "manual login navigation could not be completed"

section Reports
variable {text : SocketAddr → String} {service : AttachedService}

/-- **A login request is answered with what the executor did.** -/
theorem login_reports (platform : Platform) :
    service.login text ⟨loginRunnerProtocolVersion, platform⟩ =
      service.loginReport text platform >>= fun o => pure (200, loginResponse platform o) := by
  unfold login loginReport
  rw [if_neg (by simp)]
  cases service.loginExecutor with
  | none => rfl
  | some executor =>
    dsimp only
    rw [bind_assoc]
    refine congrArg (_ >>= ·) (funext fun result => ?_)
    cases result with
    | ok u => rfl
    | error e => rfl

/-- **A readiness request is answered with what the executor saw.** -/
theorem accountStatus_reports (platform : Platform) :
    service.accountStatus text ⟨accountStatusRunnerProtocolVersion, platform⟩ =
      service.readinessReport text platform >>= fun o =>
        pure (200, ⟨o, accountStatusRunnerProtocolVersion, platform⟩) := by
  unfold accountStatus readinessReport
  rw [if_neg (by simp)]
  cases service.accountStatusExecutor with
  | none => rfl
  | some executor =>
    dsimp only
    rw [bind_assoc]
    refine congrArg (_ >>= ·) (funext fun result => ?_)
    rcases result with e | (_ | _)
    · rfl
    · rfl
    · rfl

/-- **A review request that is valid is answered with what the executor saw.** -/
theorem reviewStatus_reports {titleQuery : String}
    (hvalid : ReviewStatusRunnerRequest.validate
      ⟨reviewStatusRunnerProtocolVersion, .fanqieVideo, titleQuery⟩ = true) :
    service.reviewStatus text ⟨reviewStatusRunnerProtocolVersion, .fanqieVideo, titleQuery⟩ =
      service.reviewReport text titleQuery >>= fun o =>
        pure (200, ⟨o, reviewStatusRunnerProtocolVersion, .fanqieVideo⟩) := by
  unfold reviewStatus reviewReport
  rw [if_neg (by simp [hvalid])]
  cases service.reviewStatusExecutor with
  | none => rfl
  | some executor =>
    dsimp only
    rw [bind_assoc]
    refine congrArg (_ >>= ·) (funext fun result => ?_)
    rcases result with e | (_ | _ | _ | _ | _)
    · rfl
    · rfl
    · rfl
    · rfl
    · rfl
    · rfl

end Reports

end AttachedService

/-! ## 4. Routes -/

/-- A route: the body is decoded, the handler answers, its response is written. -/
def endpoint {α β : Type} (bytes : Json → Nat) (decode : Json → Except String α)
    (handle : α → Browsing (Nat × β)) (encode : β → Json) (body : Json) :
    Browsing (Nat × ReplyBody) :=
  match decode body with
  | .error _ => pure (422, ⟨0, none⟩)
  | .ok request => do
    let (status, response) ← handle request
    pure (status, ⟨bytes (encode response), some (encode response)⟩)

theorem endpoint_reports {α β γ : Type} {bytes : Json → Nat} {decode : Json → Except String α}
    {handle : α → Browsing (Nat × β)} {encode : β → Json} {body : Json} {request : α}
    {report : Browsing γ} {response : γ → β} (hdecode : decode body = .ok request)
    (hhandle : handle request = report >>= fun o => pure (200, response o)) :
    endpoint bytes decode handle encode body = report >>= fun o =>
      pure (200, ⟨bytes (encode (response o)), some (encode (response o))⟩) := by
  unfold endpoint
  rw [hdecode]
  dsimp only
  rw [hhandle, bind_assoc]
  rfl

section Routes
variable (bytes : Json → Nat) (text : SocketAddr → String)
  (others : Post → Browsing (Nat × ReplyBody))

/-- The routes of the probes, among the others. -/
def AttachedService.app (service : AttachedService) (post : Post) : Browsing (Nat × ReplyBody) :=
  if post.path = "/v1/login" then
    endpoint bytes ProbeRequest.fromJson (service.login text) LoginRunnerResponse.toJson post.body
  else if post.path = "/v1/account-status" then
    endpoint bytes ProbeRequest.fromJson (service.accountStatus text)
      (StatusResponse.toJson AccountReadiness.tag) post.body
  else if post.path = "/v1/review-status" then
    endpoint bytes ReviewStatusRunnerRequest.fromJson (service.reviewStatus text)
      (StatusResponse.toJson ReviewStatus.tag) post.body
  else others post

/-- The runners of the host: a post is served by the one at its address. -/
def appAt (services : SocketAddr → AttachedService) (post : Post) : Browsing (Nat × ReplyBody) :=
  (services post.address).app bytes text others post

end Routes

section App
variable {bytes : Json → Nat} {text : SocketAddr → String}
  {others : Post → Browsing (Nat × ReplyBody)} {service : AttachedService}
  {address : SocketAddr} {body : Json}

theorem app_login : service.app bytes text others ⟨address, "/v1/login", body⟩ =
    endpoint bytes ProbeRequest.fromJson (service.login text) LoginRunnerResponse.toJson body :=
  if_pos rfl

theorem app_accountStatus : service.app bytes text others ⟨address, "/v1/account-status", body⟩ =
    endpoint bytes ProbeRequest.fromJson (service.accountStatus text)
      (StatusResponse.toJson AccountReadiness.tag) body := by
  have hlogin : "/v1/account-status" ≠ "/v1/login" := by decide
  exact (if_neg hlogin).trans (if_pos rfl)

theorem app_reviewStatus : service.app bytes text others ⟨address, "/v1/review-status", body⟩ =
    endpoint bytes ReviewStatusRunnerRequest.fromJson (service.reviewStatus text)
      (StatusResponse.toJson ReviewStatus.tag) body := by
  have hlogin : "/v1/review-status" ≠ "/v1/login" := by decide
  have hstatus : "/v1/review-status" ≠ "/v1/account-status" := by decide
  exact (if_neg hlogin).trans ((if_neg hstatus).trans (if_pos rfl))

end App

end MatriXpost
