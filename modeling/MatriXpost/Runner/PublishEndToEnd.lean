/-
  File:      MatriXpost/Runner/PublishEndToEnd.lean
  Subject:   A VIDEO PUBLICATION FROM THE CLIENT TO THE EXECUTOR AND BACK.

  The client is `TcpRunnerProvider::enqueue_with`, the server the handler `publish` of a runner;
  between them a channel that delivers bodies as they are.

  * `enqueueWith_answers_iff`: the client posts the runner-safe request once, and reads the reply;
    `readReply_queued`: it answers queued only for a reply that says so in full;
  * `runnerEndpoint_answers_iff`: the handler accepts what the client posts, sees the runner-safe
    request, and answers by its executor and the staged execution;
  * `endToEnd_iff`: the two composed. The client's answer is the outcome of the execution.
-/
import MatriXpost.Process.Entry
import MatriXpost.Runner.Client

namespace MatriXpost

/-! ## 1. The client -/

section Client
variable {request : PublishRequest} {provider : TcpRunnerProvider} {payload : Json}
  {es : List (Called Post fun _ => PostReply)} {r : Except DomainError DispatchOutcome}

/-- What the client makes of a reply. -/
def TcpRunnerProvider.readReply (provider : TcpRunnerProvider) (reply : PostReply) :
    DispatchOutcome :=
  exchanged anyBody ProviderRunnerResponse.fromJson (·.intoDispatch provider.platform)
    TcpRunnerProvider.rejected reply

/-- **The client posts the runner-safe request, once.** -/
theorem enqueueWith_answers_iff
    (h : ProviderRunnerRequest.toJson
      ⟨providerRunnerProtocolVersion, provider.platform, request.runnerSafe⟩ = .ok payload) :
    (provider.enqueueWith request).Answers es r ↔
      ∃ reply, es = [⟨⟨provider.address, "/v1/publish", payload⟩, reply⟩] ∧
        r = .ok (provider.readReply reply) := by
  unfold TcpRunnerProvider.enqueueWith
  rw [Talk.answers_lift_bind]
  constructor
  · intro hdialogue
    rcases hdialogue with ⟨e, he, -, -⟩ | ⟨payload', hpayload, hexchange⟩
    · rw [h] at he
      cases he
    · rw [h] at hpayload
      cases hpayload
      exact exchange_answers_iff.mp hexchange
  · intro hpost
    exact .inr ⟨payload, h, exchange_answers_iff.mpr hpost⟩

/-- **Queued comes only from a reply of status 200 that says so**, for this version and platform
    and with a job id that is not blank. -/
theorem readReply_queued {reply : PostReply} {j : String}
    (h : provider.readReply reply = .queued j) :
    ∃ body value, reply = .ok (200, body) ∧ body.value = some value ∧
      ProviderRunnerResponse.fromJson value =
        .ok (.queued providerRunnerProtocolVersion provider.platform j) ∧ isBlank j = false := by
  unfold TcpRunnerProvider.readReply at h
  cases reply with
  | error u => cases h
  | ok answer =>
    obtain ⟨status, body⟩ := answer
    dsimp only [exchanged] at h
    split at h
    · cases h
    rename_i hstatus
    rw [not_or, not_not] at hstatus
    obtain ⟨rfl, -⟩ := hstatus
    unfold ReplyBody.decode at h
    cases hvalue : body.value with
    | none =>
      rw [hvalue] at h
      cases h
    | some value =>
      rw [hvalue, Option.bind_some] at h
      cases hdecoded : ProviderRunnerResponse.fromJson value with
      | error e =>
        rw [hdecoded] at h
        cases h
      | ok response =>
        rw [hdecoded] at h
        refine ⟨body, value, rfl, hvalue, ?_⟩
        rw [hdecoded]
        simp only [Except.toOption, Option.bind_some] at h
        cases response with
        | queued version platform jobId =>
          simp only [ProviderRunnerResponse.intoDispatch] at h
          split at h
          · rename_i hfor
            obtain ⟨rfl, rfl, hblank⟩ := hfor
            cases h
            exact ⟨rfl, hblank⟩
          · cases h
        | unavailable version platform reason =>
          simp only [ProviderRunnerResponse.intoDispatch] at h
          split at h <;> cases h
        | rejected version platform reason =>
          simp only [ProviderRunnerResponse.intoDispatch] at h
          split at h <;> cases h

/-- What the client makes of a response that was written by a runner. -/
theorem readReply_written {bytes : Nat} {response : ProviderRunnerResponse}
    (h : response.version < 65536) :
    provider.readReply (.ok (200, ⟨bytes, some response.toJson⟩)) =
      (response.intoDispatch provider.platform).getD TcpRunnerProvider.rejected := by
  have hdecode : ReplyBody.decode ProviderRunnerResponse.fromJson ⟨bytes, some response.toJson⟩ =
      some response := by
    unfold ReplyBody.decode
    rw [Option.bind_some, ProviderRunnerResponse.fromJson_toJson h]
    rfl
  unfold TcpRunnerProvider.readReply
  dsimp only [exchanged]
  rw [if_neg (by simp [anyBody]), hdecode, Option.bind_some]

end Client

/-! ## 2. The runner -/

/-- The route of the handler: the body is decoded, the handler answers, its response is written.
    `bytes` is the length of a value's text. -/
def runnerEndpoint (bytes : Json → Nat) (service : RunnerService) (body : Json) :
    Task (Nat × ReplyBody) :=
  match ProviderRunnerRequest.fromJson body with
  | .error _ => pure (422, ⟨0, none⟩)
  | .ok decoded => do
    let (status, response) ← runnerPublish service decoded
    pure (status, ⟨bytes response.toJson, some response.toJson⟩)

section Runner
variable {service : RunnerService} {platform : Platform} {request : PublishRequest}

/-- The publication a runner with an executor carries out: staged if the medium is remote. -/
abbrev StagedExecution (service : RunnerService) (platform : Platform) (request : PublishRequest)
    (es : CallLog) (result : Except String String) : Prop :=
  (publishWithStagedMedia service.remoteMedia platform request).Answers es result

/-- The outcome a staged execution is reported as. -/
def executionOutcome (request : PublishRequest) (result : Except String String) :
    DispatchOutcome :=
  let remote := match request.source with
    | .remoteUrl _ => true
    | .localFile _ => false
  match result with
  | .ok jobId =>
    if !isBlank jobId then .queued jobId
    else .rejected (if remote then remoteMediaExecutionRejection
      else "runner completed without a valid job identifier")
  | .error reason => .rejected (if remote then remoteMediaExecutionRejection else reason)

/-- The response that carries an outcome. -/
def outcomeResponse (platform : Platform) : DispatchOutcome → ProviderRunnerResponse
  | .queued jobId => .queued providerRunnerProtocolVersion platform jobId
  | .unavailable reason => .unavailable providerRunnerProtocolVersion platform reason
  | .rejected reason => .rejected providerRunnerProtocolVersion platform reason

theorem outcomeResponse_version (outcome : DispatchOutcome) :
    (outcomeResponse platform outcome).version < 65536 := by
  have h : providerRunnerProtocolVersion < 65536 := by decide
  cases outcome <;> exact h

/-- The reason of a runner without an executor. -/
def noExecutor : String :=
  "browser debugger address is not configured; no browser session was started"

/-- What a runner reports of a request: that it has no executor, or the outcome of the staged
    execution. -/
def RunnerReports (service : RunnerService) (platform : Platform) (request : PublishRequest)
    (es : CallLog) (o : DispatchOutcome) : Prop :=
  (service.executor = false ∧ es = [] ∧ o = .unavailable noExecutor) ∨
    (service.executor = true ∧ ∃ result, StagedExecution service platform request es result ∧
      o = executionOutcome request result)

/-- **What the handler answers to an acceptable body.** -/
theorem runnerPublish_answers_iff {es : CallLog} {answer : Nat × ProviderRunnerResponse}
    (h : ProviderRunnerRequest.acceptable
      ⟨providerRunnerProtocolVersion, platform, request⟩ = true) :
    (runnerPublish service ⟨providerRunnerProtocolVersion, platform, request⟩).Answers es answer ↔
      ∃ o, answer = (200, outcomeResponse platform o) ∧
        RunnerReports service platform request es o := by
  unfold runnerPublish RunnerReports
  rw [h]
  cases hexecutor : service.executor with
  | false =>
    simp only [Bool.not_true, Bool.not_false, if_true, Bool.false_eq_true, if_false, false_and,
      or_false, true_and]
    constructor
    · intro hdialogue
      obtain ⟨rfl, rfl⟩ := answers_pure.mp hdialogue
      exact ⟨_, rfl, rfl, rfl⟩
    · intro hreport
      obtain ⟨o, rfl, rfl, rfl⟩ := hreport
      exact answers_pure.mpr ⟨rfl, rfl⟩
  | true =>
    simp only [Bool.not_true, Bool.false_eq_true, if_false, Bool.true_eq_false, false_and,
      false_or, true_and]
    rw [answers_bind]
    -- What the handler makes of a result.
    have hresult : ∀ {es' : CallLog} {result : Except String String},
        Prog.Answers (match result with
          | .ok jobId =>
            if !isBlank jobId then
              pure (200, .queued providerRunnerProtocolVersion platform jobId)
            else
              pure (200, .rejected providerRunnerProtocolVersion platform
                (if (match request.source with
                    | .remoteUrl _ => true
                    | .localFile _ => false) then remoteMediaExecutionRejection
                  else "runner completed without a valid job identifier"))
          | .error reason =>
            pure (200, .rejected providerRunnerProtocolVersion platform
              (if (match request.source with
                  | .remoteUrl _ => true
                  | .localFile _ => false) then remoteMediaExecutionRejection
                else reason)) : Task (Nat × ProviderRunnerResponse)) es' answer ↔
        es' = [] ∧ answer = (200, outcomeResponse platform (executionOutcome request result)) := by
      intro es' result
      cases result with
      | error reason => exact answers_pure
      | ok jobId =>
        dsimp only [executionOutcome]
        split <;> exact answers_pure
    constructor
    · intro hdialogue
      obtain ⟨es₁, result, es₂, rfl, hstaged, hrest⟩ := hdialogue
      obtain ⟨rfl, hanswer⟩ := hresult.mp hrest
      rw [List.append_nil]
      exact ⟨_, hanswer, result, hstaged, rfl⟩
    · intro hreport
      obtain ⟨o, hanswer, result, hstaged, rfl⟩ := hreport
      exact ⟨es, result, [], (List.append_nil es).symm, hstaged, hresult.mpr ⟨rfl, hanswer⟩⟩

end Runner

/-! ## 3. The two of them -/

/-- A publication over a channel that delivers bodies intact: the client posts, the runner answers
    to what was posted, the client reads the answer. The calls are the runner's. -/
def EndToEnd (bytes : Json → Nat) (service : RunnerService) (provider : TcpRunnerProvider)
    (request : PublishRequest) (es : CallLog) (outcome : Except DomainError DispatchOutcome) :
    Prop :=
  ∃ post status body,
    (provider.enqueueWith request).Answers [⟨post, .ok (status, body)⟩] outcome ∧
      (runnerEndpoint bytes service post.body).Answers es (status, body)

section EndToEnd
variable {bytes : Json → Nat} {service : RunnerService} {provider : TcpRunnerProvider}
  {request : PublishRequest} {es : CallLog} {outcome : Except DomainError DispatchOutcome}

/-- **The handler accepts what a client posts of a valid request, and sees the runner-safe one.** -/
theorem posted_acceptable (hvalid : request.validate = .ok ()) (hutf8 : request.source.IsUtf8)
    (hp : provider.platform ∈ request.targets) :
    ∃ payload, ProviderRunnerRequest.toJson
        ⟨providerRunnerProtocolVersion, provider.platform, request.runnerSafe⟩ = .ok payload ∧
      ProviderRunnerRequest.fromJson payload =
        .ok ⟨providerRunnerProtocolVersion, provider.platform, request.runnerSafe⟩ ∧
      ProviderRunnerRequest.acceptable
        ⟨providerRunnerProtocolVersion, provider.platform, request.runnerSafe⟩ = true := by
  have hsource : request.runnerSafe.source.IsUtf8 := hutf8
  obtain ⟨body, hbody⟩ := PublishRequest.exists_toJson hsource
  have hpayload : ProviderRunnerRequest.toJson
      ⟨providerRunnerProtocolVersion, provider.platform, request.runnerSafe⟩ =
      .ok (.object (header providerRunnerProtocolVersion provider.platform.toJson ++
        [("request", body)])) := by
    unfold ProviderRunnerRequest.toJson
    rw [hbody]
    rfl
  have hversion : providerRunnerProtocolVersion < 65536 := by decide
  refine ⟨_, hpayload, ProviderRunnerRequest.fromJson_toJson hversion hpayload, ?_⟩
  simp [ProviderRunnerRequest.acceptable, hp, request.validate_runnerSafe, hvalid,
    request.runnerSafe_hasAccountRouting, Except.isOk, Except.toBool]

/-- The client takes the response that carries an outcome for that outcome, unless it is queued
    under a blank id. -/
theorem readReply_outcome {n : Nat} {o : DispatchOutcome}
    (h : ∀ j, o = .queued j → isBlank j = false) :
    provider.readReply (.ok (200, ⟨n, some (outcomeResponse provider.platform o).toJson⟩)) = o := by
  rw [readReply_written (outcomeResponse_version o)]
  cases o with
  | queued j => simp [outcomeResponse, ProviderRunnerResponse.intoDispatch, h j rfl]
  | unavailable reason => simp [outcomeResponse, ProviderRunnerResponse.intoDispatch]
  | rejected reason => simp [outcomeResponse, ProviderRunnerResponse.intoDispatch]

theorem executionOutcome_named {result : Except String String} {j : String}
    (h : executionOutcome request result = .queued j) :
    result = .ok j ∧ isBlank j = false := by
  unfold executionOutcome at h
  cases result with
  | error reason => cases h
  | ok jobId =>
    dsimp only at h
    split at h
    · rename_i hblank
      cases h
      exact ⟨rfl, by simpa using hblank⟩
    · cases h

/-- A runner reports no blank job id. -/
theorem RunnerReports.named {platform : Platform} {o : DispatchOutcome}
    (h : RunnerReports service platform request es o) : ∀ j, o = .queued j → isBlank j = false := by
  intro j hj
  rcases h with ⟨-, -, rfl⟩ | ⟨-, result, -, rfl⟩
  · cases hj
  · exact (executionOutcome_named hj).2

/-- **The endpoint of a runner** reports on the request it was posted. -/
theorem runnerEndpoint_answers_iff {payload : Json} {platform : Platform} {answer : Nat × ReplyBody}
    (hdecode : ProviderRunnerRequest.fromJson payload =
      .ok ⟨providerRunnerProtocolVersion, platform, request⟩)
    (haccept : ProviderRunnerRequest.acceptable
      ⟨providerRunnerProtocolVersion, platform, request⟩ = true) :
    (runnerEndpoint bytes service payload).Answers es answer ↔
      ∃ o, answer = (200, ⟨bytes (outcomeResponse platform o).toJson,
          some (outcomeResponse platform o).toJson⟩) ∧
        RunnerReports service platform request es o := by
  unfold runnerEndpoint
  rw [hdecode]
  dsimp only
  rw [answers_bind]
  constructor
  · intro h
    obtain ⟨es₁, handled, es₂, rfl, hhandler, hwritten⟩ := h
    obtain ⟨rfl, rfl⟩ := answers_pure.mp hwritten
    obtain ⟨o, rfl, hreports⟩ := (runnerPublish_answers_iff haccept).mp hhandler
    rw [List.append_nil]
    exact ⟨o, rfl, hreports⟩
  · intro h
    obtain ⟨o, rfl, hreports⟩ := h
    exact ⟨es, (200, outcomeResponse platform o), [], (List.append_nil es).symm,
      (runnerPublish_answers_iff haccept).mpr ⟨o, rfl, hreports⟩, answers_pure.mpr ⟨rfl, rfl⟩⟩

/-- **What a client is told** is what the runner reports of its runner-safe request. -/
theorem endToEnd_iff (hvalid : request.validate = .ok ()) (hutf8 : request.source.IsUtf8)
    (hp : provider.platform ∈ request.targets) :
    EndToEnd bytes service provider request es outcome ↔
      ∃ o, outcome = .ok o ∧
        RunnerReports service provider.platform request.runnerSafe es o := by
  obtain ⟨payload, hpayload, hdecode, haccept⟩ := posted_acceptable hvalid hutf8 hp
  constructor
  · intro h
    obtain ⟨post, status, body, hclient, hserver⟩ := h
    obtain ⟨reply, hpost, rfl⟩ := (enqueueWith_answers_iff hpayload).mp hclient
    cases hpost
    obtain ⟨o, hanswer, hreports⟩ := (runnerEndpoint_answers_iff hdecode haccept).mp hserver
    cases hanswer
    exact ⟨o, by rw [readReply_outcome hreports.named], hreports⟩
  · intro h
    obtain ⟨o, rfl, hreports⟩ := h
    refine ⟨⟨provider.address, "/v1/publish", payload⟩, 200, _, ?_,
      (runnerEndpoint_answers_iff hdecode haccept).mpr ⟨o, rfl, hreports⟩⟩
    exact (enqueueWith_answers_iff hpayload).mpr ⟨_, rfl, by rw [readReply_outcome hreports.named]⟩

/-- The client is told of a job exactly when the execution ended with it. -/
theorem endToEnd_queued_iff {platform : Platform} {o : DispatchOutcome} {j : String}
    (h : RunnerReports service platform request es o) :
    o = .queued j ↔ service.executor = true ∧
      StagedExecution service platform request es (.ok j) ∧ isBlank j = false := by
  constructor
  · intro hj
    rcases h with ⟨-, -, rfl⟩ | ⟨hexecutor, result, hstaged, rfl⟩
    · cases hj
    · obtain ⟨rfl, hblank⟩ := executionOutcome_named hj
      exact ⟨hexecutor, hstaged, hblank⟩
  · intro hexecution
    obtain ⟨hexecutor, hstaged, hblank⟩ := hexecution
    rcases h with ⟨hnone, -, -⟩ | ⟨-, result, hresult, rfl⟩
    · rw [hexecutor] at hnone
      cases hnone
    · cases answers_unique hstaged hresult
      simp [executionOutcome, hblank]

theorem endToEnd_unavailable_iff {platform : Platform} {o : DispatchOutcome}
    (h : RunnerReports service platform request es o) :
    (∃ reason, o = .unavailable reason) ↔ service.executor = false := by
  rcases h with ⟨hnone, -, rfl⟩ | ⟨hexecutor, result, -, rfl⟩
  · exact ⟨fun _ => hnone, fun _ => ⟨_, rfl⟩⟩
  · rw [hexecutor]
    refine ⟨fun hreason => ?_, fun hno => (by cases hno)⟩
    obtain ⟨reason, hreason⟩ := hreason
    unfold executionOutcome at hreason
    cases result with
    | error error => cases hreason
    | ok jobId =>
      dsimp only at hreason
      split at hreason <;> cases hreason

/-- Rejected is every other case. -/
theorem endToEnd_rejected_iff {platform : Platform} {o : DispatchOutcome}
    (h : RunnerReports service platform request es o) :
    (∃ reason, o = .rejected reason) ↔ service.executor = true ∧
      ¬ ∃ j, StagedExecution service platform request es (.ok j) ∧ isBlank j = false := by
  have hunavailable := endToEnd_unavailable_iff h
  constructor
  · intro hreason
    obtain ⟨reason, rfl⟩ := hreason
    constructor
    · rw [← Bool.not_eq_false]
      intro hno
      obtain ⟨reason', he⟩ := hunavailable.mpr hno
      cases he
    · intro hnamed
      obtain ⟨j, hstaged, hblank⟩ := hnamed
      rcases h with ⟨-, -, he⟩ | ⟨hexecutor, result, hresult, he⟩
      · cases he
      · have hqueued := (endToEnd_queued_iff (.inr ⟨hexecutor, result, hresult, he⟩)).mpr
          ⟨hexecutor, hstaged, hblank⟩
        cases hqueued
  · intro hno
    obtain ⟨hexecutor, hnone⟩ := hno
    cases o with
    | rejected reason => exact ⟨reason, rfl⟩
    | unavailable reason =>
      have hfalse := hunavailable.mp ⟨reason, rfl⟩
      rw [hexecutor] at hfalse
      cases hfalse
    | queued j =>
      obtain ⟨-, hstaged, hblank⟩ := (endToEnd_queued_iff h).mp rfl
      exact absurd ⟨j, hstaged, hblank⟩ hnone

end EndToEnd

/-- **The publish protocol, end to end.** Of a valid request with a UTF-8 source and a platform
    among its targets: the client answers queued only for a full reply of status 200; the handler
    accepts what it posts and sees the runner-safe request; and over an intact channel the client
    answers queued for the job of the staged execution, unavailable without an executor, and
    rejected otherwise. Every staged execution is reported so. -/
theorem publish_protocol {request : PublishRequest} {provider : TcpRunnerProvider}
    (hvalid : request.validate = .ok ()) (hutf8 : request.source.IsUtf8)
    (hp : provider.platform ∈ request.targets) :
    (∀ es r, (provider.enqueueWith request).Answers es r →
      ∃ post reply o, es = [⟨post, reply⟩] ∧ r = .ok o ∧ ∀ j, o = .queued j →
        ∃ body value, reply = .ok (200, body) ∧ body.value = some value ∧
          ProviderRunnerResponse.fromJson value =
            .ok (.queued providerRunnerProtocolVersion provider.platform j) ∧
          isBlank j = false) ∧
    (∃ payload,
      (∀ es r, (provider.enqueueWith request).Answers es r →
        ∃ reply, es = [⟨⟨provider.address, "/v1/publish", payload⟩, reply⟩]) ∧
      ProviderRunnerRequest.fromJson payload =
        .ok ⟨providerRunnerProtocolVersion, provider.platform, request.runnerSafe⟩ ∧
      ProviderRunnerRequest.acceptable
        ⟨providerRunnerProtocolVersion, provider.platform, request.runnerSafe⟩ = true) ∧
    (∀ bytes service es outcome, EndToEnd bytes service provider request es outcome →
      (∀ j, outcome = .ok (.queued j) ↔ service.executor = true ∧
        StagedExecution service provider.platform request.runnerSafe es (.ok j) ∧
        isBlank j = false) ∧
      ((∃ reason, outcome = .ok (.unavailable reason)) ↔ service.executor = false) ∧
      ((∃ reason, outcome = .ok (.rejected reason)) ↔ service.executor = true ∧
        ¬ ∃ j, StagedExecution service provider.platform request.runnerSafe es (.ok j) ∧
          isBlank j = false)) ∧
    ∀ bytes service,
      (service.executor = false → ∃ outcome, EndToEnd bytes service provider request [] outcome) ∧
      ∀ es result, service.executor = true →
        StagedExecution service provider.platform request.runnerSafe es result →
        ∃ outcome, EndToEnd bytes service provider request es outcome := by
  obtain ⟨payload, hpayload, hdecode, haccept⟩ := posted_acceptable hvalid hutf8 hp
  refine ⟨?_, ⟨payload, ?_, hdecode, haccept⟩, ?_, ?_⟩
  · intro es r h
    obtain ⟨reply, rfl, rfl⟩ := (enqueueWith_answers_iff hpayload).mp h
    exact ⟨_, reply, _, rfl, rfl, fun j hj => readReply_queued hj⟩
  · intro es r h
    obtain ⟨reply, rfl, -⟩ := (enqueueWith_answers_iff hpayload).mp h
    exact ⟨reply, rfl⟩
  · intro bytes service es outcome h
    obtain ⟨o, rfl, hreports⟩ := (endToEnd_iff hvalid hutf8 hp).mp h
    simp only [Except.ok.injEq]
    exact ⟨fun j => endToEnd_queued_iff hreports, endToEnd_unavailable_iff hreports,
      endToEnd_rejected_iff hreports⟩
  · intro bytes service
    constructor
    · intro hexecutor
      exact ⟨_, (endToEnd_iff hvalid hutf8 hp).mpr ⟨_, rfl, .inl ⟨hexecutor, rfl, rfl⟩⟩⟩
    · intro es result hexecutor hstaged
      exact ⟨_, (endToEnd_iff hvalid hutf8 hp).mpr
        ⟨_, rfl, .inr ⟨hexecutor, result, hstaged, rfl⟩⟩⟩

/-- A publication of two targets, whose medium is remote. -/
def remoteRequest : PublishRequest :=
  { sampleRequest with source := .remoteUrl ⟨"https", "//media.example/video.mp4", rfl⟩ }

/-- A runner that stages every medium at one path. -/
def stagingRunner : RunnerService := ⟨true, some ⟨fun _ => .ok (.utf8 "staged.mp4"), .ok ()⟩⟩

/-- The executor is given the staged file, and answers with a job. -/
def stagedCalls : CallLog :=
  [⟨.execute .douyin { remoteRequest.runnerSafe with source := .localFile (.utf8 "staged.mp4") },
    Except.ok "job-1"⟩]

theorem publish_protocol_sample :
    EndToEnd (fun _ => 0) stagingRunner ⟨.douyin, .v4 127 0 0 1 39001⟩ remoteRequest stagedCalls
      (.ok (.queued "job-1")) := by
  have hstaged : StagedExecution stagingRunner .douyin remoteRequest.runnerSafe stagedCalls
      (.ok "job-1") := answers_call.mpr
    ⟨.ok "job-1", [], rfl, answers_pure.mpr ⟨rfl, rfl⟩⟩
  obtain ⟨-, -, hread, hexists⟩ := @publish_protocol remoteRequest ⟨.douyin, .v4 127 0 0 1 39001⟩
    (by decide) trivial (by decide)
  obtain ⟨outcome, hrun⟩ := (hexists (fun _ => 0) stagingRunner).2 stagedCalls (.ok "job-1") rfl
    hstaged
  have hqueued : outcome = .ok (.queued "job-1") :=
    ((hread _ _ _ _ hrun).1 "job-1").mpr ⟨rfl, hstaged, by decide⟩
  exact hqueued ▸ hrun

end MatriXpost
