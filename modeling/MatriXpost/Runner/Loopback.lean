/-
  File:      MatriXpost/Runner/Loopback.lean
  Subject:   WHICH ADDRESSES THE CLIENT ADAPTERS POST TO, when a configuration was never checked.

  The declarations are values with public fields; `validate` is a call of its own. The video
  registry makes it, the login adapters read the address through `loopbackTcpAddress`, and the
  article adapter does neither.

  * `fromRunners_loopback`: every provider of a registry posts to the loopback address of a
    declaration it was built from;
  * `LoopbackOnly` is the law of one adapter's program: loopback posts only, and for an endpoint
    that is not loopback no post at all and a refusal;
  * **`loopback_law_exact`**: which calls of the adapters keep the law. All of them, but for an
    article that reaches the post of a runner whose address is remote (`remote_article_posted`).
-/
import MatriXpost.Runner.Client
import MatriXpost.Queue.ArticleRun

namespace MatriXpost

/-! ## 1. The registry's providers -/

namespace RunnerRegistry

variable {runners : List ProviderRunner} {r r' : RunnerRegistry}

/-- Declarations are checked, kept, and the only ones added. -/
theorem declare_spec (h : declare runners r = .ok r') :
    r'.providers = r.providers ∧
      (∀ p runner, r.runners p = some runner → r'.runners p = some runner) ∧
      (∀ runner ∈ runners, runner.validate = .ok () ∧ r'.runners runner.platform = some runner) ∧
      ∀ p runner, r'.runners p = some runner → r.runners p = some runner ∨ runner ∈ runners := by
  induction runners generalizing r with
  | nil =>
    cases h
    exact ⟨rfl, fun _ _ h => h, fun _ h => absurd h List.not_mem_nil, fun _ _ h => .inl h⟩
  | cons first rest ih =>
    unfold declare at h
    cases hvalid : first.validate with
    | error e =>
      rw [hvalid] at h
      cases h
    | ok u =>
      rw [hvalid] at h
      change (if _ then _ else _) = _ at h
      by_cases hdup : (r.runners first.platform).isSome = true
      · rw [if_pos hdup] at h
        cases h
      · rw [if_neg hdup] at h
        obtain ⟨hproviders, hkept, hall, honly⟩ := ih h
        have hnone : r.runners first.platform = none := by simpa using hdup
        refine ⟨hproviders, fun p runner hp => hkept p runner ?_, fun runner hmem => ?_,
          fun p runner hp => ?_⟩
        · show (if p = first.platform then some first else r.runners p) = some runner
          rw [if_neg (fun he => by rw [he, hnone] at hp; cases hp), hp]
        · rcases List.mem_cons.mp hmem with rfl | hmem
          · exact ⟨hvalid, hkept _ _ (if_pos rfl)⟩
          · exact hall runner hmem
        · rcases honly p runner hp with hold | hmem
          · change (if p = first.platform then some first else r.runners p) = some runner at hold
            by_cases hpf : p = first.platform
            · rw [if_pos hpf] at hold
              cases hold
              exact .inr List.mem_cons_self
            · rw [if_neg hpf] at hold
              exact .inl hold
          · exact .inr (List.mem_cons_of_mem first hmem)

/-- Providers are installed for the addresses listed and no others. -/
theorem install_spec {addresses : List (Platform × SocketAddr)} (h : install addresses r = .ok r') :
    r'.runners = r.runners ∧ ∀ p provider, r'.providers p = some provider →
      r.providers p = some provider ∨ (p, provider.address) ∈ addresses := by
  induction addresses generalizing r with
  | nil =>
    cases h
    exact ⟨rfl, fun _ _ h => .inl h⟩
  | cons first rest ih =>
    obtain ⟨platform, address⟩ := first
    unfold install at h
    by_cases hdup : (r.providers platform).isSome = true
    · rw [if_pos hdup] at h
      cases h
    · rw [if_neg hdup] at h
      obtain ⟨hrunners, honly⟩ := ih h
      refine ⟨hrunners, fun p provider hp => ?_⟩
      rcases honly p provider hp with hold | hmem
      · change (if p = platform then _ else r.providers p) = some provider at hold
        by_cases hpp : p = platform
        · rw [if_pos hpp] at hold
          cases hold
          exact .inr (by rw [hpp]; exact List.mem_cons_self)
        · rw [if_neg hpp] at hold
          exact .inl hold
      · exact .inr (List.mem_cons_of_mem _ hmem)

/-- **A provider posts to the loopback address of a declaration of its platform.** -/
theorem fromRunners_loopback (h : fromRunners runners = .ok r) {p : Platform}
    {provider : TcpRunnerProvider} (hp : r.providers p = some provider) :
    ∃ runner ∈ runners, runner.platform = p ∧ r.runners p = some runner ∧
      runner.loopbackTcpAddress = some provider.address := by
  unfold fromRunners at h
  cases hdeclare : declare runners new with
  | error e =>
    rw [hdeclare] at h
    cases h
  | ok declared =>
    rw [hdeclare] at h
    obtain ⟨hnew, -, hall, honly⟩ := declare_spec hdeclare
    obtain ⟨hrunners, hinstalled⟩ := install_spec h
    rcases hinstalled p provider hp with hold | hmem
    · rw [hnew] at hold
      cases hold
    · obtain ⟨runner, hrunner, haddress⟩ := List.mem_filterMap.mp hmem
      obtain ⟨q, -, hq⟩ := List.mem_filterMap.mp hrunner
      rcases honly q runner hq with hold | hdeclared
      · cases hold
      obtain ⟨hvalid, hfind⟩ := hall runner hdeclared
      obtain ⟨platform, transport⟩ := runner
      cases transport with
      | unixSocket path => cases haddress
      | namedPipe name => cases haddress
      | tcp address =>
        cases haddress
        refine ⟨_, hdeclared, rfl, by rw [hrunners]; exact hfind, ?_⟩
        change (if provider.address.isLoopback = true then _ else _) = _ at hvalid
        show (if provider.address.isLoopback = true then some provider.address else none) = _
        by_cases hloop : provider.address.isLoopback = true
        · rw [if_pos hloop]
        · rw [if_neg hloop] at hvalid
          cases hvalid

/-- What is declared is checked, and kept. -/
theorem fromRunners_declared (h : fromRunners runners = .ok r) {runner : ProviderRunner}
    (hmem : runner ∈ runners) :
    runner.validate = .ok () ∧ r.runners runner.platform = some runner := by
  unfold fromRunners at h
  cases hdeclare : declare runners new with
  | error e =>
    rw [hdeclare] at h
    cases h
  | ok declared =>
    rw [hdeclare] at h
    rw [(install_spec h).1]
    exact (declare_spec hdeclare).2.2.1 runner hmem

/-- A declaration without a loopback address gets no provider. -/
theorem fromRunners_none (h : fromRunners runners = .ok r) {runner : ProviderRunner}
    (hmem : runner ∈ runners) (hremote : runner.loopbackTcpAddress = none) :
    r.providers runner.platform = none := by
  cases hp : r.providers runner.platform with
  | none => rfl
  | some provider =>
    obtain ⟨other, -, -, hother, haddress⟩ := fromRunners_loopback h hp
    rw [(fromRunners_declared h hmem).2] at hother
    cases hother
    rw [hremote] at haddress
    cases haddress

end RunnerRegistry

/-! ## 2. A dispatch without a provider -/

section NoProvider
variable {registry : ProviderRegistry} {request : PublishRequest} {p : Platform}

/-- Only installed providers are called. -/
theorem dispatch_installed {call : ProviderCall} (h : call ∈ (registry.dispatch p request).1) :
    (registry.providers call.platform).isSome = true := by
  rw [dispatch_calls h]
  unfold ProviderRegistry.dispatch at h
  split at h
  · cases h
  split at h
  · cases h
  split at h
  · cases h
  rename_i hprovider
  show (registry.providers p).isSome = true
  rw [hprovider]
  rfl

theorem dispatchTargets_installed {call : ProviderCall} (targets : List Platform)
    (report : ProviderDispatchReport)
    (h : call ∈ (registry.dispatchTargets request targets report).1) :
    (registry.providers call.platform).isSome = true := by
  induction targets generalizing report with
  | nil => cases h
  | cons q rest ih =>
    unfold ProviderRegistry.dispatchTargets at h
    rcases List.mem_append.mp h with h | h
    · exact dispatch_installed h
    · exact ih _ h

/-- Without a provider the outcome is no queued one. -/
theorem dispatch_refused (h : registry.providers p = none) {outcome : DispatchOutcome}
    (ho : (registry.dispatch p request).2 = .ok outcome) : outcome.isQueued = false := by
  unfold ProviderRegistry.dispatch at ho
  rw [h] at ho
  split at ho
  · cases ho
  split at ho
  · cases ho
  · cases ho
    rfl

theorem dispatchTargets_refused (h : registry.providers p = none) (targets : List Platform)
    (report : ProviderDispatchReport) (hreport : (report.outcomes p).all (!·.isQueued) = true) :
    ((registry.dispatchTargets request targets report).2.outcomes p).all (!·.isQueued) = true := by
  induction targets generalizing report with
  | nil => exact hreport
  | cons q rest ih =>
    unfold ProviderRegistry.dispatchTargets
    refine ih _ ?_
    show Option.all _ (if p = q then _ else report.outcomes p) = true
    by_cases hpq : p = q
    · subst hpq
      rw [if_pos rfl, Option.all_some]
      split
      · rename_i ho
        rw [dispatch_refused h ho]
        rfl
      · rfl
    · rw [if_neg hpq]
      exact hreport

end NoProvider

/-! ## 3. The law of an adapter -/

/-- An adapter for an endpoint that is `local` or not: whatever it is replied, it posts to
    loopback addresses only, and for an endpoint that is not local it posts nothing and answers
    with an error or a refusal. -/
def LoopbackOnly {α : Type} (isLocal : Prop) (refusal : α → Prop) (x : Client α) : Prop :=
  ∀ es answer, x.Answers es answer →
    (∀ c ∈ es, c.call.address.isLoopback = true) ∧
      (¬ isLocal → es = [] ∧ ∀ a, answer = .ok a → refusal a)

/-- A publication through a registry built from declarations: the providers called, what they
    posted, and the outcomes. An error leaves no outcome. -/
structure Publication where
  calls : List ProviderCall
  posts : List Post
  outcomes : Platform → Option DispatchOutcome

/-- `ProviderRegistry::from_runners`, then `dispatch` for a platform or `dispatch_all`. -/
def publishWith (reply : Post → PostReply) (runners : List ProviderRunner)
    (platform : Option Platform) (request : PublishRequest) : Publication :=
  match RunnerRegistry.fromRunners runners with
  | .error _ => ⟨[], [], fun _ => none⟩
  | .ok r =>
    match platform with
    | some platform =>
      let (calls, outcome) := (r.registry reply).dispatch platform request
      ⟨calls, r.posts reply calls, fun p => if p = platform then outcome.toOption else none⟩
    | none =>
      let (calls, report) := (r.registry reply).dispatchAll request
      ⟨calls, r.posts reply calls, fun p => report.toOption.bind (·.outcomes p)⟩

/-- The law of a publication: loopback posts only; a remote address ends it before it starts, and
    a declaration without a loopback address is not called and has no queued outcome. -/
structure Publication.LoopbackOnly (runners : List ProviderRunner) (p : Publication) : Prop where
  posts : ∀ post ∈ p.posts, post.address.isLoopback = true
  remote : ∀ runner ∈ runners, ∀ address, runner.transport = .tcp address →
    address.isLoopback = false → p.posts = [] ∧ ∀ platform, p.outcomes platform = none
  refused : ∀ runner ∈ runners, runner.loopbackTcpAddress = none →
    (∀ call ∈ p.calls, call.platform ≠ runner.platform) ∧
      (p.outcomes runner.platform).all (!·.isQueued) = true

/-- One use of a client adapter. -/
inductive ClientCall where
  | publish (runners : List ProviderRunner) (platform : Option Platform) (request : PublishRequest)
  | manualLogin (runner : ProviderRunner)
  | accountReadiness (runner : ProviderRunner)
  | reviewStatus (runner : ProviderRunner) (titleQuery : String)
  | terminalQr (runner : ProviderRunner)
  | refreshTerminalQr (runner : ProviderRunner) (token : String)
  | cancelTerminalQr (runner : ProviderRunner) (token : String)
  | article (runner : ArticleRunner) (request : PublishArticleRequest)

/-- The answers of the probes that are refusals. -/
def ManualLoginOutcome.refusal (o : ManualLoginOutcome) : Prop := o = .unavailable ∨ o = .rejected

def AccountReadiness.refusal (o : AccountReadiness) : Prop := o = .unavailable ∨ o = .rejected

def ReviewStatus.refusal (o : ReviewStatus) : Prop := o = .unavailable ∨ o = .rejected

def TerminalQrLoginOutcome.refusal (o : TerminalQrLoginOutcome) : Prop :=
  o = .unavailable ∨ o = .rejected

def ArticleDispatchOutcome.refusal : ArticleDispatchOutcome → Prop
  | .queued _ => False
  | .unavailable _ | .rejected _ _ => True

namespace ClientCall

/-- What is said of every adapter. -/
def Law : ClientCall → Prop
  | publish runners platform request =>
    ∀ reply, (publishWith reply runners platform request).LoopbackOnly runners
  | manualLogin runner => LoopbackOnly (runner.loopbackTcpAddress.isSome = true)
      ManualLoginOutcome.refusal runner.requestManualLoginWith
  | accountReadiness runner => LoopbackOnly (runner.loopbackTcpAddress.isSome = true)
      AccountReadiness.refusal runner.accountReadinessWith
  | reviewStatus runner titleQuery => LoopbackOnly (runner.loopbackTcpAddress.isSome = true)
      ReviewStatus.refusal (runner.fanqieReviewStatusWith titleQuery)
  | terminalQr runner => LoopbackOnly (runner.loopbackTcpAddress.isSome = true)
      TerminalQrLoginOutcome.refusal runner.requestTerminalQrLoginWith
  | refreshTerminalQr runner token => LoopbackOnly (runner.loopbackTcpAddress.isSome = true)
      TerminalQrLoginOutcome.refusal (runner.refreshTerminalQrLoginWith token)
  | cancelTerminalQr runner token => LoopbackOnly (runner.loopbackTcpAddress.isSome = true)
      TerminalQrLoginOutcome.refusal (runner.cancelTerminalQrLoginWith token)
  | article runner request => LoopbackOnly (runner.address.isLoopback = true)
      ArticleDispatchOutcome.refusal (runner.dispatchWith request)

/-- An article comes to the post of a remote address if it is valid, without a schedule, and can
    be serialised. -/
def Guarded : ClientCall → Prop
  | article runner request => runner.address.isLoopback = true ∨ request.validate ≠ .ok () ∨
      request.scheduledAt.isSome = true ∨ ∃ e, request.runnerSafe.toJson = .error e
  | _ => True

end ClientCall

/-! ## 4. Which calls keep it -/

section Law
variable {α : Type} {isLocal : Prop} {refusal : α → Prop}

theorem loopbackOnly_pure {a : α} (h : refusal a) :
    LoopbackOnly isLocal refusal (pure a : Client α) := by
  intro es answer hanswer
  obtain ⟨rfl, rfl⟩ := Talk.answers_pure.mp hanswer
  refine ⟨fun c hc => absurd hc List.not_mem_nil, fun _ => ⟨rfl, ?_⟩⟩
  intro b hb
  cases hb
  exact h

theorem loopbackOnly_fail (e : DomainError) :
    LoopbackOnly isLocal refusal (Talk.fail e : Client α) := by
  intro es answer hanswer
  obtain ⟨rfl, rfl⟩ := Talk.answers_fail.mp hanswer
  exact ⟨fun c hc => absurd hc List.not_mem_nil, fun _ => ⟨rfl, fun b hb => by cases hb⟩⟩

/-- Loopback posts of a local endpoint. -/
theorem loopbackOnly_local {x : Client α} (hlocal : isLocal)
    (h : x.Only fun post => post.address.isLoopback = true) : LoopbackOnly isLocal refusal x :=
  fun _ _ hx => ⟨h.answers hx, fun hremote => absurd hlocal hremote⟩

theorem manualLogin_law (runner : ProviderRunner) :
    LoopbackOnly (runner.loopbackTcpAddress.isSome = true) ManualLoginOutcome.refusal
      runner.requestManualLoginWith := by
  unfold ProviderRunner.requestManualLoginWith
  cases haddress : runner.loopbackTcpAddress with
  | none => exact loopbackOnly_pure (.inl rfl)
  | some address =>
    exact loopbackOnly_local rfl (exchange_only (ProviderRunner.loopback_of_address haddress))

theorem accountReadiness_law (runner : ProviderRunner) :
    LoopbackOnly (runner.loopbackTcpAddress.isSome = true) AccountReadiness.refusal
      runner.accountReadinessWith := by
  unfold ProviderRunner.accountReadinessWith
  cases haddress : runner.loopbackTcpAddress with
  | none => exact loopbackOnly_pure (.inl rfl)
  | some address =>
    exact loopbackOnly_local rfl (exchange_only (ProviderRunner.loopback_of_address haddress))

theorem reviewStatus_law (runner : ProviderRunner) (titleQuery : String) :
    LoopbackOnly (runner.loopbackTcpAddress.isSome = true) ReviewStatus.refusal
      (runner.fanqieReviewStatusWith titleQuery) := by
  unfold ProviderRunner.fanqieReviewStatusWith
  dsimp only
  split
  · exact loopbackOnly_pure (.inr rfl)
  cases haddress : runner.loopbackTcpAddress with
  | none => exact loopbackOnly_pure (.inl rfl)
  | some address =>
    exact loopbackOnly_local rfl (exchange_only (ProviderRunner.loopback_of_address haddress))

/-- The requests about terminal QR logins share their transport. -/
theorem terminalQrLoginRequest_law (runner : ProviderRunner) (path : String) (payload : Json) :
    LoopbackOnly (runner.loopbackTcpAddress.isSome = true) TerminalQrLoginOutcome.refusal
      (runner.terminalQrLoginRequestWith path payload) := by
  unfold ProviderRunner.terminalQrLoginRequestWith
  cases haddress : runner.loopbackTcpAddress with
  | none => exact loopbackOnly_pure (.inl rfl)
  | some address =>
    exact loopbackOnly_local rfl (exchange_only (ProviderRunner.loopback_of_address haddress))

theorem terminalQr_law (runner : ProviderRunner) :
    LoopbackOnly (runner.loopbackTcpAddress.isSome = true) TerminalQrLoginOutcome.refusal
      runner.requestTerminalQrLoginWith := by
  unfold ProviderRunner.requestTerminalQrLoginWith
  split
  · exact terminalQrLoginRequest_law runner _ _
  · exact loopbackOnly_pure (.inr rfl)

theorem terminalQrAttempt_law (runner : ProviderRunner) (path token : String) :
    LoopbackOnly (runner.loopbackTcpAddress.isSome = true) TerminalQrLoginOutcome.refusal
      (runner.terminalQrAttemptWith path token) := by
  unfold ProviderRunner.terminalQrAttemptWith
  dsimp only
  split
  · exact terminalQrLoginRequest_law runner _ _
  · exact loopbackOnly_pure (.inr rfl)

/-- Whatever was called, its provider posts to a loopback address. -/
theorem posts_loopback {runners : List ProviderRunner} {r : RunnerRegistry}
    (hfrom : RunnerRegistry.fromRunners runners = .ok r) {reply : Post → PostReply}
    {calls : List ProviderCall} {post : Post} (hpost : post ∈ r.posts reply calls) :
    post.address.isLoopback = true := by
  obtain ⟨call, -, hpost⟩ := List.mem_flatMap.mp hpost
  cases hprovider : r.providers call.platform with
  | none =>
    rw [hprovider] at hpost
    exact absurd hpost List.not_mem_nil
  | some provider =>
    rw [hprovider] at hpost
    obtain ⟨runner, -, -, -, haddress⟩ := RunnerRegistry.fromRunners_loopback hfrom hprovider
    have hloop := ProviderRunner.loopback_of_address haddress
    have honly : (provider.enqueueWith call.request).Only
        fun post => post.address.isLoopback = true :=
      (Talk.only_lift _).bind fun _ => exchange_only hloop
    exact Talk.only_run honly reply post hpost

/-- A declaration of a remote address is refused, and with it all declarations. -/
theorem fromRunners_local {runners : List ProviderRunner} {r : RunnerRegistry}
    (hfrom : RunnerRegistry.fromRunners runners = .ok r) {runner : ProviderRunner}
    (hmem : runner ∈ runners) {address : SocketAddr} (htcp : runner.transport = .tcp address) :
    address.isLoopback = true := by
  have hvalid := (RunnerRegistry.fromRunners_declared hfrom hmem).1
  unfold ProviderRunner.validate at hvalid
  rw [htcp] at hvalid
  change (if address.isLoopback = true then _ else _) = _ at hvalid
  by_contra hremote
  rw [if_neg hremote] at hvalid
  cases hvalid

/-- A declaration without a loopback address installs no provider. -/
theorem registry_none {runners : List ProviderRunner} {r : RunnerRegistry}
    (hfrom : RunnerRegistry.fromRunners runners = .ok r) (reply : Post → PostReply)
    {runner : ProviderRunner} (hmem : runner ∈ runners)
    (haddress : runner.loopbackTcpAddress = none) :
    (r.registry reply).providers runner.platform = none := by
  show (r.providers runner.platform).map _ = none
  rw [RunnerRegistry.fromRunners_none hfrom hmem haddress, Option.map_none]

/-- **Publications keep the law, for any declarations.** -/
theorem publish_law (runners : List ProviderRunner) (platform : Option Platform)
    (request : PublishRequest) (reply : Post → PostReply) :
    (publishWith reply runners platform request).LoopbackOnly runners := by
  unfold publishWith
  cases hfrom : RunnerRegistry.fromRunners runners with
  | error e =>
    exact ⟨fun _ h => absurd h List.not_mem_nil, fun _ _ _ _ _ => ⟨rfl, fun _ => rfl⟩,
      fun _ _ _ => ⟨fun _ h => absurd h List.not_mem_nil, rfl⟩⟩
  | ok r =>
    have hremote : ∀ runner ∈ runners, ∀ address, runner.transport = .tcp address →
        address.isLoopback = false → False := by
      intro runner hmem address htcp hloop
      rw [fromRunners_local hfrom hmem htcp] at hloop
      cases hloop
    cases platform with
    | some target =>
      refine ⟨fun _ => posts_loopback hfrom, fun runner hmem address htcp hloop =>
        (hremote runner hmem address htcp hloop).elim, fun runner hmem haddress => ?_⟩
      have hprovider := registry_none hfrom reply hmem haddress
      refine ⟨fun call hcall he => ?_, ?_⟩
      · have hinstalled := dispatch_installed hcall
        rw [he, hprovider] at hinstalled
        cases hinstalled
      · show Option.all _ (if runner.platform = target then _ else none) = true
        by_cases htarget : runner.platform = target
        · rw [if_pos htarget]
          rw [htarget] at hprovider
          cases hresult : ((r.registry reply).dispatch target request).2 with
          | error e => rfl
          | ok outcome =>
            show (!outcome.isQueued) = true
            rw [dispatch_refused hprovider hresult]
            rfl
        · rw [if_neg htarget]
          rfl
    | none =>
      refine ⟨fun _ => posts_loopback hfrom, fun runner hmem address htcp hloop =>
        (hremote runner hmem address htcp hloop).elim, fun runner hmem haddress => ?_⟩
      have hprovider := registry_none hfrom reply hmem haddress
      show (∀ call ∈ ((r.registry reply).dispatchAll request).1, _) ∧
        (((r.registry reply).dispatchAll request).2.toOption.bind
          (·.outcomes runner.platform)).all (!·.isQueued) = true
      unfold ProviderRegistry.dispatchAll
      split
      · exact ⟨fun _ h => absurd h List.not_mem_nil, rfl⟩
      · refine ⟨fun call hcall he => ?_, dispatchTargets_refused hprovider _ _ rfl⟩
        have hinstalled := dispatchTargets_installed _ _ hcall
        rw [he, hprovider] at hinstalled
        cases hinstalled

/-- An article for a local runner goes there, if anywhere. -/
theorem article_local {runner : ArticleRunner} (request : PublishArticleRequest)
    (h : runner.address.isLoopback = true) :
    LoopbackOnly (runner.address.isLoopback = true) ArticleDispatchOutcome.refusal
      (runner.dispatchWith request) := by
  unfold ArticleRunner.dispatchWith
  refine loopbackOnly_local h ((Talk.only_lift _).bind fun _ => ?_)
  by_cases hscheduled : request.scheduledAt.isSome = true
  · rw [if_pos hscheduled]
    exact Talk.only_pure _
  · rw [if_neg hscheduled]
    -- Which platform it is for does not matter.
    generalize request.articlePlatform = platform
    exact (Talk.only_lift _).bind fun _ => (Talk.only_lift _).bind fun _ => exchange_only h

/-- An article that does not come to the post is refused, wherever it was to go. -/
theorem article_refused (runner : ArticleRunner) {request : PublishArticleRequest}
    (h : request.validate ≠ .ok () ∨ request.scheduledAt.isSome = true ∨
      ∃ e, request.runnerSafe.toJson = .error e) :
    LoopbackOnly (runner.address.isLoopback = true) ArticleDispatchOutcome.refusal
      (runner.dispatchWith request) := by
  unfold ArticleRunner.dispatchWith
  cases hvalid : request.validate with
  | error e => exact loopbackOnly_fail e
  | ok u =>
    rw [hvalid] at h
    rcases h with h | hscheduled | ⟨e, hjson⟩
    · exact absurd rfl h
    · show LoopbackOnly _ _ (if _ then _ else _)
      rw [if_pos hscheduled]
      exact loopbackOnly_pure trivial
    · show LoopbackOnly _ _ (if _ then _ else _)
      split
      · exact loopbackOnly_pure trivial
      cases hplatform : request.articlePlatform with
      | error e => exact loopbackOnly_fail e
      | ok platform =>
        have hpayload : ArticleRunnerRequest.toJson
            ⟨articleRunnerProtocolVersion, request.runnerSafe⟩ = .error e := by
          unfold ArticleRunnerRequest.toJson
          rw [hjson]
          rfl
        rw [hpayload]
        exact loopbackOnly_fail e

/-- An exchange begins with its post. -/
theorem exchange_posted {β : Type} {post : Post} {accepts : ReplyBody → Bool} {dec : Decoder α}
    {into : α → Option β} {refused : β} {reply : Post → PostReply} :
    post ∈ ((exchange post accepts dec into refused).run.run reply).1 := List.mem_cons_self

/-- **Any other article is posted, to the address the runner has.** -/
theorem remote_article_posted (runner : ArticleRunner) {request : PublishArticleRequest}
    (h : ¬ (request.validate ≠ .ok () ∨ request.scheduledAt.isSome = true ∨
      ∃ e, request.runnerSafe.toJson = .error e)) (reply : Post → PostReply) :
    ∃ post ∈ ((runner.dispatchWith request).run.run reply).1, post.address = runner.address := by
  rw [not_or, not_or, not_not] at h
  obtain ⟨hvalid, hscheduled, hjson⟩ := h
  obtain ⟨-, platform, hplatform⟩ := PublishArticleRequest.validate_ok hvalid
  cases hbody : request.runnerSafe.toJson with
  | error e => exact absurd ⟨e, hbody⟩ hjson
  | ok body =>
    have hpayload : ArticleRunnerRequest.toJson
        ⟨articleRunnerProtocolVersion, request.runnerSafe⟩ =
          .ok (.object [("version", .number articleRunnerProtocolVersion), ("request", body)]) := by
      unfold ArticleRunnerRequest.toJson
      rw [hbody]
      rfl
    unfold ArticleRunner.dispatchWith
    rw [hvalid, hplatform, hpayload, if_neg hscheduled]
    exact ⟨_, exchange_posted, rfl⟩

/-- An article keeps the law unless it comes to the post of a remote address. -/
theorem article_law_iff (runner : ArticleRunner) (request : PublishArticleRequest) :
    LoopbackOnly (runner.address.isLoopback = true) ArticleDispatchOutcome.refusal
      (runner.dispatchWith request) ↔ (ClientCall.article runner request).Guarded := by
  constructor
  · intro h
    by_contra hguarded
    rw [ClientCall.Guarded, not_or] at hguarded
    obtain ⟨hremote, hposted⟩ := hguarded
    -- The post is made whatever it is replied to.
    obtain ⟨post, hpost, haddress⟩ := remote_article_posted runner hposted
      fun _ => .error ()
    have hloop := (h _ _ (Talk.answers_run (fun _ => .error ()) _)).1 _
      (List.mem_map_of_mem hpost)
    rw [haddress] at hloop
    exact hremote hloop
  · intro h
    obtain hlocal | hrefused := h
    · exact article_local request hlocal
    · exact article_refused runner hrefused

/-- **Exactly the calls that keep the law**: every use of an adapter for video runners, and every
    article but those that come to the post of a remote address. -/
theorem loopback_law_exact (call : ClientCall) : call.Law ↔ call.Guarded := by
  cases call with
  | publish runners platform request =>
    exact iff_of_true (publish_law runners platform request) trivial
  | manualLogin runner => exact iff_of_true (manualLogin_law runner) trivial
  | accountReadiness runner => exact iff_of_true (accountReadiness_law runner) trivial
  | reviewStatus runner titleQuery =>
    exact iff_of_true (reviewStatus_law runner titleQuery) trivial
  | terminalQr runner => exact iff_of_true (terminalQr_law runner) trivial
  | refreshTerminalQr runner token =>
    exact iff_of_true (terminalQrAttempt_law runner _ token) trivial
  | cancelTerminalQr runner token =>
    exact iff_of_true (terminalQrAttempt_law runner _ token) trivial
  | article runner request => exact article_law_iff runner request

/-- An article for at once. -/
def unscheduledArticle : PublishArticleRequest := { sampleArticle with scheduledAt := none }

/-- A runner that was deserialized, with an address that is not local. -/
def remoteRunner : ArticleRunner := ⟨.v4 93 184 216 34 80⟩

theorem loopback_law_broken : ¬ (ClientCall.article remoteRunner unscheduledArticle).Law := by
  intro h
  rcases (article_law_iff remoteRunner unscheduledArticle).mp h with
    hlocal | hinvalid | hscheduled | ⟨e, hjson⟩
  · exact absurd hlocal (by decide)
  · exact hinvalid rfl
  · exact absurd hscheduled (by decide)
  · have hserialised : unscheduledArticle.runnerSafe.toJson.toOption.isSome = true := rfl
    rw [hjson] at hserialised
    cases hserialised

end Law

end MatriXpost
