/-
  File:      MatriXpost/WebDriver/Sessions.lean
  Subject:   SESSION CLEANUP: every flow closes the session it opened, and opens no other.

  All flows run their phases inside `withSession`, so one lemma about it (`withSession_law`) says
  what each of them requests: nothing after a session request that gave no id, and otherwise the
  phases, then the DELETE. What is left for a flow is that its phases address the session and
  delete nothing.

  * `Command.Inside`: a request under `/session/{id}/`, and no DELETE;
  * `SessionLaw`: the law of a run;
  * **`webdriver_session_cleanup`**: the five flows keep it, for every transport.
-/
import MatriXpost.WebDriver.Publish

namespace MatriXpost

namespace WebDriver

/-! ## 1. Requests inside a session -/

/-- A request that addresses something of this session, and does not delete it. -/
def Command.Inside (session : String) (c : Command) : Prop :=
  (∃ rest, c.path = "/session/" ++ session ++ "/" ++ rest) ∧ c.method ≠ "DELETE"

section Inside
variable {session : String}

theorem post_ne_delete : "POST" ≠ "DELETE" := by decide

/-- The last part of a path, behind the session. -/
theorem path_split (name : String) : "/session/" ++ session ++ ("/" ++ name) =
    "/session/" ++ session ++ "/" ++ name := (String.append_assoc ..).symm

theorem inside_findElement (selector : String) :
    (Command.findElement session selector).Inside session :=
  ⟨⟨"element", path_split "element"⟩, post_ne_delete⟩

theorem inside_navigate (url : String) : (Command.navigate session url).Inside session :=
  ⟨⟨"url", path_split "url"⟩, post_ne_delete⟩

theorem inside_sendKeys (element text : String) :
    (Command.sendKeys session element text).Inside session := by
  refine ⟨⟨"element/" ++ element ++ "/value", ?_⟩, post_ne_delete⟩
  have helement : "/element/" = "/" ++ "element/" := by decide
  show "/session/" ++ session ++ "/element/" ++ element ++ "/value" = _
  rw [helement]
  simp only [String.append_assoc]

theorem inside_click (element : String) : (Command.click session element).Inside session := by
  refine ⟨⟨"element/" ++ element ++ "/click", ?_⟩, post_ne_delete⟩
  have helement : "/element/" = "/" ++ "element/" := by decide
  show "/session/" ++ session ++ "/element/" ++ element ++ "/click" = _
  rw [helement]
  simp only [String.append_assoc]

theorem inside_execute (script : Script) (args : List ScriptArg) :
    (Command.execute session script args).Inside session :=
  ⟨⟨"execute/sync", path_split "execute/sync"⟩, post_ne_delete⟩

theorem permits_inside (selectors : List String) :
    Permits (Command.Inside session) session selectors :=
  ⟨inside_navigate, inside_sendKeys, fun selector _ => inside_findElement selector,
    fun script args _ => inside_execute script args⟩

end Inside

/-! ## 2. The law of a run -/

/-- The session a reply gives. -/
def sessionOf (reply : Reply) : Option String := (valueOf reply).toOption.bind sessionId

/-- A session request that gave no id, and nothing after it; or the requests inside the session
    and then its DELETE. The run finishes if its phases did and the DELETE succeeded. -/
def SessionLaw {β : Type} (phases : String → Flow β) (es : List Exchange) (finished : Prop) :
    Prop :=
  ∃ debugger reply rest, es = ⟨.newSession debugger, reply⟩ :: rest ∧
    match sessionOf reply with
    | none => rest = [] ∧ ¬ finished
    | some s => ∃ middle closed, rest = middle ++ [⟨.deleteSession s, closed⟩] ∧
        (∀ c ∈ middle, c.call.Inside s) ∧
        (finished ↔ (∃ b, (phases s).Answers middle (.ok b)) ∧ ∃ v, valueOf closed = .ok v)

/-- The law behind the checks of a flow: one that fails them makes no request. -/
inductive FlowLaw {γ β : Type} (checks : Except String γ) (phases : γ → String → Flow β)
    (es : List Exchange) (finished : Prop) : Prop
  | refused {e : String} : checks = .error e → es = [] → ¬ finished →
      FlowLaw checks phases es finished
  | opened {target : γ} : checks = .ok target → SessionLaw (phases target) es finished →
      FlowLaw checks phases es finished

section Law
variable {β : Type} {phases : String → Flow β} {es : List Exchange}

theorem request_answers {c : Command} {r : Except String Json} :
    (request c).Answers es r ↔ ∃ reply, es = [⟨c, reply⟩] ∧ r = valueOf reply := by
  unfold request
  rw [Talk.answers_bind]
  constructor
  · intro h
    obtain ⟨e, h, rfl⟩ | ⟨es₁, reply, es₂, rfl, h, h₂⟩ := h
    · obtain ⟨reply, -, hreply⟩ := Talk.answers_ask.mp h
      cases hreply
    · obtain ⟨reply', rfl, hreply⟩ := Talk.answers_ask.mp h
      cases hreply
      obtain ⟨rfl, rfl⟩ := Talk.answers_lift.mp h₂
      exact ⟨reply, rfl, rfl⟩
  · intro h
    obtain ⟨reply, rfl, rfl⟩ := h
    exact .inr ⟨[⟨c, reply⟩], reply, [], rfl, Talk.answers_ask.mpr ⟨reply, rfl, rfl⟩,
      Talk.answers_lift.mpr ⟨rfl, rfl⟩⟩

theorem done_answers {c : Command} {r : Except String Unit} :
    (done c).Answers es r ↔ ∃ reply, es = [⟨c, reply⟩] ∧ r = (valueOf reply).map fun _ => () := by
  unfold done
  rw [Talk.answers_bind]
  constructor
  · intro h
    obtain ⟨e, h, rfl⟩ | ⟨es₁, value, es₂, rfl, h, h₂⟩ := h
    · obtain ⟨reply, rfl, hvalue⟩ := request_answers.mp h
      exact ⟨reply, rfl, by rw [← hvalue]; rfl⟩
    · obtain ⟨reply, rfl, hvalue⟩ := request_answers.mp h
      obtain ⟨rfl, rfl⟩ := Talk.answers_pure.mp h₂
      exact ⟨reply, rfl, by rw [← hvalue]; rfl⟩
  · intro h
    obtain ⟨reply, rfl, rfl⟩ := h
    cases hvalue : valueOf reply with
    | error e => exact .inl ⟨e, request_answers.mpr ⟨reply, rfl, hvalue.symm⟩, rfl⟩
    | ok value =>
      exact .inr ⟨[⟨c, reply⟩], value, [], rfl, request_answers.mpr ⟨reply, rfl, hvalue.symm⟩,
        Talk.answers_pure.mpr ⟨rfl, rfl⟩⟩

/-- A session is one request, and the id in its reply. -/
theorem session_answers {debugger : String} {r : Except String String}
    (h : (session debugger).Answers es r) :
    ∃ reply, es = [⟨.newSession debugger, reply⟩] ∧ r.toOption = sessionOf reply := by
  unfold session at h
  rcases Talk.answers_bind.mp h with ⟨e, hrequest, rfl⟩ | ⟨es₁, value, es₂, rfl, hrequest, hrest⟩
  · obtain ⟨reply, rfl, hvalue⟩ := request_answers.mp hrequest
    refine ⟨reply, rfl, ?_⟩
    unfold sessionOf
    rw [← hvalue]
    rfl
  · obtain ⟨reply, rfl, hvalue⟩ := request_answers.mp hrequest
    have hsession : sessionOf reply = sessionId value := by
      unfold sessionOf
      rw [← hvalue]
      rfl
    cases hid : sessionId value with
    | some s =>
      rw [hid] at hrest hsession
      obtain ⟨rfl, rfl⟩ := Talk.answers_pure.mp hrest
      exact ⟨reply, rfl, hsession.symm⟩
    | none =>
      rw [hid] at hrest hsession
      obtain ⟨rfl, rfl⟩ := Talk.answers_fail.mp hrest
      exact ⟨reply, rfl, hsession.symm⟩

/-- **Inside `withSession` the law holds**, if the phases stay inside their session. -/
theorem withSession_law {debugger : String} {r : Except String β}
    (hinside : ∀ s, (phases s).Only (Command.Inside s))
    (h : (withSession debugger phases).Answers es r) : SessionLaw phases es (∃ b, r = .ok b) := by
  unfold withSession at h
  rcases Talk.answers_bind.mp h with ⟨e, hsession, rfl⟩ | ⟨es₁, s, es₂, rfl, hsession, hrest⟩
  · obtain ⟨reply, rfl, hreply⟩ := session_answers hsession
    refine ⟨debugger, reply, [], rfl, ?_⟩
    rw [← hreply]
    exact ⟨rfl, fun ⟨b, hb⟩ => by cases hb⟩
  · obtain ⟨reply, rfl, hreply⟩ := session_answers hsession
    refine ⟨debugger, reply, es₂, rfl, ?_⟩
    rw [← hreply]
    obtain ⟨middle, outcome, last, closed, rfl, hphases, hdelete, rfl⟩ :=
      Talk.answers_withCleanup.mp hrest
    obtain ⟨reply', rfl, rfl⟩ := done_answers.mp hdelete
    refine ⟨middle, reply', rfl, (hinside s).answers hphases, ?_, ?_⟩
    · intro h
      obtain ⟨b, hb⟩ := h
      cases outcome with
      | error e => cases hb
      | ok a =>
        refine ⟨⟨a, hphases⟩, ?_⟩
        cases hclosed : valueOf reply' with
        | ok v => exact ⟨v, rfl⟩
        | error e =>
          rw [hclosed] at hb
          cases hb
    · intro h
      obtain ⟨⟨b, hb⟩, v, hv⟩ := h
      obtain rfl : outcome = .ok b := Talk.answers_unique hphases hb
      rw [hv]
      exact ⟨b, rfl⟩

/-- What follows without a request keeps the end of a run an end. -/
theorem answers_map {ε α : Type} {x : Talk Command (fun _ => Reply) ε β} {answer : β → α}
    {r : Except ε α} (h : (x >>= fun b => pure (answer b)).Answers es r) :
    ∃ r', x.Answers es r' ∧ ((∃ a, r = .ok a) ↔ ∃ b, r' = .ok b) := by
  rcases Talk.answers_bind.mp h with ⟨e, hx, rfl⟩ | ⟨es₁, b, es₂, rfl, hx, hrest⟩
  · refine ⟨.error e, hx, ?_, ?_⟩ <;>
    · intro h
      obtain ⟨a, ha⟩ := h
      cases ha
  · obtain ⟨rfl, rfl⟩ := Talk.answers_pure.mp hrest
    refine ⟨.ok b, by rwa [List.append_nil], ?_, ?_⟩
    · exact fun _ => ⟨b, rfl⟩
    · exact fun _ => ⟨answer b, rfl⟩

/-- A flow that fails its checks makes no request, and otherwise goes on with what they gave. -/
theorem flow_law {γ ε α : Type} {checks : Except String γ} {phases : γ → String → Flow β}
    {f : String → ε} {rest : γ → Talk Command (fun _ => Reply) ε α} {r : Except ε α}
    (hrest : ∀ target r, (rest target).Answers es r →
      SessionLaw (phases target) es (∃ a, r = .ok a))
    (h : (Talk.lift (checks.mapError f) >>= rest).Answers es r) :
    FlowLaw checks phases es (∃ a, r = .ok a) := by
  rcases Talk.answers_lift_bind.mp h with ⟨e, hchecks, rfl, rfl⟩ | ⟨target, hchecks, hgo⟩
  · cases checks with
    | error text => exact .refused rfl rfl fun ⟨a, ha⟩ => by cases ha
    | ok target => cases hchecks
  · cases checks with
    | error text => cases hchecks
    | ok target' =>
      cases hchecks
      exact .opened rfl (hrest target r hgo)

end Law

/-! ## 3. The flows -/

section Flows
variable {session : String}

/-- Whatever a platform's final action is, it stays inside the session. -/
theorem finalAction_inside (p : PlatformProfile) (platform : Platform) (draft : Bool) :
    (finalAction p platform draft session).Only (Command.Inside session) := by
  have hclick : (click session (if draft then p.draft else p.submit)).Only
      (Command.Inside session) :=
    click_only (fun selector _ => inside_findElement selector) inside_click
  cases platform with
  | baijiahao =>
    exact (waitForState_only (actionState_only (inside_execute _ _))).bind fun _ =>
      (actionState_only (inside_execute _ _)).bind fun _ => Talk.only_lift _
  | toutiao =>
    have hvalue : ∀ script args,
        (toutiaoFooterValue session script args).Only (Command.Inside session) := by
      intro script args
      refine (request_only (inside_execute script args)).bind fun value => ?_
      cases value.asStr with
      | some state => exact Talk.only_pure _
      | none => exact Talk.only_fail _
    exact (waitForState_only (hvalue _ _)).bind fun _ =>
      (hvalue _ _).bind fun _ => Talk.only_lift _
  | kuaishou =>
    exact (waitForState_only (actionState_only (inside_execute _ _))).bind fun _ =>
      (actionState_only (inside_execute _ _)).bind fun _ => Talk.only_lift _
  | douyin => exact hclick
  | wechatChannels => exact hclick
  | bilibili => exact hclick
  | xiaohongshu => exact hclick
  | fanqieVideo => exact hclick

theorem waitForFanqieOneClickPublish_inside (lastState : String) (attempts : Nat) :
    (waitForFanqieOneClickPublish session lastState attempts).Only (Command.Inside session) := by
  induction attempts generalizing lastState with
  | zero => exact Talk.only_fail _
  | succ attempts ih =>
    refine (actionState_only (inside_execute _ _)).bind fun state => ?_
    by_cases hready : state = "ready"
    · rw [if_pos hready]
      exact (actionState_only (inside_execute _ _)).bind fun _ => Talk.only_lift _
    rw [if_neg hready]
    by_cases hwaiting : state = "disabled" ∨ state = "pending"
    · rw [if_pos hwaiting]
      exact ih state
    · rw [if_neg hwaiting]
      exact Talk.only_fail _

theorem publishAndAcknowledge_inside (attempts : Nat) (p : PlatformProfile) (platform : Platform)
    (draft : Bool) :
    (publishAndAcknowledge attempts p platform draft session).Only (Command.Inside session) := by
  unfold publishAndAcknowledge
  by_cases hfanqie : platform = .fanqieVideo
  · rw [if_pos hfanqie]
    exact (prepareFanqieVideo_only fun script args _ => inside_execute script args).bind fun _ =>
      (waitForFanqieOneClickPublish_inside _ _).bind fun _ =>
      ignored_only (waitForState_only (actionState_only (inside_execute _ _)))
  · rw [if_neg hfanqie]
    refine (successMarkerVisible_only (fun selector _ => inside_findElement selector)
      fun _ => inside_execute _ _).bind fun visible => ?_
    cases visible with
    | true => exact Talk.only_fail _
    | false =>
      exact (finalAction_inside p platform draft).bind fun _ =>
        waitForSuccessTransition_only (fun selector _ => inside_findElement selector)
          fun _ => inside_execute _ _

theorem videoPhases_inside (publisher : WebDriverPublisher) (platform : Platform)
    (request : PublishRequest) (target : PlatformProfile × String × Option String) :
    (videoPhases publisher platform request target session).Only (Command.Inside session) :=
  (metadata_only (permits_inside _)).bind fun _ => publishAndAcknowledge_inside _ _ _ _

theorem articlePhases_inside (publisher : WebDriverPublisher) (request : PublishArticleRequest)
    (body : String) :
    (articlePhases publisher request body session).Only (Command.Inside session) := by
  have hinput : ∀ selectors text, (input session selectors text).Only (Command.Inside session) :=
    fun _ _ => input_only (fun selector _ => inside_findElement selector)
      fun element => inside_sendKeys element _
  have hgiven : ∀ selectors value,
      (inputIfGiven session selectors value).Only (Command.Inside session) :=
    fun selectors _ => ifSome_only fun text _ => hinput selectors text
  have hwrite : (writeCodemirror session body).Only (Command.Inside session) := by
    refine (find_only fun selector _ => inside_findElement selector).bind fun element =>
      (request_only (inside_execute _ _)).bind fun value => ?_
    by_cases hwritten : value.asBoolean = some true
    · rw [if_pos hwritten]
      exact Talk.only_pure _
    · rw [if_neg hwritten]
      exact Talk.only_fail _
  have hclick : ∀ selectors, (click session selectors).Only (Command.Inside session) :=
    fun _ => click_only (fun selector _ => inside_findElement selector) inside_click
  refine (done_only (inside_navigate _)).bind fun _ => (hinput _ _).bind fun _ =>
    hwrite.bind fun _ => (hgiven _ _).bind fun _ => (hgiven _ _).bind fun _ =>
    (onlyFor_only (hinput _ _)).bind fun _ => (hgiven _ _).bind fun _ =>
    (successMarkerVisible_only (fun selector _ => inside_findElement selector)
      fun _ => inside_execute _ _).bind fun visible => ?_
  cases visible with
  | true => exact Talk.only_fail _
  | false =>
    exact (hclick _).bind fun _ => (hclick _).bind fun _ =>
      waitForSuccessTransition_only (fun selector _ => inside_findElement selector)
        fun _ => inside_execute _ _

theorem readinessPhases_inside (p : PlatformProfile) :
    (readinessPhases p session).Only (Command.Inside session) :=
  (done_only (inside_navigate _)).bind fun _ =>
    (findFirst_only fun selector _ => inside_findElement selector).bind fun _ => Talk.only_pure _

theorem reviewPhases_inside (titleQuery : String) :
    (reviewPhases titleQuery session).Only (Command.Inside session) := by
  refine (done_only (inside_navigate _)).bind fun _ =>
    Talk.Only.poll ((request_only (inside_execute _ _)).bind fun value => ?_) (Talk.only_pure _) _
  cases value.asStr with
  | none => exact Talk.only_pure _
  | some state =>
    dsimp only
    split
    · exact Talk.only_pure _
    · exact Talk.only_fail _

theorem mapError_id {γ : Type} (checks : Except String γ) : checks.mapError id = checks := by
  cases checks with
  | error e => rfl
  | ok target => rfl

theorem publish_law {publisher : WebDriverPublisher} {job : Nat} {platform : Platform}
    {request : PublishRequest} {es : List Exchange} {r : Except String String}
    (h : (publish publisher job platform request).Answers es r) :
    FlowLaw (publishTarget platform request) (videoPhases publisher platform request) es
      (∃ id, r = .ok id) := by
  unfold publish at h
  generalize publishTarget platform request = checks at h ⊢
  rw [← mapError_id checks] at h
  refine flow_law (fun target r hrest => ?_) h
  obtain ⟨r', hsession, hend⟩ := answers_map hrest
  rw [hend]
  exact withSession_law (fun s => videoPhases_inside publisher platform request target) hsession

theorem publishArticle_law {publisher : WebDriverPublisher} {host : ArticleHost} {job : Nat}
    {request : PublishArticleRequest} {es : List Exchange}
    {r : Except ArticleExecutionError String}
    (h : (publishArticle publisher host job request).Answers es r) :
    FlowLaw (articleTarget host request) (articlePhases publisher request) es
      (∃ id, r = .ok id) := by
  unfold publishArticle at h
  generalize articleTarget host request = checks at h ⊢
  refine flow_law (fun body r hrest => ?_) h
  obtain ⟨r', hmapped, hend⟩ := answers_map hrest
  obtain ⟨outcome, hsession, rfl⟩ := Talk.answers_mapError.mp hmapped
  have hoks : (∃ b, outcome.mapError ArticleExecutionError.attempted = .ok b) ↔
      ∃ b, outcome = .ok b := by
    cases outcome with
    | error e => exact ⟨fun ⟨b, hb⟩ => (by cases hb), fun ⟨b, hb⟩ => (by cases hb)⟩
    | ok b => exact ⟨fun _ => ⟨b, rfl⟩, fun _ => ⟨b, rfl⟩⟩
  rw [hend, hoks]
  exact withSession_law (fun s => articlePhases_inside publisher request body) hsession

theorem openManualLogin_law {publisher : WebDriverPublisher} {platform : Platform}
    {es : List Exchange} {r : Except String Unit}
    (h : (openManualLogin publisher platform).Answers es r) :
    FlowLaw (requireProfile platform) (fun p session => navigate session p.uploadUrl) es
      (∃ u, r = .ok u) := by
  unfold openManualLogin at h
  generalize requireProfile platform = checks at h ⊢
  rw [← mapError_id checks] at h
  exact flow_law (fun p r hrest => withSession_law (fun s => done_only (inside_navigate _)) hrest) h

theorem accountReadiness_law {publisher : WebDriverPublisher} {platform : Platform}
    {es : List Exchange} {r : Except String Bool}
    (h : (accountReadiness publisher platform).Answers es r) :
    FlowLaw (requireProfile platform) readinessPhases es (∃ ready, r = .ok ready) := by
  unfold accountReadiness at h
  generalize requireProfile platform = checks at h ⊢
  rw [← mapError_id checks] at h
  exact flow_law (fun p r hrest => withSession_law (fun s => readinessPhases_inside p) hrest) h

theorem reviewStatus_law {publisher : WebDriverPublisher} {titleQuery : String}
    {es : List Exchange} {r : Except String ReviewStatus}
    (h : (reviewStatus publisher titleQuery).Answers es r) :
    FlowLaw (reviewQuery titleQuery) reviewPhases es (∃ status, r = .ok status) := by
  unfold reviewStatus at h
  generalize reviewQuery titleQuery = checks at h ⊢
  rw [← mapError_id checks] at h
  exact flow_law (fun query r hrest => withSession_law (fun s => reviewPhases_inside query) hrest) h

end Flows

/-- **The law of all flows.**  Whatever the transport gives for each request: no session id, and
    nothing follows; a session id, and its DELETE is the last request, the only DELETE, and every
    request before it is inside the session. A flow returns `Ok` exactly if its phases did and the
    DELETE succeeded. -/
theorem webdriver_session_cleanup (publisher : WebDriverPublisher) (es : List Exchange) :
    (∀ job platform request r, (publish publisher job platform request).Answers es r →
        FlowLaw (publishTarget platform request) (videoPhases publisher platform request) es
          (∃ id, r = .ok id)) ∧
      (∀ host job request r, (publishArticle publisher host job request).Answers es r →
        FlowLaw (articleTarget host request) (articlePhases publisher request) es
          (∃ id, r = .ok id)) ∧
      (∀ platform r, (openManualLogin publisher platform).Answers es r →
        FlowLaw (requireProfile platform) (fun p session => navigate session p.uploadUrl) es
          (∃ u, r = .ok u)) ∧
      (∀ platform r, (accountReadiness publisher platform).Answers es r →
        FlowLaw (requireProfile platform) readinessPhases es (∃ ready, r = .ok ready)) ∧
      (∀ titleQuery r, (reviewStatus publisher titleQuery).Answers es r →
        FlowLaw (reviewQuery titleQuery) reviewPhases es (∃ status, r = .ok status)) :=
  ⟨fun _ _ _ _ h => publish_law h, fun _ _ _ _ h => publishArticle_law h,
    fun _ _ h => openManualLogin_law h, fun _ _ h => accountReadiness_law h,
    fun _ _ h => reviewStatus_law h⟩

/-- A runner whose acknowledgements are looked for once. -/
def samplePublisher : WebDriverPublisher := ⟨"127.0.0.1:9222", 1⟩

/-- A reply with this value. -/
def replyOf (value : Json) : Reply := .ok (.object [("value", value)])

/-- A transport that gives a session, and fails at everything else. -/
def failingTransport : Command → Reply
  | .newSession _ => replyOf (.object [("sessionId", .string "s")])
  | _ => .error "WebDriver request failed"

theorem webdriver_session_cleanup_sample :
    FlowLaw (requireProfile .douyin) readinessPhases
      [⟨.newSession "127.0.0.1:9222", failingTransport (.newSession "127.0.0.1:9222")⟩,
        ⟨.navigate "s"
            "https://creator.douyin.com/creator-micro/content/post/video?enter_from=publish_page",
          .error "WebDriver request failed"⟩,
        ⟨.deleteSession "s", .error "WebDriver request failed"⟩]
      (∃ ready, (.error "WebDriver request failed" : Except String Bool) = .ok ready) :=
  (webdriver_session_cleanup samplePublisher _).2.2.2.1 .douyin (.error "WebDriver request failed")
    (Talk.answers_run failingTransport (accountReadiness samplePublisher .douyin))

end WebDriver

end MatriXpost
