/-
  File:      MatriXpost/WebDriver/Attempted.lean
  Subject:   "NOT ATTEMPTED" IS TRUTHFUL FOR ARTICLES, from the publisher to the MCP result.

  Sources: `webdriver/article.rs`, the `publish_article` handler of `service.rs`,
  `runner/article.rs` and `article_dispatch_result`.

  The flag is written four times. `publishArticle_attempted` is about the publisher: it says "not
  attempted" exactly if it made no WebDriver request. `handlePublishArticle_attempted` carries
  this over to the response, `dispatchWith_attempted` says what the client takes for "not
  attempted": no post at all, or a response of the runner that says so, delivered whole.

  **`not_attempted_is_truthful`** puts them together.
-/
import MatriXpost.WebDriver.Sessions
import MatriXpost.Runner.Client
import MatriXpost.Dispatch.Classify
import MatriXpost.Queue.ArticleRun

namespace MatriXpost

namespace WebDriver

/-! ## 1. The handler of the runner -/

/-- What an article is published with, if the runner was started for it. -/
structure ArticleExecutor where
  publisher : WebDriverPublisher
  host : ArticleHost
  job : Nat

/-- The response to an outcome of the publisher. -/
def articleResponse (outcome : Except ArticleExecutionError String) : ArticleRunnerResponse :=
  match outcome with
  | .ok jobId =>
    if isBlank jobId = false then .queued articleRunnerProtocolVersion .juejin jobId true
    else .rejected articleRunnerProtocolVersion .juejin
      "runner completed without a valid job identifier" true
  | .error error =>
    .rejected articleRunnerProtocolVersion .juejin error.reason error.automationAttempted

/-- The requests the handler refuses before it looks for a publisher. -/
def refusesArticle (body : ArticleRunnerRequest) : Bool :=
  body.version ≠ articleRunnerProtocolVersion || body.request.validate.toOption.isNone ||
    body.request.hasAccountRouting || body.request.scheduledAt.isSome

/-- `publish_article` of the service: the status and the response. -/
def handlePublishArticle (executor : Option ArticleExecutor) (body : ArticleRunnerRequest) :
    Prog Command (fun _ => Reply) (Nat × ArticleRunnerResponse) :=
  if refusesArticle body then
    pure (400, .rejected articleRunnerProtocolVersion
      (body.request.articlePlatform.toOption.getD .juejin)
      "invalid version, Juejin article request, or unsupported article schedule" false)
  else
    match executor with
    | none =>
      pure (200, .unavailable articleRunnerProtocolVersion .juejin
        "browser debugger address is not configured; no browser session was started" false)
    | some executor => do
      let outcome ←
        (publishArticle executor.publisher executor.host executor.job body.request).run
      pure (200, articleResponse outcome)

/-- `automation_attempted` of a response. -/
def attemptedIn : ArticleRunnerResponse → Bool
  | .queued _ _ _ attempted | .unavailable _ _ _ attempted | .rejected _ _ _ attempted => attempted

/-! ## 2. The MCP result -/

/-- `article_dispatch_result`. -/
def articleDispatchResult : ArticleDispatchOutcome → PublicationResult
  | .queued _ => ⟨"queued", true, true, false, none, none,
      "local article runner completed its WebDriver workflow; remote publication is not confirmed"⟩
  | .unavailable _ => ⟨"unavailable", false, false, false, none, none,
      "article runner was unavailable; no remote publishing was attempted"⟩
  | .rejected _ automationAttempted => ⟨"rejected", false, automationAttempted, false, none, none,
      "article runner rejected the request; no remote publication success is claimed"⟩

/-! ## 3. Each layer -/

section Layers
variable {es : List Exchange}

/-- **The publisher's flag.**  An error says "not attempted" exactly if there was no request. -/
theorem publishArticle_attempted {publisher : WebDriverPublisher} {host : ArticleHost} {job : Nat}
    {request : PublishArticleRequest} {r : Except ArticleExecutionError String}
    (h : (publishArticle publisher host job request).Answers es r) :
    (∃ e, r = .error e ∧ e.automationAttempted = false) ↔ es = [] := by
  unfold publishArticle at h
  generalize articleTarget host request = checks at h
  rcases Talk.answers_lift_bind.mp h with ⟨e, hchecks, rfl, rfl⟩ | ⟨body, -, hrest⟩
  · cases checks with
    | error text =>
      cases hchecks
      exact iff_of_true ⟨_, rfl, rfl⟩ rfl
    | ok body => cases hchecks
  · -- From here on there is a session request, and every error says so.
    refine iff_of_false ?_ ?_
    · intro h
      obtain ⟨e, rfl, hflag⟩ := h
      rcases Talk.answers_bind.mp hrest with ⟨e', hmapped, he⟩ | ⟨_, id, _, -, -, hpure⟩
      · obtain ⟨outcome, -, hmap⟩ := Talk.answers_mapError.mp hmapped
        cases he
        cases outcome with
        | error text =>
          cases hmap
          cases hflag
        | ok u => cases hmap
      · obtain ⟨-, hpure⟩ := Talk.answers_pure.mp hpure
        cases hpure
    · intro hnil
      subst hnil
      obtain ⟨r', hmapped, -⟩ := answers_map hrest
      obtain ⟨outcome, hsession, -⟩ := Talk.answers_mapError.mp hmapped
      obtain ⟨debugger, reply, rest, hcons, -⟩ :=
        withSession_law (fun s => articlePhases_inside publisher request body) hsession
      cases hcons

/-- **The response's flag**, whoever reads it: "not attempted" only without any request. -/
theorem handlePublishArticle_attempted {executor : Option ArticleExecutor}
    {body : ArticleRunnerRequest} {status : Nat} {response : ArticleRunnerResponse}
    (h : (handlePublishArticle executor body).Answers es (status, response))
    (hflag : attemptedIn response = false) : es = [] := by
  unfold handlePublishArticle at h
  by_cases hrefused : refusesArticle body = true
  · rw [if_pos hrefused] at h
    exact (MatriXpost.answers_pure.mp h).1
  rw [if_neg hrefused] at h
  cases executor with
  | none => exact (MatriXpost.answers_pure.mp h).1
  | some executor =>
    obtain ⟨es₁, outcome, es₂, rfl, hrun, hpure⟩ := MatriXpost.answers_bind.mp h
    obtain ⟨rfl, hresponse⟩ := MatriXpost.answers_pure.mp hpure
    cases hresponse
    rw [List.append_nil]
    refine (publishArticle_attempted (Talk.answers_prog.mp hrun)).mp ?_
    cases outcome with
    | error error => exact ⟨error, rfl, hflag⟩
    | ok jobId =>
      -- Both responses to a finished flow say that it was attempted.
      have hattempted : attemptedIn (articleResponse (.ok jobId)) = true := by
        show attemptedIn (if _ then _ else _) = true
        split
        · rfl
        · rfl
      rw [hattempted] at hflag
      cases hflag

/-- A reply that is a response of a runner, delivered whole. -/
def Delivers (status : Nat) (response : ArticleRunnerResponse) (reply : PostReply) : Prop :=
  ∃ length, reply = .ok (status, ⟨length, some response.toJson⟩)

/-- The outcome a response is taken for says what the response says. -/
theorem intoDispatch_attempted {expected : ArticlePlatform} {response : ArticleRunnerResponse}
    {outcome : ArticleDispatchOutcome} (h : response.intoDispatch expected = some outcome) :
    (articleDispatchResult outcome).remotePublishAttempted = attemptedIn response := by
  unfold ArticleRunnerResponse.intoDispatch at h
  split at h
  · split at h
    · cases h
      rfl
    · cases h
  · split at h
    · cases h
      rfl
    · cases h
  · split at h
    · cases h
      rfl
    · cases h
  · cases h

/-- **The client's flag.**  "Not attempted" is a request that was not sent, or a reply of status
    200 that decodes to a response which says so: a lost reply, another status and a body that is
    no response count as attempted. -/
theorem dispatchWith_attempted {runner : ArticleRunner} {request : PublishArticleRequest}
    {posts : List (Called Post fun _ => PostReply)} {outcome : ArticleDispatchOutcome}
    (h : (runner.dispatchWith request).Answers posts (.ok outcome))
    (hflag : (articleDispatchResult outcome).remotePublishAttempted = false) :
    posts = [] ∨ ∃ post body response, posts = [⟨post, .ok (200, body)⟩] ∧
      body.decode ArticleRunnerResponse.fromJson = some response ∧
      attemptedIn response = false := by
  unfold ArticleRunner.dispatchWith at h
  generalize request.validate = checked, request.articlePlatform = platform at h
  rcases Talk.answers_lift_bind.mp h with ⟨e, -, -, he⟩ | ⟨u, -, hscheduling⟩
  · cases he
  by_cases hscheduled : request.scheduledAt.isSome = true
  · rw [if_pos hscheduled] at hscheduling
    exact .inl (Talk.answers_pure.mp hscheduling).1
  rw [if_neg hscheduled] at hscheduling
  rcases Talk.answers_lift_bind.mp hscheduling with ⟨e, -, -, he⟩ | ⟨expected, -, hwriting⟩
  · cases he
  rcases Talk.answers_lift_bind.mp hwriting with ⟨e, -, -, he⟩ | ⟨payload, -, hrest⟩
  · cases he
  obtain ⟨reply, rfl, hanswer⟩ := exchange_answers hrest
  rcases hanswer with he | ⟨body, response, b, rfl, hdecoded, hinto, he⟩
  · -- the refusal of an exchange says that it was attempted
    cases he
    cases hflag
  cases he
  refine .inr ⟨_, body, response, rfl, hdecoded, ?_⟩
  rw [← intoDispatch_attempted hinto]
  exact hflag

/-- What is delivered whole is read back. -/
theorem decode_of_delivers {status : Nat} {response : ArticleRunnerResponse} {body : ReplyBody}
    (h : Delivers status response (.ok (200, body))) (hversion : response.version < 65536) :
    status = 200 ∧ body.decode ArticleRunnerResponse.fromJson = some response := by
  obtain ⟨length, he⟩ := h
  cases he
  refine ⟨rfl, ?_⟩
  unfold ReplyBody.decode
  rw [Option.bind_some, ArticleRunnerResponse.fromJson_toJson hversion]
  rfl

/-- The handler answers in its own version of the protocol. -/
theorem handlePublishArticle_version {executor : Option ArticleExecutor}
    {body : ArticleRunnerRequest} {status : Nat} {response : ArticleRunnerResponse}
    (h : (handlePublishArticle executor body).Answers es (status, response)) :
    response.version = articleRunnerProtocolVersion := by
  unfold handlePublishArticle at h
  by_cases hrefused : refusesArticle body = true
  · rw [if_pos hrefused] at h
    cases (MatriXpost.answers_pure.mp h).2
    rfl
  rw [if_neg hrefused] at h
  cases executor with
  | none =>
    cases (MatriXpost.answers_pure.mp h).2
    rfl
  | some executor =>
    obtain ⟨es₁, outcome, es₂, rfl, -, hpure⟩ := MatriXpost.answers_bind.mp h
    cases (MatriXpost.answers_pure.mp hpure).2
    unfold articleResponse
    cases outcome with
    | error error => rfl
    | ok jobId =>
      dsimp only
      split
      · rfl
      · rfl

end Layers

/-! ## 4. End to end -/

/-- **"Not attempted" is truthful.**  The publisher says so exactly if it made no request. And if
    the MCP result of a dispatch says so, whatever the client was replied, then nothing was sent,
    or the reply has status 200 and decodes to a response that says so; and whichever runner's
    response that reply delivers, it is this one, and the runner made no WebDriver request. -/
theorem not_attempted_is_truthful :
    (∀ publisher host job request es r,
      (publishArticle publisher host job request).Answers es r →
        ((∃ e, r = .error e ∧ e.automationAttempted = false) ↔ es = [])) ∧
      ∀ (runner : ArticleRunner) request posts outcome,
        (runner.dispatchWith request).Answers posts (.ok outcome) →
        (articleDispatchResult outcome).remotePublishAttempted = false →
          posts = [] ∨ ∃ post body response, posts = [⟨post, .ok (200, body)⟩] ∧
            body.decode ArticleRunnerResponse.fromJson = some response ∧
            attemptedIn response = false ∧
            ∀ executor received es status given,
              (handlePublishArticle executor received).Answers es (status, given) →
              Delivers status given (.ok (200, body)) →
              status = 200 ∧ given = response ∧ es = [] := by
  refine ⟨fun _ _ _ _ _ _ h => publishArticle_attempted h, ?_⟩
  intro runner request posts outcome h hflag
  rcases dispatchWith_attempted h hflag with hnone | ⟨post, body, response, rfl, hdecoded, hsays⟩
  · exact .inl hnone
  · refine .inr ⟨post, body, response, rfl, hdecoded, hsays, ?_⟩
    intro executor received es status given hhandled hdelivers
    have hversion := handlePublishArticle_version hhandled
    obtain ⟨hstatus, hread⟩ := decode_of_delivers hdelivers (by rw [hversion]; decide)
    obtain rfl : given = response := Option.some.inj (hread.symm.trans hdecoded)
    exact ⟨hstatus, rfl, handlePublishArticle_attempted hhandled hsays⟩

/-- An article that still carries account routing. -/
def accountArticle : PublishArticleRequest :=
  { sampleArticle with account := ⟨some "1", none⟩, scheduledAt := none }

/-- A host without files. -/
def emptyHost : ArticleHost :=
  ⟨fun _ => false, fun _ => none, fun _ => none, fun _ => false, fun _ => none⟩

/-- An article that can be sent at once, and what a runner without a browser answers to it. -/
def sentArticle : PublishArticleRequest := { sampleArticle with scheduledAt := none }

def noBrowser : ArticleRunnerResponse := .unavailable articleRunnerProtocolVersion .juejin
  "browser debugger address is not configured; no browser session was started" false

/-- The client is given that answer. -/
theorem noBrowser_dispatched : ∃ post,
    ((⟨.v4 127 0 0 1 39002⟩ : ArticleRunner).dispatchWith sentArticle).Answers
      [⟨post, .ok (200, ⟨0, some noBrowser.toJson⟩)⟩]
      (.ok (.unavailable
        "browser debugger address is not configured; no browser session was started")) := by
  have hvalid : sentArticle.validate = .ok () := by decide
  have hplatform : sentArticle.articlePlatform = .ok .juejin := by decide
  obtain ⟨payload, hpayload⟩ : ∃ payload, ArticleRunnerRequest.toJson
      ⟨articleRunnerProtocolVersion, sentArticle.runnerSafe⟩ = .ok payload := ⟨_, rfl⟩
  refine ⟨⟨.v4 127 0 0 1 39002, "/v1/publish-article", payload⟩, ?_⟩
  unfold ArticleRunner.dispatchWith
  refine Talk.answers_lift_bind.mpr (.inr ⟨(), hvalid, ?_⟩)
  rw [if_neg (by decide)]
  refine Talk.answers_lift_bind.mpr (.inr ⟨.juejin, hplatform, ?_⟩)
  refine Talk.answers_lift_bind.mpr (.inr ⟨payload, hpayload, ?_⟩)
  exact exchange_answers_iff.mpr ⟨_, rfl, rfl⟩

/-- Article routing is refused before the browser is asked, and whoever gave that answer had not
    asked it. -/
theorem not_attempted_is_truthful_sample :
    (∃ e, ((publishArticle samplePublisher emptyHost 0 accountArticle).run.run
      failingTransport).2 = .error e ∧ e.automationAttempted = false) ∧
    ∀ executor received es status given,
      (handlePublishArticle executor received).Answers es (status, given) →
      Delivers status given (.ok (200, ⟨0, some noBrowser.toJson⟩)) →
      given = noBrowser ∧ es = [] := by
  obtain ⟨hpublisher, hclient⟩ := not_attempted_is_truthful
  refine ⟨(hpublisher samplePublisher emptyHost 0 accountArticle [] _
    (Talk.answers_run failingTransport _)).mpr rfl, ?_⟩
  intro executor received es status given hhandled hdelivers
  obtain ⟨post, hdispatched⟩ := noBrowser_dispatched
  rcases hclient _ _ _ _ hdispatched rfl with hnone | ⟨_, body, response, hposts, hread, -, hgiven⟩
  · cases hnone
  cases hposts
  obtain ⟨-, rfl, hes⟩ := hgiven executor received es status given hhandled hdelivers
  exact ⟨Option.some.inj (hread.symm.trans rfl), hes⟩

end WebDriver

end MatriXpost
