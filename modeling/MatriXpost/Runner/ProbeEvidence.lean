/-
  File:      MatriXpost/Runner/ProbeEvidence.lean
  Subject:   WHAT A FINDING OF A PROBE IS WORTH: the browser showed it, in this dialogue.

  A probe is a manual login, a readiness probe or a review probe. `Finding.ShownOn` says of each
  finding which replies of the browser it stands for: an opened page was gone to, a ready account
  had its upload form, an account that is not ready had none at any selector, a status was the last
  answer of the script, a video was not found by all looks that may be taken, and a probe that was
  rejected failed on these replies. `Finding.Unanswered` are the other ways to be rejected: a
  message was lost, or the client refuses the probe.

  * `withSession_ok`: the dialogue of a flow that succeeds;
  * `Command.IsLook`: the requests that only look;
  * **`findings_were_seen`**: whatever the network loses, a finding was seen in the requests the
    browser got, these only look, and there are none where the flag of the probe was not given to
    the runner that was asked.
-/
import MatriXpost.Runner.ProbeFrontEnds
import MatriXpost.WebDriver.FinalAction

namespace MatriXpost

open Json WebDriver

/-! ## 1. A visit -/

namespace WebDriver

/-- A session that was opened, the requests of its phases, and its DELETE, which succeeded. -/
def Visit (session : String) (phases pages : List Exchange) : Prop :=
  ∃ debugger opened closed value,
    pages = ⟨.newSession debugger, opened⟩ :: phases ++ [⟨.deleteSession session, closed⟩] ∧
      sessionOf opened = some session ∧ valueOf closed = .ok value

/-- A navigation that succeeded. -/
def Arrived (session url : String) (c : Exchange) : Prop :=
  ∃ reply value, c = ⟨.navigate session url, reply⟩ ∧ valueOf reply = .ok value

/-- An exchange with the script of the review status. -/
def LookedForReview (session query : String) (c : Exchange) : Prop :=
  ∃ reply, c = ⟨.execute session .fanqieReviewStatus [.text query], reply⟩

/-- A request that only looks. -/
def Command.IsLook : Command → Prop
  | .newSession _ | .deleteSession _ | .findElement _ _ => True
  | .navigate _ url => url = fanqieVideoListUrl ∨ ∃ p ∈ profiles, url = p.uploadUrl
  | .execute _ script _ => script = .fanqieReviewStatus
  | .sendKeys .. | .click .. => False

section Visits
variable {es : List Exchange}

/-- **A flow that succeeds is a visit.** -/
theorem withSession_ok {α : Type} {debugger : String} {phases : String → Flow α} {a : α}
    (h : (withSession debugger phases).Answers es (.ok a)) :
    ∃ session middle, Visit session middle es ∧ (phases session).Answers middle (.ok a) := by
  unfold withSession at h
  obtain ⟨es₁, s, es₂, rfl, hsession, hrest⟩ := Talk.answers_bind_ok.mp h
  obtain ⟨opened, rfl, hopened⟩ := session_answers hsession
  obtain ⟨middle, outcome, last, closing, rfl, hphases, hdelete, hend⟩ :=
    Talk.answers_withCleanup.mp hrest
  obtain ⟨closed, rfl, rfl⟩ := done_answers.mp hdelete
  cases outcome with
  | error e => cases hend
  | ok b =>
    cases hclosed : valueOf closed with
    | error e =>
      rw [hclosed] at hend
      cases hend
    | ok value =>
      rw [hclosed] at hend
      cases hend
      exact ⟨s, middle, ⟨debugger, opened, closed, value, rfl, hopened.symm, hclosed⟩, hphases⟩

theorem navigate_ok {session url : String} (h : (navigate session url).Answers es (.ok ())) :
    ∃ c, es = [c] ∧ Arrived session url c := by
  obtain ⟨reply, rfl, hdone⟩ := done_answers.mp h
  cases hvalue : valueOf reply with
  | error e =>
    rw [hvalue] at hdone
    cases hdone
  | ok value => exact ⟨_, rfl, reply, value, rfl, hvalue⟩

/-- A pass over the selectors that finds nothing looked at each. -/
theorem findFirst_none {session : String} {selectors : List String}
    (h : (findFirst session selectors).Answers es (.ok none)) :
    es.map (fun c => c.call) = selectors.map (.findElement session) ∧
      ∀ c ∈ es, foundIn c.reply = none := by
  induction selectors generalizing es with
  | nil =>
    obtain ⟨rfl, -⟩ := Talk.answers_pure.mp h
    exact ⟨rfl, fun c hc => absurd hc List.not_mem_nil⟩
  | cons selector rest ih =>
    obtain ⟨es₁, first, es₂, rfl, hfind, hrest⟩ := Talk.answers_bind_ok.mp h
    obtain ⟨reply, rfl, hreply⟩ := findOnce_answers.mp hfind
    cases hreply
    cases hfirst : foundIn reply with
    | some element =>
      rw [hfirst] at hrest
      obtain ⟨-, hfound⟩ := Talk.answers_pure.mp hrest
      cases hfound
    | none =>
      rw [hfirst] at hrest
      obtain ⟨hcalls, hnone⟩ := ih hrest
      refine ⟨congrArg (List.cons _) hcalls, fun c hc => ?_⟩
      rcases List.mem_cons.mp hc with rfl | hc
      · exact hfirst
      · exact hnone c hc

/-- One look for a review that has no answer yet, or one. -/
theorem reviewTurn_answers {session query : String} {found : Option ReviewStatus}
    (h : (reviewTurn session query).Answers es (.ok found)) :
    ∃ c, es = [c] ∧ LookedForReview session query c ∧
      match found with
      | some status => ∃ value, valueOf c.reply = .ok value ∧
          ∃ state, value.asStr = some state ∧ (state, status) ∈ reviewStates
      | none => ∃ value, valueOf c.reply = .ok value ∧ value.asStr = none := by
  unfold reviewTurn at h
  obtain ⟨es₁, value, es₂, rfl, hrequest, hrest⟩ := Talk.answers_bind_ok.mp h
  obtain ⟨reply, rfl, hvalue⟩ := request_answers.mp hrequest
  cases hstate : value.asStr with
  | none =>
    rw [hstate] at hrest
    obtain ⟨rfl, hfound⟩ := Talk.answers_pure.mp hrest
    cases hfound
    exact ⟨_, rfl, ⟨reply, rfl⟩, value, hvalue.symm, hstate⟩
  | some state =>
    rw [hstate] at hrest
    dsimp only at hrest
    cases hrow : reviewStates.find? fun row => row.1 = state with
    | none =>
      rw [hrow] at hrest
      obtain ⟨-, hfound⟩ := Talk.answers_fail.mp hrest
      cases hfound
    | some row =>
      rw [hrow] at hrest
      obtain ⟨rfl, hfound⟩ := Talk.answers_pure.mp hrest
      cases hfound
      have hname : row.1 = state := by simpa using List.find?_some hrow
      refine ⟨_, rfl, ⟨reply, rfl⟩, value, hvalue.symm, state, hstate, ?_⟩
      rw [← hname]
      exact List.mem_of_find?_eq_some hrow

/-- The looks for a review: all without an answer, or the last one has it. -/
theorem reviewLooks_answers {session query : String} {attempts : Nat} {status : ReviewStatus}
    (h : (Talk.poll (reviewTurn session query) (pure .notFound) attempts).Answers es
      (.ok status)) :
    (∀ c ∈ es, LookedForReview session query c) ∧
      ((status = .notFound ∧ es.length = attempts ∧
          ∀ c ∈ es, ∃ value, valueOf c.reply = .ok value ∧ value.asStr = none) ∨
        ∃ before last value state, es = before ++ [last] ∧ valueOf last.reply = .ok value ∧
          value.asStr = some state ∧ (state, status) ∈ reviewStates) := by
  induction attempts generalizing es with
  | zero =>
    obtain ⟨rfl, hstatus⟩ := Talk.answers_pure.mp h
    cases hstatus
    exact ⟨fun c hc => absurd hc List.not_mem_nil,
      .inl ⟨rfl, rfl, fun c hc => absurd hc List.not_mem_nil⟩⟩
  | succ attempts ih =>
    obtain ⟨es₁, found, es₂, rfl, hturn, hrest⟩ := Talk.answers_bind_ok.mp h
    obtain ⟨c, rfl, hlook, hanswer⟩ := reviewTurn_answers hturn
    cases found with
    | some answer =>
      obtain ⟨rfl, hstatus⟩ := Talk.answers_pure.mp hrest
      cases hstatus
      obtain ⟨value, hvalue, state, hstate, hmem⟩ := hanswer
      refine ⟨fun c' hc => ?_, .inr ⟨[], c, value, state, rfl, hvalue, hstate, hmem⟩⟩
      rw [List.append_nil, List.mem_singleton] at hc
      exact hc ▸ hlook
    | none =>
      obtain ⟨hlooks, hend⟩ := ih hrest
      refine ⟨fun c' hc => ?_, ?_⟩
      · rcases List.mem_cons.mp hc with rfl | hc
        · exact hlook
        · exact hlooks c' hc
      rcases hend with ⟨hstatus, hlength, hnone⟩ | ⟨before, last, value, state, rfl, hlast⟩
      · refine .inl ⟨hstatus, congrArg (· + 1) hlength, fun c' hc => ?_⟩
        rcases List.mem_cons.mp hc with rfl | hc
        · exact hanswer
        · exact hnone c' hc
      · exact .inr ⟨c :: before, last, value, state, rfl, hlast⟩

/-! The requests of the three flows. -/

theorem withSession_looks {α : Type} {debugger : String} {phases : String → Flow α}
    (h : ∀ session, (phases session).Only Command.IsLook) :
    (withSession debugger phases).Only Command.IsLook := by
  unfold withSession session
  refine ((request_only trivial).bind fun value => ?_).bind fun s =>
    (h s).withCleanup (done_only trivial)
  cases sessionId value with
  | some s => exact Talk.only_pure _
  | none => exact Talk.only_fail _

theorem requireProfile_ok {platform : Platform} {p : PlatformProfile}
    (h : requireProfile platform = .ok p) : profile platform = some p := by
  unfold requireProfile at h
  cases hp : profile platform with
  | none =>
    rw [hp] at h
    cases h
  | some q =>
    rw [hp] at h
    cases h
    rfl

theorem openManualLogin_looks (publisher : WebDriverPublisher) (platform : Platform) :
    (openManualLogin publisher platform).Only Command.IsLook :=
  Talk.Only.lift_bind fun _ hp => withSession_looks fun _ =>
    done_only (.inr ⟨_, profile_mem (requireProfile_ok hp), rfl⟩)

theorem accountReadiness_looks (publisher : WebDriverPublisher) (platform : Platform) :
    (accountReadiness publisher platform).Only Command.IsLook :=
  Talk.Only.lift_bind fun _ hp => withSession_looks fun _ =>
    (done_only (.inr ⟨_, profile_mem (requireProfile_ok hp), rfl⟩)).bind fun _ =>
      (findFirst_only fun _ _ => trivial).bind fun _ => Talk.only_pure _

theorem reviewStatus_looks (publisher : WebDriverPublisher) (titleQuery : String) :
    (reviewStatus publisher titleQuery).Only Command.IsLook := by
  have hlook : ∀ session query, Command.IsLook (.execute session .fanqieReviewStatus query) :=
    fun _ _ => rfl
  refine Talk.Only.lift_bind fun query _ => withSession_looks fun session =>
    (done_only (.inl rfl)).bind fun _ =>
      Talk.Only.poll ((request_only (hlook _ _)).bind fun value => ?_) (Talk.only_pure _) _
  cases value.asStr with
  | none => exact Talk.only_pure _
  | some state =>
    dsimp only
    split
    · exact Talk.only_pure _
    · exact Talk.only_fail _

end Visits

end WebDriver

/-! ## 2. Findings -/

/-- What a probe was for, and what its client made of it. -/
inductive Finding where
  | login (platform : Platform) (o : ManualLoginOutcome)
  | readiness (platform : Platform) (o : AccountReadiness)
  | review (platform : Platform) (title : String) (o : ReviewStatus)

/-- The script of the review status answered so, on the page of the videos. -/
def ReviewSaid (title state : String) (pages : List Exchange) : Prop :=
  ∃ session c looks last,
    Visit session (c :: looks ++ [last]) pages ∧ Arrived session fanqieVideoListUrl c ∧
    LookedForReview session (normalizeReviewTitleQuery title) last ∧
    ∃ value, valueOf last.reply = .ok value ∧ value.asStr = some state

/-- The flow of a probe ended with an error. -/
def FlowFailed {α : Type} (flow : WebDriverPublisher → Flow α) (pages : List Exchange) : Prop :=
  ∃ publisher e, (flow publisher).Answers pages (.error e)

/-- The replies of the browser a finding stands for. -/
def Finding.ShownOn (pages : List Exchange) : Finding → Prop
  | login platform .opened => ∃ p session c, profile platform = some p ∧
      Visit session [c] pages ∧ Arrived session p.uploadUrl c
  | readiness platform .ready => ∃ p session c looks element, profile platform = some p ∧
      Visit session (c :: looks) pages ∧ Arrived session p.uploadUrl c ∧
      FoundBy session p.file looks element
  | readiness platform .notReady => ∃ p session c looks, profile platform = some p ∧
      Visit session (c :: looks) pages ∧ Arrived session p.uploadUrl c ∧
      looks.map (fun c => c.call) = p.file.map (.findElement session) ∧
      ∀ c ∈ looks, foundIn c.reply = none
  | review _ title .notFound => ∃ session c looks,
      Visit session (c :: looks) pages ∧ Arrived session fanqieVideoListUrl c ∧
      looks.length = fanqieReviewScrollAttempts ∧
      ∀ c ∈ looks, LookedForReview session (normalizeReviewTitleQuery title) c ∧
        ∃ value, valueOf c.reply = .ok value ∧ value.asStr = none
  | review _ title .published => ReviewSaid title "published" pages
  | review _ title .underReview => ReviewSaid title "under_review" pages
  | login _ .unavailable | readiness _ .unavailable | review _ _ .unavailable => pages = []
  | login platform .rejected => FlowFailed (openManualLogin · platform) pages
  | readiness platform .rejected => FlowFailed (accountReadiness · platform) pages
  | review _ title .rejected => ReviewSaid title "rejected" pages ∨
      FlowFailed (reviewStatus · (normalizeReviewTitleQuery title)) pages

/-! ## 3. What a report says was seen -/

/-- A title query without blanks is its own. -/
theorem normalizeReviewTitleQuery_idem (title : String) :
    normalizeReviewTitleQuery (normalizeReviewTitleQuery title) =
      normalizeReviewTitleQuery title := by
  unfold normalizeReviewTitleQuery
  simp [List.filter_filter]

theorem reviewQuery_ok {title query : String} (h : reviewQuery title = .ok query) :
    query = normalizeReviewTitleQuery title := by
  unfold reviewQuery at h
  dsimp only at h
  split at h
  · cases h
  · exact (Except.ok.inj h).symm

theorem reviewStates_cases {state : String} {status : ReviewStatus}
    (h : (state, status) ∈ reviewStates) : state = status.tag := by
  simp only [reviewStates, List.mem_cons, List.not_mem_nil, or_false, Prod.mk.injEq] at h
  obtain ⟨rfl, rfl⟩ | ⟨rfl, rfl⟩ | ⟨rfl, rfl⟩ := h
  · rfl
  · rfl
  · rfl

section Reports
variable {text : SocketAddr → String} {service : AttachedService} {platform : Platform}
  {pages : List Exchange}

/-- A flow whose end is turned into a report. -/
theorem report_answers {α β : Type} {x : Flow α} {report : Except String α → β} {b : β}
    (h : (do let result ← x.run; pure (report result) : Browsing β).Answers pages b) :
    ∃ result, x.Answers pages result ∧ b = report result := by
  obtain ⟨es₁, result, es₂, rfl, hflow, hend⟩ := answers_bind.mp h
  obtain ⟨rfl, rfl⟩ := answers_pure.mp hend
  exact ⟨result, by rw [List.append_nil]; exact Talk.answers_prog.mp hflow, rfl⟩

theorem loginReport_shown {o : ManualLoginOutcome}
    (h : (service.loginReport text platform).Answers pages o) :
    (Finding.login platform o).ShownOn pages ∧ (∀ c ∈ pages, c.call.IsLook) ∧
      (pages ≠ [] → service.loginExecutor ≠ none) := by
  unfold AttachedService.loginReport at h
  cases hexecutor : service.loginExecutor with
  | none =>
    rw [hexecutor] at h
    obtain ⟨rfl, rfl⟩ := answers_pure.mp h
    exact ⟨rfl, fun c hc => absurd hc List.not_mem_nil, fun hne => absurd rfl hne⟩
  | some executor =>
    rw [hexecutor] at h
    dsimp only at h
    obtain ⟨result, hflow, rfl⟩ := report_answers h
    refine ⟨?_, (openManualLogin_looks _ _).answers hflow, fun _ hnone => by cases hnone⟩
    cases result with
    | error e => exact ⟨_, e, hflow⟩
    | ok u =>
      unfold openManualLogin at hflow
      rcases Talk.answers_lift_bind.mp hflow with ⟨e, -, -, he⟩ | ⟨p, hp, hsession⟩
      · cases he
      obtain ⟨session, middle, hvisit, hphases⟩ := withSession_ok hsession
      obtain ⟨c, rfl, harrived⟩ := navigate_ok hphases
      exact ⟨p, session, c, requireProfile_ok hp, hvisit, harrived⟩

theorem readinessReport_shown {o : AccountReadiness}
    (h : (service.readinessReport text platform).Answers pages o) :
    (Finding.readiness platform o).ShownOn pages ∧ (∀ c ∈ pages, c.call.IsLook) ∧
      (pages ≠ [] → service.accountStatusExecutor ≠ none) := by
  unfold AttachedService.readinessReport at h
  cases hexecutor : service.accountStatusExecutor with
  | none =>
    rw [hexecutor] at h
    obtain ⟨rfl, rfl⟩ := answers_pure.mp h
    exact ⟨rfl, fun c hc => absurd hc List.not_mem_nil, fun hne => absurd rfl hne⟩
  | some executor =>
    rw [hexecutor] at h
    obtain ⟨result, hflow, rfl⟩ := report_answers h
    refine ⟨?_, (accountReadiness_looks _ _).answers hflow, fun _ hnone => by cases hnone⟩
    cases result with
    | error e => exact ⟨_, e, hflow⟩
    | ok ready =>
      unfold accountReadiness at hflow
      rcases Talk.answers_lift_bind.mp hflow with ⟨e, -, -, he⟩ | ⟨p, hp, hsession⟩
      · cases he
      obtain ⟨session, middle, hvisit, hphases⟩ := withSession_ok hsession
      unfold readinessPhases at hphases
      obtain ⟨es₁, u, es₂, rfl, hnavigate, hrest⟩ := Talk.answers_bind_ok.mp hphases
      obtain ⟨c, rfl, harrived⟩ := navigate_ok hnavigate
      obtain ⟨looks, found, es₃, rfl, hlooks, hend⟩ := Talk.answers_bind_ok.mp hrest
      obtain ⟨rfl, hready⟩ := Talk.answers_pure.mp hend
      rw [List.append_nil] at hvisit
      cases found with
      | some element =>
        cases hready
        exact ⟨p, session, c, looks, element, requireProfile_ok hp, hvisit, harrived,
          findFirst_answers hlooks⟩
      | none =>
        cases hready
        obtain ⟨hcalls, hnone⟩ := findFirst_none hlooks
        exact ⟨p, session, c, looks, requireProfile_ok hp, hvisit, harrived, hcalls, hnone⟩

theorem reviewReport_shown (asked : Platform) {title : String} {o : ReviewStatus}
    (h : (service.reviewReport text (normalizeReviewTitleQuery title)).Answers pages o) :
    (Finding.review asked title o).ShownOn pages ∧ (∀ c ∈ pages, c.call.IsLook) ∧
      (pages ≠ [] → service.reviewStatusExecutor ≠ none) := by
  unfold AttachedService.reviewReport at h
  cases hexecutor : service.reviewStatusExecutor with
  | none =>
    rw [hexecutor] at h
    obtain ⟨rfl, rfl⟩ := answers_pure.mp h
    exact ⟨rfl, fun c hc => absurd hc List.not_mem_nil, fun hne => absurd rfl hne⟩
  | some executor =>
    rw [hexecutor] at h
    obtain ⟨result, hflow, rfl⟩ := report_answers h
    refine ⟨?_, (reviewStatus_looks _ _).answers hflow, fun _ hnone => by cases hnone⟩
    cases result with
    | error e => exact .inr ⟨_, e, hflow⟩
    | ok status =>
      unfold reviewStatus at hflow
      rcases Talk.answers_lift_bind.mp hflow with ⟨e, -, -, he⟩ | ⟨query, hquery, hsession⟩
      · cases he
      obtain rfl : query = normalizeReviewTitleQuery title :=
        (reviewQuery_ok hquery).trans (normalizeReviewTitleQuery_idem title)
      obtain ⟨session, middle, hvisit, hphases⟩ := withSession_ok hsession
      unfold reviewPhases at hphases
      obtain ⟨es₁, u, looks, rfl, hnavigate, hlooks⟩ := Talk.answers_bind_ok.mp hphases
      obtain ⟨c, rfl, harrived⟩ := navigate_ok hnavigate
      obtain ⟨hlook, hend⟩ := reviewLooks_answers hlooks
      rcases hend with ⟨rfl, hlength, hnone⟩ |
        ⟨before, last, value, state, rfl, hvalue, hstate, hmem⟩
      · exact ⟨session, c, looks, hvisit, harrived, hlength,
          fun c' hc => ⟨hlook c' hc, hnone c' hc⟩⟩
      · have hlast := hlook last (List.mem_append_right before List.mem_cons_self)
        rw [reviewStates_cases hmem] at hstate hmem
        cases status with
        | published =>
          exact ⟨session, c, before, last, hvisit, harrived, hlast, value, hvalue, hstate⟩
        | underReview =>
          exact ⟨session, c, before, last, hvisit, harrived, hlast, value, hvalue, hstate⟩
        | rejected =>
          exact .inl ⟨session, c, before, last, hvisit, harrived, hlast, value, hvalue, hstate⟩
        | notFound => simp [reviewStates] at hmem
        | unavailable => simp [reviewStates] at hmem

end Reports

/-! ## 4. Over the network -/

/-- The requests the browser got, and its replies. -/
def pagesOf (es : HopLog) : List Exchange :=
  es.filterMap fun
    | ⟨.page c, reply⟩ => some ⟨c, reply⟩
    | _ => none

theorem pagesOf_served (post post' : Post) (arrived : Bool) (pages : List Exchange) :
    pagesOf (⟨.send post, true⟩ :: pages.map onPage ++ [⟨.receive post', arrived⟩]) = pages := by
  unfold pagesOf
  rw [List.cons_append, List.filterMap_cons_none rfl, List.filterMap_append, List.filterMap_map]
  have hpages : pages.filterMap some = pages := List.filterMap_some
  exact (congrArg₂ (· ++ ·) hpages rfl).trans (List.append_nil pages)

/-- A message of a probe was lost. -/
def MessageLost (es : HopLog) : Prop :=
  ∃ post, ⟨.send post, false⟩ ∈ es ∨ ⟨.receive post, false⟩ ∈ es

/-- A probe is rejected without an answer: a message was lost, or the client refuses to send it. -/
def Finding.Unanswered (es : HopLog) : Finding → Prop
  | login _ .rejected | readiness _ .rejected => MessageLost es
  | review platform title .rejected => MessageLost es ∨
      es = [] ∧ (platform ≠ .fanqieVideo ∨ (reviewRequest title).validate = false)
  | _ => False

/-- **A finding was seen** in a dialogue: the browser's replies show it, unless the probe got no
    answer and is rejected. -/
def Finding.SeenIn (es : HopLog) (finding : Finding) : Prop :=
  finding.ShownOn (pagesOf es) ∨ finding.Unanswered es

/-- A probe, and the runner it asks. -/
inductive Probe where
  | login (runner : ProviderRunner)
  | readiness (runner : ProviderRunner)
  | review (runner : ProviderRunner) (title : String)

/-- The client of a probe. -/
def Probe.client : Probe → Client Finding
  | login runner => do return .login runner.platform (← runner.requestManualLoginWith)
  | readiness runner => do return .readiness runner.platform (← runner.accountReadinessWith)
  | review runner title => do
    return .review runner.platform title (← runner.fanqieReviewStatusWith title)

def Probe.runner : Probe → ProviderRunner
  | login runner | readiness runner | review runner _ => runner

/-- The flag a runner has to be given for a probe. -/
def Probe.allowedBy (args : RunnerArgs) : Probe → Bool
  | login _ => args.allowLoginNavigation
  | readiness _ => args.allowAccountStatusProbe
  | review .. => args.allowReviewStatusProbe

/-- The runner a probe asks was given the flag of the probe. -/
def Probe.Permitted (args : SocketAddr → RunnerArgs) (probe : Probe) : Prop :=
  ∃ address, probe.runner.loopbackTcpAddress = some address ∧
    probe.allowedBy (args address) = true

/-- What a dialogue says of the browser: these requests only look, and there are none unless
    permitted. -/
structure OnlyLooks (pages : List Exchange) (permitted : Prop) : Prop where
  look : ∀ c ∈ pages, c.call.IsLook
  permitted : pages ≠ [] → permitted

theorem onlyLooks_nil (permitted : Prop) : OnlyLooks [] permitted :=
  ⟨fun _ hc => absurd hc List.not_mem_nil, fun hne => absurd rfl hne⟩

section Network
variable {bytes : Json → Nat} {text : SocketAddr → String}
  {others : Post → Browsing (Nat × ReplyBody)} {services : SocketAddr → AttachedService}
  {es : HopLog}

/-- What is shown by the dialogues of a runner's reports is seen by the client of the probe. -/
theorem probed_seen {α : Type} (finding : α → Finding) {runner : ProviderRunner} {path : String}
    {body : Json} {report : SocketAddr → Browsing α} {unavailable refused o : α}
    {permitted : SocketAddr → Prop} (h : Probed runner path body report unavailable refused es o)
    (hrefused : ∀ es, MessageLost es → (finding refused).Unanswered es)
    (hunavailable : (finding unavailable).ShownOn [])
    (hreport : ∀ address pages o, (report address).Answers pages o →
      (finding o).ShownOn pages ∧ OnlyLooks pages (permitted address)) :
    (finding o).SeenIn es ∧ OnlyLooks (pagesOf es)
      (∃ address, runner.loopbackTcpAddress = some address ∧ permitted address) := by
  unfold Probed at h
  cases haddress : runner.loopbackTcpAddress with
  | none =>
    rw [haddress] at h
    obtain ⟨rfl, rfl⟩ := h
    exact ⟨.inl hunavailable, onlyLooks_nil _⟩
  | some address =>
    rw [haddress] at h
    have hpermitted : ∀ {pages}, OnlyLooks pages (permitted address) →
        OnlyLooks pages (∃ a, some address = some a ∧ permitted a) :=
      fun hlooks => ⟨hlooks.look, fun hne => ⟨address, rfl, hlooks.permitted hne⟩⟩
    cases h with
    | lost =>
      exact ⟨.inr (hrefused _ ⟨_, .inl List.mem_cons_self⟩), onlyLooks_nil _⟩
    | cut hanswers =>
      refine ⟨.inr (hrefused _ ⟨_, .inr (List.mem_append_right _ List.mem_cons_self)⟩), ?_⟩
      rw [pagesOf_served]
      exact hpermitted (hreport _ _ _ hanswers).2
    | told hanswers =>
      unfold Finding.SeenIn
      rw [pagesOf_served]
      obtain ⟨hshown, hlooks⟩ := hreport _ _ _ hanswers
      exact ⟨.inl hshown, hpermitted hlooks⟩

/-- An executor that is there was permitted. -/
theorem GivenIf.enabled {enabled : Bool} {debuggerAddress : Option SocketAddr}
    {executor : Option AttachedPublisher} (h : GivenIf enabled debuggerAddress executor)
    (hsome : executor ≠ none) : enabled = true := by
  cases enabled with
  | true => rfl
  | false =>
    unfold GivenIf at h
    simp only [Bool.false_eq_true, if_false, Option.map_eq_none_iff] at h
    exact absurd h hsome

/-- A readiness that was found was seen. -/
theorem readiness_seen {parse : String → Option EndpointUrl} {args : SocketAddr → RunnerArgs}
    (hstart : ∀ address, startRunner parse (args address) = .ok (services address))
    {runner : ProviderRunner} {o : AccountReadiness}
    (h : Probed runner "/v1/account-status"
      (ProbeRequest.toJson ⟨accountStatusRunnerProtocolVersion, runner.platform⟩)
      (fun address => (services address).readinessReport text runner.platform)
      .unavailable .rejected es o) :
    (Finding.readiness runner.platform o).SeenIn es ∧
      OnlyLooks (pagesOf es) ((Probe.readiness runner).Permitted args) := by
  refine probed_seen (.readiness runner.platform) h (fun _ hlost => hlost) rfl
    fun address pages o hreport => ?_
  obtain ⟨hshown, hlook, hexecutor⟩ := readinessReport_shown hreport
  exact ⟨hshown, hlook, fun hne =>
    (startRunner_executors (hstart address)).accountStatus.enabled (hexecutor hne)⟩

/-- **A finding was seen.**  Whatever the network loses and the browsers reply, and whatever runners
    there are, each with its own flags: the client of a probe has a finding; the browser's replies
    show it, in this dialogue; the browser was only asked to look, and not at all by a runner that
    was not given the flag of the probe. -/
theorem findings_were_seen {parse : String → Option EndpointUrl} {args : SocketAddr → RunnerArgs}
    (hstart : ∀ address, startRunner parse (args address) = .ok (services address))
    {probe : Probe} {r : Except DomainError Finding}
    (h : (Client.over probe.client (appAt bytes text others services)).Answers es r) :
    ∃ finding, r = .ok finding ∧ finding.SeenIn es ∧
      OnlyLooks (pagesOf es) (probe.Permitted args) := by
  have hstarted := fun address => startRunner_executors (hstart address)
  cases probe with
  | login runner =>
    obtain ⟨r', hclient, rfl⟩ := over_map.mp h
    obtain ⟨o, rfl, hprobed⟩ := manualLogin_exact.mp hclient
    refine ⟨.login runner.platform o, rfl, ?_⟩
    refine probed_seen (.login runner.platform) hprobed (fun _ hlost => hlost) rfl
      fun address pages o hreport => ?_
    obtain ⟨hshown, hlook, hexecutor⟩ := loginReport_shown hreport
    exact ⟨hshown, hlook, fun hne => (hstarted address).login.enabled (hexecutor hne)⟩
  | readiness runner =>
    obtain ⟨r', hclient, rfl⟩ := over_map.mp h
    obtain ⟨o, rfl, hprobed⟩ := accountReadiness_exact.mp hclient
    refine ⟨.readiness runner.platform o, rfl, ?_⟩
    exact readiness_seen hstart hprobed
  | review runner title =>
    obtain ⟨r', hclient, rfl⟩ := over_map.mp h
    obtain ⟨o, rfl, hprobed⟩ := reviewStatus_exact.mp hclient
    refine ⟨.review runner.platform title o, rfl, ?_⟩
    unfold ReviewProbed at hprobed
    split at hprobed
    · rename_i hrefused
      obtain ⟨rfl, rfl⟩ := hprobed
      exact ⟨.inr (.inr ⟨rfl, hrefused⟩), onlyLooks_nil _⟩
    · refine probed_seen (.review runner.platform title) hprobed (fun _ hlost => .inl hlost) rfl
        fun address pages o hreport => ?_
      obtain ⟨hshown, hlook, hexecutor⟩ := reviewReport_shown runner.platform hreport
      exact ⟨hshown, hlook, fun hne => (hstarted address).reviewStatus.enabled (hexecutor hne)⟩

end Network

/-- A runner on this host with a browser, and all flags. -/
def sampleRunnerArgs : RunnerArgs where
  bind := .v4 127 0 0 1 39001
  webdriverEndpoint := some "http://127.0.0.1:4444/"
  browserDebuggerAddress := some (.v4 127 0 0 1 9222)
  allowArticlePublish := true
  allowLoginNavigation := true
  allowTerminalQrLogin := true
  allowAccountStatusProbe := true
  allowReviewStatusProbe := true
  remoteMediaDir := none

def sampleEndpoint : EndpointUrl :=
  ⟨"http", "", none, some (.ipv4 127 0 0 1), "/", none, none⟩

def sampleAttached : AttachedPublisher := ⟨sampleEndpoint, .v4 127 0 0 1 9222, rfl⟩

def sampleService : AttachedService where
  executor := some sampleAttached
  articleExecutor := some sampleAttached
  loginExecutor := some sampleAttached
  terminalQrLoginExecutor := some sampleAttached
  accountStatusExecutor := some sampleAttached
  reviewStatusExecutor := some sampleAttached
  remoteMediaDir := none
  browserDebuggerAddress := some (.v4 127 0 0 1 9222)

theorem startRunner_sample :
    startRunner (fun _ => some sampleEndpoint) sampleRunnerArgs = .ok sampleService := rfl

/-- A network that loses nothing, and a browser that shows the video as published. -/
def sampleHop : (hop : Hop) → Hop.Reply hop
  | .send _ => true
  | .page (.newSession _) => replyOf (.object [("sessionId", .string "s")])
  | .page _ => replyOf (.string "published")
  | .receive _ => true

def sampleReview : Probe := .review ⟨.fanqieVideo, .tcp (.v4 127 0 0 1 39001)⟩ "Reise"

theorem findings_were_seen_sample :
    ∃ es, (Client.over sampleReview.client (appAt (fun _ => 0) (fun _ => "")
        (fun _ => pure (404, ⟨0, none⟩)) fun _ => sampleService)).Answers es
          (.ok (.review .fanqieVideo "Reise" .published)) ∧
      ReviewSaid "Reise" "published" (pagesOf es) := by
  have hanswers := Talk.answers_run sampleHop (Client.over sampleReview.client
    (appAt (fun _ => 0) (fun _ => "") (fun _ => pure (404, ⟨0, none⟩)) fun _ => sampleService))
  have hend : ((Client.over sampleReview.client (appAt (fun _ => 0) (fun _ => "")
      (fun _ => pure (404, ⟨0, none⟩)) fun _ => sampleService)).run.run sampleHop).2 =
        .ok (.review .fanqieVideo "Reise" .published) := by
    rfl
  rw [hend] at hanswers
  obtain ⟨finding, hfinding, hseen, -⟩ := findings_were_seen (fun _ => startRunner_sample) hanswers
  cases hfinding
  exact ⟨_, hanswers, hseen.resolve_right id⟩

end MatriXpost
