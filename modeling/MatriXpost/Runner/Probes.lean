/-
  File:      MatriXpost/Runner/Probes.lean
  Subject:   A PROBE FROM THE CLIENT THROUGH THE NETWORK AND THE RUNNER TO THE BROWSER, AND BACK.

  The client posts; the network may lose the post, or the reply; a runner that gets the post works
  in its browser and answers. The calls of the whole (`Hop`) are what the network and the browser
  decide, and they may decide in any way.

  * `delivers_iff`: one post over such a network;
  * `Found`: what a client can make of a probe, and the dialogue it comes with: that a post or a
    reply was lost, or what the runner reports of its dialogue with the browser;
  * `manualLogin_exact`, `accountReadiness_exact`, `reviewStatus_exact`: the client of each probe
    answers exactly so. Its own checks are the runner's: no post of it is refused.
-/
import MatriXpost.Runner.ProbeService

namespace MatriXpost

open Json WebDriver

/-! ## 1. The network -/

/-- What is decided outside: whether a post arrives, what the WebDriver replies, whether the answer
    arrives. -/
inductive Hop where
  | send (post : Post)
  | page (c : Command)
  | receive (post : Post)

@[reducible] def Hop.Reply : Hop → Type
  | send _ => Bool
  | page _ => WebDriver.Reply
  | receive _ => Bool

/-- A dialogue of the whole. -/
abbrev HopLog := List (Called Hop Hop.Reply)

/-- A request of the runner to the WebDriver. -/
def onPage (c : Exchange) : Called Hop Hop.Reply := ⟨.page c.call, c.reply⟩

def askPage (c : Command) : Prog Hop Hop.Reply WebDriver.Reply :=
  .call (.page c) fun (reply : WebDriver.Reply) => .ret reply

/-- A program of the runner among the hops. -/
def Browsing.hops {α : Type} (x : Browsing α) : Prog Hop Hop.Reply α := x.through askPage

/-- One post over the network, to a runner that serves it. -/
def deliver (serve : Post → Browsing (Nat × ReplyBody)) (post : Post) :
    Prog Hop Hop.Reply PostReply :=
  .call (.send post) fun (sent : Bool) =>
    if sent then do
      let answer ← Browsing.hops (serve post)
      .call (.receive post) fun (arrived : Bool) =>
        pure (if arrived then .ok answer else .error ())
    else pure (.error ())

theorem askPage_answers {c : Command} {reply : WebDriver.Reply} {es : HopLog} :
    (askPage c).Answers es reply ↔ es = [onPage ⟨c, reply⟩] := by
  refine answers_call.trans ?_
  constructor
  · intro h
    obtain ⟨reply', rest, rfl, hret⟩ := h
    obtain ⟨rfl, rfl⟩ := answers_pure.mp hret
    rfl
  · intro h
    exact ⟨reply, [], h, answers_pure.mpr ⟨rfl, rfl⟩⟩

theorem servedBy_page {cs : List Exchange} {es : HopLog} :
    ServedBy askPage cs es ↔ es = cs.map onPage := by
  induction cs generalizing es with
  | nil => exact servedBy_nil
  | cons c cs ih =>
    rw [servedBy_cons]
    constructor
    · intro h
      obtain ⟨es₁, es₂, rfl, hfirst, hrest⟩ := h
      rw [askPage_answers.mp hfirst, ih.mp hrest]
      rfl
    · intro h
      exact ⟨[onPage c], cs.map onPage, h, askPage_answers.mpr rfl, ih.mpr rfl⟩

/-- The dialogues of a program of the runner, among the hops. -/
theorem hops_answers {α : Type} {x : Browsing α} {es : HopLog} {a : α} :
    (Browsing.hops x).Answers es a ↔ ∃ pages, x.Answers pages a ∧ es = pages.map onPage := by
  unfold Browsing.hops
  rw [answers_through]
  simp only [servedBy_page]

/-- **One post over the network**: it is lost; or the runner answers, and its answer arrives or is
    lost. -/
theorem delivers_iff {serve : Post → Browsing (Nat × ReplyBody)} {post : Post} {es : HopLog}
    {reply : PostReply} : (deliver serve post).Answers es reply ↔
      (es = [⟨.send post, false⟩] ∧ reply = .error ()) ∨
      ∃ pages answer arrived, (serve post).Answers pages answer ∧
        es = ⟨.send post, true⟩ :: pages.map onPage ++ [⟨.receive post, arrived⟩] ∧
        reply = if arrived then .ok answer else .error () := by
  unfold deliver
  rw [answers_call]
  constructor
  · intro h
    obtain ⟨sent, rest, rfl, h⟩ := h
    cases sent with
    | false =>
      obtain ⟨rfl, rfl⟩ := answers_pure.mp h
      exact .inl ⟨rfl, rfl⟩
    | true =>
      obtain ⟨es₁, answer, es₂, rfl, hpage, hlast⟩ := answers_bind.mp h
      obtain ⟨pages, hserve, rfl⟩ := hops_answers.mp hpage
      obtain ⟨arrived, rest, rfl, hend⟩ := answers_call.mp hlast
      obtain ⟨rfl, rfl⟩ := answers_pure.mp hend
      exact .inr ⟨pages, answer, arrived, hserve, rfl, rfl⟩
  · intro h
    obtain ⟨rfl, rfl⟩ | ⟨pages, answer, arrived, hserve, rfl, rfl⟩ := h
    · exact ⟨false, [], rfl, answers_pure.mpr ⟨rfl, rfl⟩⟩
    · refine ⟨true, _, rfl, answers_bind.mpr ⟨pages.map onPage, answer, [⟨.receive post, arrived⟩],
        rfl, hops_answers.mpr ⟨pages, hserve, rfl⟩, ?_⟩⟩
      exact answers_call.mpr ⟨arrived, [], rfl, answers_pure.mpr ⟨rfl, rfl⟩⟩

/-! ## 2. A client over the network -/

/-- A client with the network and the runner behind it. -/
def Client.over {α : Type} (x : Client α) (serve : Post → Browsing (Nat × ReplyBody)) :
    Talk Hop Hop.Reply DomainError α := ExceptT.mk (x.run.through (deliver serve))

theorem over_answers {α : Type} {x : Client α} {serve : Post → Browsing (Nat × ReplyBody)}
    {es : HopLog} {r : Except DomainError α} : (Client.over x serve).Answers es r ↔
      ∃ posts, x.Answers posts r ∧ ServedBy (deliver serve) posts es := by
  simp only [← Talk.answers_prog]
  exact answers_through

/-- **A sequence of clients is one of what they are over the network.** -/
theorem over_bind {α β : Type} {x : Client α} {f : α → Client β}
    {serve : Post → Browsing (Nat × ReplyBody)} :
    Client.over (x >>= f) serve = Client.over x serve >>= fun a => Client.over (f a) serve := by
  refine (through_bind x.run (ExceptT.bindCont f)).trans ?_
  refine congrArg (x.run.through (deliver serve) >>= ·) (funext fun result => ?_)
  cases result with
  | ok a => rfl
  | error e => rfl

theorem over_outcome {α : Type} {x : Client α} {serve : Post → Browsing (Nat × ReplyBody)} :
    Client.over x.outcome serve = (Client.over x serve).outcome :=
  through_bind x.run _

/-- A client that answers without a post. -/
theorem over_pure {α : Type} {a : α} {serve : Post → Browsing (Nat × ReplyBody)} {es : HopLog}
    {r : Except DomainError α} :
    (Client.over (pure a : Client α) serve).Answers es r ↔ es = [] ∧ r = .ok a := by
  have hover : Client.over (pure a : Client α) serve = pure a := rfl
  rw [hover, Talk.answers_pure]

/-- A client that makes something of what another answers. -/
theorem over_map {α β : Type} {x : Client α} {f : α → β}
    {serve : Post → Browsing (Nat × ReplyBody)} {es : HopLog} {r : Except DomainError β} :
    (Client.over (do let a ← x; pure (f a)) serve).Answers es r ↔
      ∃ r', (Client.over x serve).Answers es r' ∧ r = r'.map f := by
  rw [over_bind, Talk.answers_bind]
  constructor
  · intro h
    rcases h with ⟨e, hx, rfl⟩ | ⟨es₁, a, es₂, rfl, hx, hend⟩
    · exact ⟨.error e, hx, rfl⟩
    · obtain ⟨rfl, rfl⟩ := over_pure.mp hend
      exact ⟨.ok a, by rwa [List.append_nil], rfl⟩
  · intro h
    obtain ⟨r', hx, rfl⟩ := h
    cases r' with
    | error e => exact .inl ⟨e, hx, rfl⟩
    | ok a => exact .inr ⟨es, a, [], (List.append_nil es).symm, hx, over_pure.mpr ⟨rfl, rfl⟩⟩

theorem over_filterMap {α β : Type} {f : α → Client (Option β)} {items : List α}
    {serve : Post → Browsing (Nat × ReplyBody)} :
    Client.over (Talk.filterMap f items) serve =
      Talk.filterMap (fun a => Client.over (f a) serve) items := by
  induction items with
  | nil => rfl
  | cons a rest ih =>
    have hrest : ∀ b : Option β, Client.over (do
        let bs ← Talk.filterMap f rest
        pure (b.toList ++ bs)) serve = (do
          let bs ← Talk.filterMap (fun a => Client.over (f a) serve) rest
          pure (b.toList ++ bs)) := by
      intro b
      rw [over_bind, ih]
      rfl
    refine over_bind.trans (congrArg (Client.over (f a) serve >>= ·) (funext hrest))

/-- What a client finds out by one post, and the dialogue it comes with: nothing, for the post or
    the answer was lost; or what the runner reports of its dialogue with the browser. -/
inductive Found {α : Type} (post : Post) (report : Browsing α) (refused : α) : HopLog → α → Prop
  | lost : Found post report refused [⟨.send post, false⟩] refused
  | cut {pages : List Exchange} {a : α} : report.Answers pages a →
      Found post report refused
        (⟨.send post, true⟩ :: pages.map onPage ++ [⟨.receive post, false⟩]) refused
  | told {pages : List Exchange} {a : α} : report.Answers pages a →
      Found post report refused
        (⟨.send post, true⟩ :: pages.map onPage ++ [⟨.receive post, true⟩]) a

section Exchange
variable {α β : Type} {post : Post} {dec : Decoder α} {into : α → Option β} {refused : β}
  {serve : Post → Browsing (Nat × ReplyBody)} {report : Browsing β}

/-- **An exchange with a runner that answers with reports finds what it reports.** -/
theorem exchange_found (bytes : Json → Nat) (encode : β → Json)
    (hserve : serve post = report >>= fun o => pure (200, ⟨bytes (encode o), some (encode o)⟩))
    (hread : ∀ o, ∃ a, dec (encode o) = .ok a ∧ into a = some o) {es : HopLog}
    {r : Except DomainError β} :
    (Client.over (exchange post anyBody dec into refused) serve).Answers es r ↔
      ∃ o, r = .ok o ∧ Found post report refused es o := by
  have hexchanged : ∀ o, exchanged anyBody dec into refused
      (.ok (200, ⟨bytes (encode o), some (encode o)⟩)) = o := by
    intro o
    obtain ⟨a, hdec, hinto⟩ := hread o
    have hdecode : ReplyBody.decode dec ⟨bytes (encode o), some (encode o)⟩ = some a := by
      rw [ReplyBody.decode, Option.bind_some, hdec]
      rfl
    dsimp only [exchanged]
    rw [if_neg (by simp [anyBody]), hdecode, Option.bind_some, hinto]
    rfl
  have hanswers : ∀ {pages answer}, (serve post).Answers pages answer ↔
      ∃ o, report.Answers pages o ∧ answer = (200, ⟨bytes (encode o), some (encode o)⟩) := by
    intro pages answer
    rw [hserve, answers_bind]
    constructor
    · intro h
      obtain ⟨es₁, o, es₂, rfl, hreport, hend⟩ := h
      obtain ⟨rfl, rfl⟩ := answers_pure.mp hend
      exact ⟨o, by rwa [List.append_nil], rfl⟩
    · intro h
      obtain ⟨o, hreport, rfl⟩ := h
      exact ⟨pages, o, [], (List.append_nil pages).symm, hreport, answers_pure.mpr ⟨rfl, rfl⟩⟩
  rw [over_answers]
  constructor
  · intro h
    obtain ⟨posts, hclient, hserved⟩ := h
    obtain ⟨reply, rfl, rfl⟩ := exchange_answers_iff.mp hclient
    refine ⟨_, rfl, ?_⟩
    obtain ⟨rfl, hreply⟩ | ⟨pages, answer, arrived, hpage, rfl, hreply⟩ :=
      delivers_iff.mp (servedBy_singleton.mp hserved)
    · change reply = .error () at hreply
      rw [hreply]
      exact .lost
    · change reply = _ at hreply
      rw [hreply]
      obtain ⟨o, hreport, rfl⟩ := hanswers.mp hpage
      cases arrived with
      | false => exact .cut hreport
      | true =>
        rw [if_pos rfl, hexchanged]
        exact .told hreport
  · intro h
    obtain ⟨o, rfl, hfound⟩ := h
    cases hfound with
    | lost =>
      refine ⟨[⟨post, .error ()⟩], exchange_answers_iff.mpr ⟨_, rfl, rfl⟩,
        servedBy_singleton.mpr (delivers_iff.mpr (.inl ⟨rfl, rfl⟩))⟩
    | cut hreport =>
      refine ⟨[⟨post, .error ()⟩], exchange_answers_iff.mpr ⟨_, rfl, rfl⟩,
        servedBy_singleton.mpr (delivers_iff.mpr (.inr ⟨_, _, false,
          hanswers.mpr ⟨_, hreport, rfl⟩, rfl, rfl⟩))⟩
    | told hreport =>
      refine ⟨[⟨post, .ok (200, ⟨bytes (encode o), some (encode o)⟩)⟩],
        exchange_answers_iff.mpr ⟨_, rfl, by rw [hexchanged]⟩,
        servedBy_singleton.mpr (delivers_iff.mpr (.inr ⟨_, _, true,
          hanswers.mpr ⟨_, hreport, rfl⟩, rfl, rfl⟩))⟩

end Exchange

/-! ## 3. The three probes -/

/-- What the client of a probe finds: nothing without a loopback address, and otherwise by one
    post to it, from what the runner there reports. -/
def Probed {α : Type} (runner : ProviderRunner) (path : String) (body : Json)
    (report : SocketAddr → Browsing α) (unavailable refused : α) (es : HopLog) (o : α) : Prop :=
  match runner.loopbackTcpAddress with
  | none => es = [] ∧ o = unavailable
  | some address => Found ⟨address, path, body⟩ (report address) refused es o

section Clients
variable {bytes : Json → Nat} {text : SocketAddr → String}
  {others : Post → Browsing (Nat × ReplyBody)} {services : SocketAddr → AttachedService}
  {runner : ProviderRunner} {es : HopLog}

/-- **A manual login is opened, to its client, exactly if the runner's browser went to the
    page.** -/
theorem manualLogin_exact {r : Except DomainError ManualLoginOutcome} :
    (Client.over runner.requestManualLoginWith (appAt bytes text others services)).Answers es r ↔
      ∃ o, r = .ok o ∧ Probed runner "/v1/login"
        (ProbeRequest.toJson ⟨loginRunnerProtocolVersion, runner.platform⟩)
        (fun address => (services address).loginReport text runner.platform)
        .unavailable .rejected es o := by
  unfold ProviderRunner.requestManualLoginWith Probed
  cases runner.loopbackTcpAddress with
  | none =>
    rw [over_pure]
    exact ⟨fun h => ⟨_, h.2, h.1, rfl⟩, fun ⟨o, hr, he, ho⟩ => ⟨he, ho ▸ hr⟩⟩
  | some address =>
    have hversion : loginRunnerProtocolVersion < 65536 := by decide
    refine exchange_found bytes
      (fun o => (AttachedService.loginResponse runner.platform o).toJson) ?_ fun o => ?_
    · exact app_login.trans (endpoint_reports (ProbeRequest.fromJson_toJson hversion)
        (AttachedService.login_reports runner.platform))
    · refine ⟨AttachedService.loginResponse runner.platform o,
        LoginRunnerResponse.fromJson_toJson ?_, ?_⟩
      · cases o <;> exact hversion
      · cases o <;> simp [AttachedService.loginResponse, LoginRunnerResponse.intoManualLogin]

/-- **An account is ready, to the client of a probe, exactly if the runner's browser showed the
    upload form.** -/
theorem accountReadiness_exact {r : Except DomainError AccountReadiness} :
    (Client.over runner.accountReadinessWith (appAt bytes text others services)).Answers es r ↔
      ∃ o, r = .ok o ∧ Probed runner "/v1/account-status"
        (ProbeRequest.toJson ⟨accountStatusRunnerProtocolVersion, runner.platform⟩)
        (fun address => (services address).readinessReport text runner.platform)
        .unavailable .rejected es o := by
  unfold ProviderRunner.accountReadinessWith Probed
  cases runner.loopbackTcpAddress with
  | none =>
    rw [over_pure]
    exact ⟨fun h => ⟨_, h.2, h.1, rfl⟩, fun ⟨o, hr, he, ho⟩ => ⟨he, ho ▸ hr⟩⟩
  | some address =>
    have hversion : accountStatusRunnerProtocolVersion < 65536 := by decide
    refine exchange_found bytes (fun o => StatusResponse.toJson
      AccountReadiness.tag ⟨o, accountStatusRunnerProtocolVersion, runner.platform⟩) ?_ fun o => ?_
    · exact app_accountStatus.trans (endpoint_reports (ProbeRequest.fromJson_toJson hversion)
        (AttachedService.accountStatus_reports runner.platform))
    · exact ⟨_, StatusResponse.fromJson_toJson hversion (accountStatus_tag o),
        if_pos ⟨rfl, rfl⟩⟩

/-- The request of a review probe. -/
def reviewRequest (title : String) : ReviewStatusRunnerRequest :=
  ⟨reviewStatusRunnerProtocolVersion, .fanqieVideo, normalizeReviewTitleQuery title⟩

/-- What the client of a review probe finds: it is refused at once for another platform and for a
    title that is blank or too long. -/
def ReviewProbed (text : SocketAddr → String) (services : SocketAddr → AttachedService)
    (runner : ProviderRunner) (title : String) (es : HopLog) (o : ReviewStatus) : Prop :=
  if runner.platform ≠ .fanqieVideo ∨ (reviewRequest title).validate = false then
    es = [] ∧ o = .rejected
  else
    Probed runner "/v1/review-status" (reviewRequest title).toJson
      (fun address => (services address).reviewReport text (normalizeReviewTitleQuery title))
      .unavailable .rejected es o

/-- **A video has a review status, to the client of a probe, exactly if the page of the runner's
    browser showed it.** -/
theorem reviewStatus_exact {title : String} {r : Except DomainError ReviewStatus} :
    (Client.over (runner.fanqieReviewStatusWith title)
        (appAt bytes text others services)).Answers es r ↔
      ∃ o, r = .ok o ∧ ReviewProbed text services runner title es o := by
  unfold ProviderRunner.fanqieReviewStatusWith ReviewProbed
  change (Client.over (if runner.platform ≠ .fanqieVideo ∨ (reviewRequest title).validate = false
    then _ else _) _).Answers es r ↔ _
  by_cases hrefused : runner.platform ≠ .fanqieVideo ∨ (reviewRequest title).validate = false
  · rw [if_pos hrefused]
    simp only [if_pos hrefused]
    rw [over_pure]
    exact ⟨fun h => ⟨_, h.2, h.1, rfl⟩, fun ⟨o, hr, he, ho⟩ => ⟨he, ho ▸ hr⟩⟩
  · rw [if_neg hrefused]
    simp only [if_neg hrefused]
    have hvalid : (reviewRequest title).validate = true := by
      rw [not_or, Bool.not_eq_false] at hrefused
      exact hrefused.2
    unfold Probed
    cases runner.loopbackTcpAddress with
    | none =>
      dsimp only
      rw [over_pure]
      exact ⟨fun h => ⟨_, h.2, h.1, rfl⟩, fun ⟨o, hr, he, ho⟩ => ⟨he, ho ▸ hr⟩⟩
    | some address =>
      have hversion : reviewStatusRunnerProtocolVersion < 65536 := by decide
      refine exchange_found bytes (fun o => StatusResponse.toJson
        ReviewStatus.tag ⟨o, reviewStatusRunnerProtocolVersion, .fanqieVideo⟩) ?_ fun o => ?_
      · exact app_reviewStatus.trans (endpoint_reports
          (ReviewStatusRunnerRequest.fromJson_toJson hversion)
          (AttachedService.reviewStatus_reports hvalid))
      · exact ⟨_, StatusResponse.fromJson_toJson hversion (reviewStatus_tag o),
          if_pos ⟨rfl, rfl⟩⟩

end Clients

end MatriXpost
