/-
  File:      MatriXpost/WebDriver/TerminalQrAttempt.lean
  Subject:   ONE QR LOGIN ATTEMPT IN THE BROWSER: its session, its screenshots and its close.

  Source: `webdriver/terminal_qr.rs`.

  Unlike the other flows an attempt outlives the call that started it: the session is kept until
  the runner closes the attempt. It makes three requests the other flows do not (`QrCommand`);
  what it shares with them is their flows, made as requests of this kind (`ofFlow`).

  * `startLaw`: a start that fails has deleted the session it opened, one that succeeds keeps it;
  * `capture_inside`: a capture stays inside the session, and a closed attempt requests nothing;
  * `close_law`: a close is the DELETE, of an attempt that was not closed before.
-/
import MatriXpost.Lib.Through
import MatriXpost.Runner.TerminalQrPng
import MatriXpost.WebDriver.Sessions

namespace MatriXpost

namespace WebDriver

/-! ## 1. Requests -/

/-- A request of an attempt: one of the other flows', or one of its own. -/
inductive QrCommand where
  | web (c : Command)
  | findElements (session selector : String)
  | switchFrame (session : String) (frame : Option String)
  | screenshot (session element : String)
deriving DecidableEq, Repr

namespace QrCommand

def method : QrCommand → String
  | web c => c.method
  | findElements _ _ | switchFrame _ _ => "POST"
  | screenshot _ _ => "GET"

def path : QrCommand → String
  | web c => c.path
  | findElements session _ => "/session/" ++ session ++ "/elements"
  | switchFrame session _ => "/session/" ++ session ++ "/frame"
  | screenshot session element =>
    "/session/" ++ session ++ "/element/" ++ element ++ "/screenshot"

/-- A request that addresses something of this session, and does not delete it. -/
def Inside (session : String) (c : QrCommand) : Prop :=
  (∃ rest, c.path = "/session/" ++ session ++ "/" ++ rest) ∧ c.method ≠ "DELETE"

end QrCommand

abbrev QrFlow (α : Type) := Talk QrCommand (fun _ => Reply) String α

abbrev QrExchange := Called QrCommand fun _ => Reply

/-- A flow of the publisher, as one of an attempt. -/
def ofFlow {α : Type} (x : Flow α) : QrFlow α :=
  ExceptT.mk (x.run.through fun c => Prog.perform (.web c))

/-- `WebDriverPublisher::webdriver_value(self.publisher.transport.request(..)?)?`. -/
def qrRequest (c : QrCommand) : QrFlow Json := do
  let reply ← Talk.ask c
  Talk.lift (valueOf reply)

/-! ## 2. The attempt -/

def douyinLoginUrl : String :=
  "https://creator.douyin.com/creator-micro/content/post/video?enter_from=publish_page"
def wechatLoginUrl : String := "https://channels.weixin.qq.com/platform/post/create"
def douyinQrSelector : String := "#animate_qrcode_container"
def wechatLoginFrameSelector : String := "iframe[src*='login-for-iframe']"
def wechatQrSelector : String := "img.qrcode"

/-- `WebDriverTerminalQrAttempt`, without the publisher it shares. -/
structure WebDriverTerminalQrAttempt where
  session : Option String
  platform : Platform
deriving DecidableEq, Repr

/-- The one element of a reply to a lookup. -/
def uniqueElement : Json → Except String String
  | .array [element] =>
    match elementId element with
    | some id => .ok id
    | none => .error "terminal QR selector returned an invalid element"
  | .array _ => .error "terminal QR selector did not identify exactly one element"
  | _ => .error "WebDriver selector response was not an element array"

/-- The checked text of a screenshot. -/
def screenshotText (value : Json) : Except String String :=
  match value.asStr with
  | some pngBase64 => (validatePngBase64 pngBase64).map fun _ => pngBase64
  | none => .error "WebDriver element screenshot was not base64 text"

namespace WebDriverTerminalQrAttempt

/-- `self.session()`. -/
def openSession (attempt : WebDriverTerminalQrAttempt) : Except String String :=
  match attempt.session with
  | some session => .ok session
  | none => .error "terminal QR attempt is already closed"

/-- `find_unique`. -/
def findUnique (attempt : WebDriverTerminalQrAttempt) (selector : String) : QrFlow String := do
  let session ← Talk.lift attempt.openSession
  let value ← qrRequest (.findElements session selector)
  Talk.lift (uniqueElement value)

/-- `switch_to_wechat_login_frame`. -/
def switchToWechatLoginFrame (attempt : WebDriverTerminalQrAttempt) : QrFlow Unit := do
  let session ← Talk.lift attempt.openSession
  let _ ← qrRequest (.switchFrame session none)
  let frame ← attempt.findUnique wechatLoginFrameSelector
  let _ ← qrRequest (.switchFrame session (some frame))
  pure ()

/-- `screenshot_element`. -/
def screenshotElement (attempt : WebDriverTerminalQrAttempt) (element : String) :
    QrFlow String := do
  let session ← Talk.lift attempt.openSession
  let value ← qrRequest (.screenshot session element)
  Talk.lift (screenshotText value)

/-- The selector of a capture, in the frame it is looked for in. -/
def qrSelector (attempt : WebDriverTerminalQrAttempt) : QrFlow String :=
  match attempt.platform with
  | .douyin => pure douyinQrSelector
  | .wechatChannels => do
    attempt.switchToWechatLoginFrame
    pure wechatQrSelector
  | _ => Talk.fail "unsupported terminal QR platform"

/-- `capture_qr_png_base64`. -/
def captureQrPngBase64 (attempt : WebDriverTerminalQrAttempt) : QrFlow String := do
  let selector ← attempt.qrSelector
  let element ← attempt.findUnique selector
  attempt.screenshotElement element

/-- `close`. What it leaves of the attempt is `closed`. -/
def close (attempt : WebDriverTerminalQrAttempt) : QrFlow Unit :=
  match attempt.session with
  | some session => ofFlow (deleteSession session)
  | none => pure ()

/-- `self.session.take()`. -/
def closed (attempt : WebDriverTerminalQrAttempt) : WebDriverTerminalQrAttempt :=
  { attempt with session := none }

end WebDriverTerminalQrAttempt

/-- The page a login begins at. -/
def loginUrl : Platform → Except String String
  | .douyin => .ok douyinLoginUrl
  | .wechatChannels => .ok wechatLoginUrl
  | _ => .error "terminal QR login is supported only for Douyin and WeChat Channels"

/-- What a start does once the page is there. -/
def firstCapture (attempt : WebDriverTerminalQrAttempt) : QrFlow WebDriverTerminalQrAttempt := do
  match ← attempt.captureQrPngBase64.outcome with
  | .ok _ => pure attempt
  | .error _ =>
    let _ ← attempt.close.outcome
    Talk.fail "terminal QR element could not be captured"

/-- `start_terminal_qr_login`. -/
def startTerminalQrLogin (publisher : WebDriverPublisher) (platform : Platform) :
    QrFlow WebDriverTerminalQrAttempt := do
  let url ← Talk.lift (loginUrl platform)
  let session ← ofFlow (session publisher.debuggerAddress)
  match ← (ofFlow (navigate session url)).outcome with
  | .ok _ => firstCapture ⟨some session, platform⟩
  | .error e =>
    let _ ← (ofFlow (deleteSession session)).outcome
    Talk.fail e

/-! ## 3. What a capture requests -/

section Capture
variable {session : String} {attempt : WebDriverTerminalQrAttempt} {ok : QrCommand → Prop}

theorem inside_findElements (selector : String) :
    (QrCommand.findElements session selector).Inside session :=
  ⟨⟨"elements", path_split "elements"⟩, post_ne_delete⟩

theorem inside_switchFrame (frame : Option String) :
    (QrCommand.switchFrame session frame).Inside session :=
  ⟨⟨"frame", path_split "frame"⟩, post_ne_delete⟩

theorem inside_screenshot (element : String) :
    (QrCommand.screenshot session element).Inside session := by
  have hmethod : "GET" ≠ "DELETE" := by decide
  have helement : "/element/" = "/" ++ "element/" := by decide
  refine ⟨⟨"element/" ++ element ++ "/screenshot", ?_⟩, hmethod⟩
  show "/session/" ++ session ++ "/element/" ++ element ++ "/screenshot" = _
  rw [helement]
  simp only [String.append_assoc]

/-- The requests of a capture, in the session of the attempt. -/
structure PermitsCapture (ok : QrCommand → Prop) (session : String) : Prop where
  findElements : ∀ selector, ok (.findElements session selector)
  switchFrame : ∀ frame, ok (.switchFrame session frame)
  screenshot : ∀ element, ok (.screenshot session element)

theorem openSession_eq_ok (h : attempt.openSession = .ok session) :
    attempt.session = some session := by
  unfold WebDriverTerminalQrAttempt.openSession at h
  cases hsession : attempt.session with
  | some s =>
    rw [hsession] at h
    cases h
    rfl
  | none =>
    rw [hsession] at h
    cases h

theorem qrRequest_only {c : QrCommand} (h : ok c) : (qrRequest c).Only ok :=
  (Talk.only_ask h).bind fun _ => Talk.only_lift _

theorem findUnique_only (h : ∀ s, attempt.session = some s → PermitsCapture ok s)
    (selector : String) : (attempt.findUnique selector).Only ok := by
  refine Talk.Only.lift_bind fun s hs => ?_
  exact (qrRequest_only ((h s (openSession_eq_ok hs)).findElements selector)).bind
    fun _ => Talk.only_lift _

theorem screenshotElement_only (h : ∀ s, attempt.session = some s → PermitsCapture ok s)
    (element : String) : (attempt.screenshotElement element).Only ok := by
  refine Talk.Only.lift_bind fun s hs => ?_
  exact (qrRequest_only ((h s (openSession_eq_ok hs)).screenshot element)).bind
    fun _ => Talk.only_lift _

theorem switchToWechatLoginFrame_only
    (h : ∀ s, attempt.session = some s → PermitsCapture ok s) :
    attempt.switchToWechatLoginFrame.Only ok := by
  refine Talk.Only.lift_bind fun s hs => ?_
  have hframe := (h s (openSession_eq_ok hs)).switchFrame
  refine (qrRequest_only (hframe none)).bind fun _ => ?_
  refine (findUnique_only h wechatLoginFrameSelector).bind fun frame => ?_
  exact (qrRequest_only (hframe (some frame))).bind fun _ => Talk.only_pure _

theorem capture_only (h : ∀ s, attempt.session = some s → PermitsCapture ok s) :
    attempt.captureQrPngBase64.Only ok := by
  have hselector : attempt.qrSelector.Only ok := by
    unfold WebDriverTerminalQrAttempt.qrSelector
    split
    · exact Talk.only_pure _
    · exact (switchToWechatLoginFrame_only h).bind fun _ => Talk.only_pure _
    · exact Talk.only_fail _
  refine hselector.bind fun selector => ?_
  exact (findUnique_only h selector).bind fun element => screenshotElement_only h element

/-- **A capture stays inside the session of its attempt.** -/
theorem capture_inside (h : attempt.session = some session) :
    attempt.captureQrPngBase64.Only (QrCommand.Inside session) := by
  refine capture_only fun s hs => ?_
  obtain rfl : session = s := Option.some.inj (h.symm.trans hs)
  exact ⟨inside_findElements, inside_switchFrame, inside_screenshot⟩

/-- **A closed attempt requests nothing.** -/
theorem capture_closed {es : List QrExchange} {r : Except String String}
    (h : attempt.session = none) (hcapture : attempt.captureQrPngBase64.Answers es r) :
    es = [] := by
  have honly : attempt.captureQrPngBase64.Only fun _ => False := by
    refine capture_only fun s hs => ?_
    rw [h] at hs
    cases hs
  refine List.eq_nil_iff_forall_not_mem.mpr ?_
  exact honly.answers hcapture

end Capture

/-! ## 4. What a start and a close request -/

section Laws
variable {es : List QrExchange} {publisher : WebDriverPublisher} {platform : Platform}

/-- The exchange of a flow, as one of an attempt. -/
def ofExchange (c : Exchange) : QrExchange := ⟨.web c.call, c.reply⟩

theorem ofFlow_answers {α : Type} {x : Flow α} {r : Except String α} :
    (ofFlow x).Answers es r ↔ ∃ cs, x.Answers cs r ∧ es = cs.map ofExchange := by
  have hthrough : (ofFlow x).Answers es r ↔
      ∃ cs, Prog.Answers x.run cs r ∧ es = cs.map ofExchange :=
    Talk.answers_prog.symm.trans answers_perform
  rw [hthrough]
  exact exists_congr fun cs => and_congr_left fun _ => Talk.answers_prog

theorem ofFlow_done_answers {c : Command} {r : Except String Unit}
    (h : (ofFlow (done c)).Answers es r) : ∃ reply, es = [⟨.web c, reply⟩] := by
  obtain ⟨cs, hdone, rfl⟩ := ofFlow_answers.mp h
  obtain ⟨reply, rfl, -⟩ := done_answers.mp hdone
  exact ⟨reply, rfl⟩

/-- **A close is the DELETE of the session**, or nothing if there is none. -/
theorem close_law {attempt : WebDriverTerminalQrAttempt} {r : Except String Unit}
    (h : attempt.close.Answers es r) :
    match attempt.session with
    | some s => ∃ reply, es = [⟨.web (.deleteSession s), reply⟩]
    | none => es = [] := by
  unfold WebDriverTerminalQrAttempt.close at h
  cases hsession : attempt.session with
  | some s =>
    rw [hsession] at h
    exact ofFlow_done_answers h
  | none =>
    rw [hsession] at h
    exact (Talk.answers_pure.mp h).1

/-- A session that was opened, and requests inside it. -/
def OpenSession (session : String) (es : List QrExchange) : Prop :=
  ∃ debugger reply middle, es = ⟨.web (.newSession debugger), reply⟩ :: middle ∧
    sessionOf reply = some session ∧ ∀ c ∈ middle, c.call.Inside session

/-- Sessions one after the other, each with its DELETE; a request for one may be refused. -/
inductive Finished : List QrExchange → Prop
  | nil : Finished []
  | refused {es : List QrExchange} {debugger : String} {reply : Reply} :
      Finished es → sessionOf reply = none →
      Finished (es ++ [⟨.web (.newSession debugger), reply⟩])
  | deleted {es last : List QrExchange} {session : String} {reply : Reply} :
      Finished es → OpenSession session last →
      Finished (es ++ (last ++ [⟨.web (.deleteSession session), reply⟩]))

/-- More requests inside an open session. -/
theorem OpenSession.append {session : String} {es' : List QrExchange}
    (h : OpenSession session es) (hinside : ∀ c ∈ es', c.call.Inside session) :
    OpenSession session (es ++ es') := by
  obtain ⟨debugger, reply, middle, rfl, hreply, hmiddle⟩ := h
  refine ⟨debugger, reply, middle ++ es', rfl, hreply, fun c hc => ?_⟩
  rcases List.mem_append.mp hc with hc | hc
  · exact hmiddle c hc
  · exact hinside c hc

/-- What a start requests, and the attempt it gives: it keeps the session it opened, or it has
    deleted it. -/
def StartLaw (platform : Platform) (es : List QrExchange) :
    Except String WebDriverTerminalQrAttempt → Prop
  | .ok attempt => ∃ s, attempt = ⟨some s, platform⟩ ∧ OpenSession s es
  | .error _ => Finished es

theorem firstCapture_law {session : String} {opened : List QrExchange}
    {r : Except String WebDriverTerminalQrAttempt} (hopen : OpenSession session opened)
    (h : (firstCapture ⟨some session, platform⟩).Answers es r) :
    StartLaw platform (opened ++ es) r := by
  unfold firstCapture at h
  rcases Talk.answers_bind.mp h with ⟨e, houtcome, -⟩ | ⟨es₁, result, es₂, rfl, houtcome, hrest⟩
  · obtain ⟨result, -, he⟩ := Talk.answers_outcome.mp houtcome
    cases he
  obtain ⟨result', hcapture, he⟩ := Talk.answers_outcome.mp houtcome
  cases he
  have hinside := hopen.append ((capture_inside rfl).answers hcapture)
  cases result with
  | ok pngBase64 =>
    obtain ⟨rfl, rfl⟩ := Talk.answers_pure.mp hrest
    rw [List.append_nil]
    exact ⟨session, rfl, hinside⟩
  | error e =>
    rcases Talk.answers_bind.mp hrest with ⟨e', hclose, -⟩ | ⟨es₃, closed, es₄, rfl, hclose, hfail⟩
    · obtain ⟨closed, -, he⟩ := Talk.answers_outcome.mp hclose
      cases he
    · obtain ⟨closed', hclosed, -⟩ := Talk.answers_outcome.mp hclose
      obtain ⟨reply, rfl⟩ := close_law hclosed
      obtain ⟨rfl, rfl⟩ := Talk.answers_fail.mp hfail
      rw [List.append_nil, ← List.append_assoc]
      exact .deleted .nil hinside

/-- **A start that fails leaves no session behind, and one that succeeds leaves its own.** -/
theorem startLaw {r : Except String WebDriverTerminalQrAttempt}
    (h : (startTerminalQrLogin publisher platform).Answers es r) : StartLaw platform es r := by
  unfold startTerminalQrLogin at h
  rcases Talk.answers_lift_bind.mp h with ⟨e, -, rfl, rfl⟩ | ⟨url, -, h⟩
  · exact .nil
  rcases Talk.answers_bind.mp h with ⟨e, hsession, rfl⟩ | ⟨es₁, s, es₂, rfl, hsession, hrest⟩
  · obtain ⟨cs, hopens, rfl⟩ := ofFlow_answers.mp hsession
    obtain ⟨reply, rfl, hreply⟩ := session_answers hopens
    exact .refused .nil hreply.symm
  obtain ⟨cs, hopens, rfl⟩ := ofFlow_answers.mp hsession
  obtain ⟨reply, rfl, hreply⟩ := session_answers hopens
  have hopened : OpenSession s [⟨.web (.newSession publisher.debuggerAddress), reply⟩] :=
    ⟨_, reply, [], rfl, hreply.symm, fun c hc => absurd hc List.not_mem_nil⟩
  rcases Talk.answers_bind.mp hrest with ⟨e, houtcome, -⟩ | ⟨es₃, result, es₄, rfl, houtcome, hrest⟩
  · obtain ⟨result, -, he⟩ := Talk.answers_outcome.mp houtcome
    cases he
  obtain ⟨result', hnavigate, he⟩ := Talk.answers_outcome.mp houtcome
  cases he
  obtain ⟨reply', rfl⟩ := ofFlow_done_answers hnavigate
  have hpage : OpenSession s ([⟨.web (.newSession publisher.debuggerAddress), reply⟩] ++
      [⟨.web (.navigate s url), reply'⟩]) := by
    refine hopened.append fun c hc => ?_
    rw [List.mem_singleton.mp hc]
    exact inside_navigate url
  cases result with
  | ok u =>
    have hcaptured := firstCapture_law hpage hrest
    rwa [List.append_assoc] at hcaptured
  | error e =>
    rcases Talk.answers_bind.mp hrest with ⟨e', hdelete, -⟩ | ⟨es₅, u, es₆, rfl, hdelete, hfail⟩
    · obtain ⟨closed, -, he⟩ := Talk.answers_outcome.mp hdelete
      cases he
    · obtain ⟨closed, hdelete, -⟩ := Talk.answers_outcome.mp hdelete
      obtain ⟨reply'', rfl⟩ := ofFlow_done_answers hdelete
      obtain ⟨rfl, rfl⟩ := Talk.answers_fail.mp hfail
      rw [List.append_nil, ← List.append_assoc]
      exact .deleted .nil hpage

end Laws

end WebDriver

end MatriXpost
