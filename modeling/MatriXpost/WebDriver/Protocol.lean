/-
  File:      MatriXpost/WebDriver/Protocol.lean
  Subject:   THE WEBDRIVER REQUESTS OF THE RUNNER, and the primitives its flows are made of.

  Sources: `webdriver/primitives.rs`, `webdriver/model.rs` and the names of the page scripts of
  `profiles/`.

  A flow is a program over one call, the request to the WebDriver. The reply is whatever the
  transport gives it: an error, or a JSON document. A page script is known by its name; what it
  answers is the page's.

  * `find_once` answers no element for an absent element and for every failure;
  * `withSession` is the frame of all flows: a session, the phases, and the DELETE;
  * `find_only`, `input_only`, ... say what each primitive requests.
-/
import MatriXpost.Lib.Dialogue
import MatriXpost.Core.Json

namespace MatriXpost

namespace WebDriver

/-! ## 1. Requests -/

/-- The scripts the runner executes in a page. -/
inductive Script where
  | visible | codemirrorWrite
  | wechatProductTypeReady | wechatProductOpenChooser | wechatProductDialogVisible
  | wechatProductSearch | wechatProductExactRow | wechatProductSelectExact
  | wechatProductAddReady | wechatProductAdd | wechatProductAttached
  | wechatCreativeStatementOpen | wechatCreativeStatementSelect | wechatUploadReadyState
  | wechatOriginalEntry | wechatOriginalAnyDialogVisible | wechatOriginalProtocolDialogVisible
  | wechatOriginalProtocolConfirm | wechatOriginalProtocolDialogGone
  | wechatOriginalDeclarationDialogVisible | wechatOriginalConfirm
  | wechatOriginalDeclarationDialogGone
  | douyinStatementOpen | douyinStatementDialogVisible | douyinStatementSelect
  | douyinStatementConfirm | douyinStatementDialogGone | douyinPreviewState
  | douyinSavePermissionState | douyinSavePermissionAction
  | baijiahaoStatementOpen | baijiahaoStatementDialogVisible | baijiahaoStatementSelect
  | baijiahaoStatementConfirm | baijiahaoStatementDialogGone | baijiahaoActionState
  | baijiahaoAction
  | bilibiliStatementOpen | bilibiliStatementListVisible | bilibiliStatementSelect
  | bilibiliStatementListGone | bilibiliTagSubmit | bilibiliTagCommitted
  | bilibiliUploadReadyState
  | kuaishouStatementOpen | kuaishouStatementListVisible | kuaishouStatementSelect
  | kuaishouStatementApplied | kuaishouActionState | kuaishouAction
  | toutiaoStatementSelected | toutiaoStatementSelect | toutiaoFooterState | toutiaoFooterAction
  | xiaohongshuStatementOpen | xiaohongshuStatementListVisible | xiaohongshuStatementSelect
  | xiaohongshuStatementApplied | xiaohongshuPkCoverState | xiaohongshuPkCoverClose
  | fanqieReviewStatus | fanqieUploadReady | fanqieChannelPanelOpen | fanqieChannelPanelVisible
  | fanqieChannelsEnable | fanqieChannelsSelected | fanqieOneClickPublishReady
  | fanqieOneClickPublish | fanqiePublishResult
deriving DecidableEq, Repr

/-- An argument of a script: a text, or an element of the page. -/
inductive ScriptArg where
  | text (value : String)
  | element (id : String)
deriving DecidableEq, Repr

/-- A request to the WebDriver. -/
inductive Command where
  | newSession (debuggerAddress : String)
  | deleteSession (session : String)
  | findElement (session selector : String)
  | navigate (session url : String)
  | sendKeys (session element text : String)
  | click (session element : String)
  | execute (session : String) (script : Script) (args : List ScriptArg)
deriving DecidableEq, Repr

namespace Command

def method : Command → String
  | deleteSession _ => "DELETE"
  | _ => "POST"

def path : Command → String
  | newSession _ => "/session"
  | deleteSession session => "/session/" ++ session
  | findElement session _ => "/session/" ++ session ++ "/element"
  | navigate session _ => "/session/" ++ session ++ "/url"
  | sendKeys session element _ => "/session/" ++ session ++ "/element/" ++ element ++ "/value"
  | click session element => "/session/" ++ session ++ "/element/" ++ element ++ "/click"
  | execute session _ _ => "/session/" ++ session ++ "/execute/sync"

end Command

/-- What the transport gives for a request. -/
abbrev Reply := Except String Json

/-- A program of WebDriver requests that may fail with a text. -/
abbrev Flow (α : Type) := Talk Command (fun _ => Reply) String α

/-- A request and its reply. -/
abbrev Exchange := Called Command fun _ => Reply

/-! ## 2. Primitives -/

def elementKey : String := "element-6066-11e4-a52e-4f735466cecf"

def elementPollAttempts : Nat := 3

/-- `webdriver_value`. -/
def webdriverValue (reply : Json) : Except String Json :=
  match reply.get "value" with
  | some value => .ok value
  | none => .error "WebDriver response omitted value"

/-- `Self::webdriver_value(self.transport.request(..)?)`. -/
def valueOf (reply : Reply) : Except String Json := reply.bind webdriverValue

/-- A request, and the value of its reply. -/
def request (c : Command) : Flow Json := do
  let reply ← Talk.ask c
  Talk.lift (valueOf reply)

def sessionId (value : Json) : Option String :=
  ((value.get "sessionId").bind Json.asStr).or ((value.get "session_id").bind Json.asStr)

/-- `session`. -/
def session (debuggerAddress : String) : Flow String := do
  let value ← request (.newSession debuggerAddress)
  match sessionId value with
  | some session => pure session
  | none => Talk.fail "WebDriver did not create a session"

def elementId (value : Json) : Option String :=
  ((value.get elementKey).bind Json.asStr).or ((value.get "ELEMENT").bind Json.asStr)

/-- The element a lookup found, as far as its reply says. -/
def foundIn (reply : Reply) : Option String := (valueOf reply).toOption.bind elementId

/-- `find_once`: a failed lookup finds nothing. -/
def findOnce (session selector : String) : Flow (Option String) := do
  let reply ← Talk.ask (.findElement session selector)
  pure (foundIn reply)

/-- One pass over the selectors. -/
def findFirst (session : String) : List String → Flow (Option String)
  | [] => pure none
  | selector :: rest => do
    match ← findOnce session selector with
    | some element => pure (some element)
    | none => findFirst session rest

/-- `find`. -/
def find (session : String) (selectors : List String) : Flow String :=
  Talk.poll (findFirst session selectors)
    (Talk.fail "no supported selector matched the current platform page") elementPollAttempts

/-- `.map(|_| ())`. -/
def done (c : Command) : Flow Unit := do
  let _ ← request c
  pure ()

def navigate (session url : String) : Flow Unit := done (.navigate session url)

def input (session : String) (selectors : List String) (text : String) : Flow Unit := do
  let element ← find session selectors
  done (.sendKeys session element text)

def click (session : String) (selectors : List String) : Flow Unit := do
  let element ← find session selectors
  done (.click session element)

def deleteSession (session : String) : Flow Unit := done (.deleteSession session)

/-- A boolean answer, or an error. -/
def boolean (value : Json) (invalid : String) : Except String Bool :=
  match value.asBoolean with
  | some b => .ok b
  | none => .error invalid

def executeBool (session : String) (script : Script) (args : List ScriptArg) : Flow Bool := do
  let value ← request (.execute session script args)
  Talk.lift (boolean value "WebDriver shadow-root action did not return a boolean")

def isVisible (session element : String) : Flow Bool := do
  let value ← request (.execute session .visible [.element element])
  Talk.lift (boolean value "WebDriver visibility script did not return a boolean")

/-- `success_marker_visible`, over the success selectors of a profile. -/
def successMarkerVisible (session : String) : List String → Flow Bool
  | [] => pure false
  | selector :: rest => do
    match ← findOnce session selector with
    | none => successMarkerVisible session rest
    | some element =>
      if ← isVisible session element then pure true else successMarkerVisible session rest

/-- `wait_for_success_transition`, and the article's. -/
def waitForSuccessTransition (attempts : Nat) (session : String) (success : List String)
    (late : String) : Flow Unit :=
  Talk.poll (do if ← successMarkerVisible session success then pure (some ()) else pure none)
    (Talk.fail late) attempts

/-- The frame of every flow: a session, its phases, and the DELETE, whatever the phases gave. -/
def withSession {α : Type} (debuggerAddress : String) (phases : String → Flow α) : Flow α := do
  let session ← session debuggerAddress
  (phases session).withCleanup (deleteSession session)

/-! ## 3. What the primitives request -/

section Only
variable {ok : Command → Prop} {session : String} {selectors : List String}

theorem request_only {c : Command} (h : ok c) : (request c).Only ok :=
  (Talk.only_ask h).bind fun _ => Talk.only_lift _

theorem done_only {c : Command} (h : ok c) : (done c).Only ok :=
  (request_only h).bind fun _ => Talk.only_pure _

theorem findOnce_only {selector : String} (h : ok (.findElement session selector)) :
    (findOnce session selector).Only ok := (Talk.only_ask h).bind fun _ => Talk.only_pure _

theorem findFirst_only (h : ∀ selector ∈ selectors, ok (.findElement session selector)) :
    (findFirst session selectors).Only ok := by
  induction selectors with
  | nil => exact Talk.only_pure _
  | cons selector rest ih =>
    refine (findOnce_only (h selector List.mem_cons_self)).bind fun found => ?_
    cases found with
    | some element => exact Talk.only_pure _
    | none => exact ih fun s hs => h s (List.mem_cons_of_mem selector hs)

theorem find_only (h : ∀ selector ∈ selectors, ok (.findElement session selector)) :
    (find session selectors).Only ok := (findFirst_only h).poll (Talk.only_fail _) _

theorem input_only {text : String} (h : ∀ selector ∈ selectors, ok (.findElement session selector))
    (hkeys : ∀ element, ok (.sendKeys session element text)) :
    (input session selectors text).Only ok :=
  (find_only h).bind fun element => done_only (hkeys element)

theorem click_only (h : ∀ selector ∈ selectors, ok (.findElement session selector))
    (hclick : ∀ element, ok (.click session element)) : (click session selectors).Only ok :=
  (find_only h).bind fun element => done_only (hclick element)

theorem executeBool_only {script : Script} {args : List ScriptArg}
    (h : ok (.execute session script args)) : (executeBool session script args).Only ok :=
  (request_only h).bind fun _ => Talk.only_lift _

theorem isVisible_only {element : String}
    (h : ok (.execute session .visible [.element element])) :
    (isVisible session element).Only ok := (request_only h).bind fun _ => Talk.only_lift _

theorem successMarkerVisible_only {success : List String}
    (h : ∀ selector ∈ success, ok (.findElement session selector))
    (hvisible : ∀ element, ok (.execute session .visible [.element element])) :
    (successMarkerVisible session success).Only ok := by
  induction success with
  | nil => exact Talk.only_pure _
  | cons selector rest ih =>
    have hrest := ih fun s hs => h s (List.mem_cons_of_mem selector hs)
    refine (findOnce_only (h selector List.mem_cons_self)).bind fun found => ?_
    cases found with
    | none => exact hrest
    | some element =>
      refine (isVisible_only (hvisible element)).bind fun visible => ?_
      cases visible with
      | true => exact Talk.only_pure _
      | false => exact hrest

theorem waitForSuccessTransition_only {success : List String} {attempts : Nat} {late : String}
    (h : ∀ selector ∈ success, ok (.findElement session selector))
    (hvisible : ∀ element, ok (.execute session .visible [.element element])) :
    (waitForSuccessTransition attempts session success late).Only ok := by
  refine Talk.Only.poll ((successMarkerVisible_only h hvisible).bind fun visible => ?_)
    (Talk.only_fail _) _
  cases visible with
  | true => exact Talk.only_pure _
  | false => exact Talk.only_pure _

end Only

end WebDriver

end MatriXpost
