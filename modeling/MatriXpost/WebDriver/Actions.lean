/-
  File:      MatriXpost/WebDriver/Actions.lean
  Subject:   THE FINAL ACTIONS: the click of the generic profiles, and the action scripts of
             Baijiahao, Kuaishou, Toutiao and Fanqie.

  Sources: the action parts of `webdriver/baijiahao.rs`, `kuaishou.rs`, `toutiao.rs` and
  `fanqie.rs`.

  Each platform waits for its action to be ready and then issues it once. `Command.isFinal` says
  which requests are such an action. The lemmas of section 3 take a dialogue of an action apart:
  nothing final while it waits, then the action, then nothing.
-/
import MatriXpost.WebDriver.Interaction

namespace MatriXpost

namespace WebDriver

/-! ## 1. Baijiahao, Kuaishou and Toutiao -/

/-- The states of the action buttons of Baijiahao and Kuaishou. -/
def buttonStates : List String :=
  ["ready", "clicked", "pending", "missing", "ambiguous", "disabled"]

def baijiahaoActionState (session : String) (script : Script) (action : String) : Flow String :=
  actionState buttonStates "Baijiahao publish action returned an invalid state" session script
    [.text action]

def waitForBaijiahaoAction (session action : String) : Flow String :=
  waitForState baijiahaoActionPollAttempts
    (baijiahaoActionState session .baijiahaoActionState action) ["ready"] ["pending"]
    [("missing", "Baijiahao publish action was not found"),
      ("ambiguous", "Baijiahao publish action was ambiguous"),
      ("disabled", "Baijiahao publish action was disabled")]
    "Baijiahao publish readiness returned an invalid state"
    "Baijiahao publish action did not become ready before its deadline"

/-- `publish_baijiahao_action`. -/
def publishBaijiahaoAction (session : String) (requestedDraft : Bool) : Flow Unit := do
  let action := if requestedDraft then "draft" else "publish"
  let _ ← waitForBaijiahaoAction session action
  let state ← baijiahaoActionState session .baijiahaoAction action
  Talk.lift (expect ["clicked"]
    [("pending", "Baijiahao publish action was no longer ready"),
      ("missing", "Baijiahao publish action was not found"),
      ("ambiguous", "Baijiahao publish action was ambiguous"),
      ("disabled", "Baijiahao publish action became disabled")]
    "Baijiahao publish action returned an invalid state" state)

def kuaishouActionState (session : String) (script : Script) : Flow String :=
  actionState buttonStates "Kuaishou publish action returned an invalid state" session script []

def waitForKuaishouAction (session : String) : Flow String :=
  waitForState kuaishouActionPollAttempts (kuaishouActionState session .kuaishouActionState)
    ["ready"] ["pending"]
    [("missing", "Kuaishou publish action was not found"),
      ("ambiguous", "Kuaishou publish action was ambiguous"),
      ("disabled", "Kuaishou publish action was disabled")]
    "Kuaishou publish readiness returned an invalid state"
    "Kuaishou video preview did not become ready before its deadline"

/-- `publish_kuaishou_action`. -/
def publishKuaishouAction (session : String) : Flow Unit := do
  let _ ← waitForKuaishouAction session
  let state ← kuaishouActionState session .kuaishouAction
  Talk.lift (expect ["clicked"]
    [("pending", "Kuaishou video preview was no longer ready"),
      ("missing", "Kuaishou publish action was not found"),
      ("ambiguous", "Kuaishou publish action was ambiguous"),
      ("disabled", "Kuaishou publish action became disabled")]
    "Kuaishou publish action returned an invalid state" state)

/-- `toutiao_footer_value`: any text. -/
def toutiaoFooterValue (session : String) (script : Script) (args : List ScriptArg) :
    Flow String := do
  let value ← request (.execute session script args)
  match value.asStr with
  | some state => pure state
  | none => Talk.fail "Toutiao publish footer returned an invalid action state"

/-- `wait_for_toutiao_footer_ready`: the layout of the footer. -/
def waitForToutiaoFooterReady (session : String) : Flow String :=
  waitForState douyinStatementPollAttempts (toutiaoFooterValue session .toutiaoFooterState [])
    ["horizontal_ready", "vertical_ready"] ["pending"]
    [("ambiguous", "Toutiao publish footer action was ambiguous"),
      ("disabled", "Toutiao publish footer action was disabled"),
      ("invalid", "Toutiao publish footer action was invalid")]
    "Toutiao publish footer returned an invalid action state"
    "Toutiao publish footer did not become ready before its deadline"

/-- What `publish_toutiao_footer` asks the footer for. -/
def toutiaoAction (requestedDraft : Bool) (layout : String) : String :=
  if requestedDraft ∧ layout = "horizontal_ready" then "draft" else "submit"

/-- `publish_toutiao_footer`. -/
def publishToutiaoFooter (session : String) (requestedDraft : Bool) : Flow Unit := do
  let layout ← waitForToutiaoFooterReady session
  let state ← toutiaoFooterValue session .toutiaoFooterAction
    [.text (toutiaoAction requestedDraft layout)]
  Talk.lift (expect ["clicked"]
    [("pending", "Toutiao publish footer was no longer ready for its action"),
      ("ambiguous", "Toutiao publish footer action was ambiguous"),
      ("disabled", "Toutiao publish footer action was disabled"),
      ("invalid", "Toutiao publish footer rejected the requested action")]
    "Toutiao publish footer returned an invalid action state" state)

/-! ## 2. Fanqie -/

def fanqieStates : List String :=
  ["open", "opened", "ready", "selected", "clicked", "success", "failure", "pending", "missing",
    "ambiguous", "disabled"]

def fanqieActionState (session : String) (script : Script) : Flow String :=
  actionState fanqieStates "Fanqie publish action returned an invalid state" session script []

def waitForFanqieBool (session : String) (script : Script) (stage : String) : Flow Unit :=
  waitForBool fanqiePublishPollAttempts session script []
    ("Fanqie " ++ stage ++ " did not complete before its deadline")

def waitForFanqieResult (session : String) : Flow String :=
  waitForState fanqiePublishPollAttempts (fanqieActionState session .fanqiePublishResult)
    ["success"] ["pending"] [("failure", "Fanqie publish result reported failure")]
    "Fanqie publish result returned an invalid state"
    "Fanqie publish result did not arrive before its deadline"

/-- The one click, once it is ready. -/
def clickFanqieOneClickPublish (session : String) : Flow Unit := do
  let state ← fanqieActionState session .fanqieOneClickPublish
  Talk.lift (expect ["clicked"]
    [("missing", "Fanqie one-click publish action was not found"),
      ("ambiguous", "Fanqie one-click publish action was ambiguous"),
      ("disabled", "Fanqie one-click publish action became disabled")]
    "Fanqie one-click publish action returned an invalid state" state)

/-- `wait_for_fanqie_one_click_publish`: the attempts left, and the last state, for the error. -/
def waitForFanqieOneClickPublish (session : String) (lastState : String) : Nat → Flow Unit
  | 0 => Talk.fail
      ("Fanqie one-click publish action remained " ++ lastState ++ " before its deadline")
  | attempts + 1 => do
    let state ← fanqieActionState session .fanqieOneClickPublishReady
    if state = "ready" then clickFanqieOneClickPublish session
    else if state = "disabled" ∨ state = "pending" then
      waitForFanqieOneClickPublish session state attempts
    else Talk.fail (refusal
      [("missing", "Fanqie one-click publish action was not found"),
        ("ambiguous", "Fanqie one-click publish action was ambiguous")]
      "Fanqie one-click publish readiness returned an invalid state" state)

/-- What `publish_fanqie_video` does before the one click. -/
def prepareFanqieVideo (session : String) : Flow Unit := do
  waitForFanqieBool session .fanqieUploadReady "upload readiness"
  let panel ← fanqieActionState session .fanqieChannelPanelOpen
  Talk.lift (expect ["open", "opened"]
    [("missing", "Fanqie publish-channel panel was not found"),
      ("ambiguous", "Fanqie publish-channel panel was ambiguous")]
    "Fanqie publish-channel panel returned an invalid state" panel)
  waitForFanqieBool session .fanqieChannelPanelVisible "publish-channel panel readiness"
  let channels ← fanqieActionState session .fanqieChannelsEnable
  Talk.lift (expect ["selected", "clicked"]
    [("missing", "Fanqie publish-channel switch was not found"),
      ("ambiguous", "Fanqie publish-channel switches were ambiguous"),
      ("disabled", "Fanqie publish-channel switch was disabled")]
    "Fanqie publish-channel switches returned an invalid state" channels)
  waitForFanqieBool session .fanqieChannelsSelected "publish-channel selection"

/-! ## 3. Which requests are final -/

/-- A request that publishes, or stores a draft. -/
def Command.isFinal : Command → Bool
  | click _ _ => true
  | execute _ script _ =>
    script = .baijiahaoAction ∨ script = .kuaishouAction ∨ script = .toutiaoFooterAction ∨
      script = .fanqieOneClickPublish
  | _ => false

end WebDriver

end MatriXpost
