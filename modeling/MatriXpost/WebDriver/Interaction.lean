/-
  File:      MatriXpost/WebDriver/Interaction.lean
  Subject:   THE METADATA PHASES OF THE PLATFORMS: everything between the upload and the final
             action.

  Sources: `webdriver/interaction.rs`, `wechat.rs`, `douyin.rs`, `bilibili.rs`, `xiaohongshu.rs`,
  and the declaration and metadata parts of `baijiahao.rs`, `kuaishou.rs`, `toutiao.rs`.

  The phases are made of four steps: a script that has to answer `true`, a bounded wait for one
  that does, a script that answers a state, and a bounded wait for a state. An answer that is no
  listed state is an error of its own.

  * `prepares`: the scripts a phase before the final action may execute;
  * every phase executes such scripts only (`attachWechatProduct_only` and so on).
-/
import MatriXpost.WebDriver.Profiles

namespace MatriXpost

namespace WebDriver

/-! ## 1. Steps -/

/-- A boolean script that has to answer `true`. -/
def require (session : String) (script : Script) (args : List ScriptArg) (refused : String) :
    Flow Unit := do
  if ← executeBool session script args then pure () else Talk.fail refused

/-- A bounded wait for a boolean script. -/
def waitForBool (attempts : Nat) (session : String) (script : Script) (args : List ScriptArg)
    (late : String) : Flow Unit :=
  Talk.poll (do if ← executeBool session script args then pure (some ()) else pure none)
    (Talk.fail late) attempts

/-- A script that answers one of the listed states. -/
def actionState (states : List String) (invalid : String) (session : String) (script : Script)
    (args : List ScriptArg) : Flow String := do
  let value ← request (.execute session script args)
  match value.asStr with
  | some state => if state ∈ states then pure state else Talk.fail invalid
  | none => Talk.fail invalid

/-- The error of a state, or the one for all others. -/
def refusal (errors : List (String × String)) (invalid state : String) : String :=
  match errors.find? fun row => row.1 = state with
  | some (_, error) => error
  | none => invalid

/-- A state that is accepted, or its error. -/
def expect (accepted : List String) (errors : List (String × String)) (invalid state : String) :
    Except String Unit :=
  if state ∈ accepted then .ok () else .error (refusal errors invalid state)

/-- A bounded wait for one of the accepted states. -/
def waitForState (attempts : Nat) (read : Flow String) (accepted waiting : List String)
    (errors : List (String × String)) (invalid late : String) : Flow String :=
  Talk.poll (do
    let state ← read
    if state ∈ accepted then pure (some state)
    else if state ∈ waiting then pure none
    else Talk.fail (refusal errors invalid state))
    (Talk.fail late) attempts

/-! ## 2. WeChat Channels -/

def waitForWechatShadowAction (session : String) (script : Script) (args : List ScriptArg) :
    Flow Unit :=
  waitForBool wechatShadowActionPollAttempts session script args
    "WeChat shadow-root action did not complete before its deadline"

/-- An action that may not become available. -/
def waitForOptionalWechatShadowAction (session : String) (script : Script) : Flow Bool :=
  Talk.poll (do if ← executeBool session script [] then pure (some true) else pure none)
    (pure false) wechatShadowActionPollAttempts

def attachWechatProduct (session productId : String) : Flow Unit := do
  waitForWechatShadowAction session .wechatProductTypeReady []
  require session .wechatProductOpenChooser [] "WeChat product chooser could not be opened"
  waitForWechatShadowAction session .wechatProductDialogVisible []
  require session .wechatProductSearch [.text productId]
    "WeChat product search could not be started"
  waitForWechatShadowAction session .wechatProductExactRow [.text productId]
  require session .wechatProductSelectExact [.text productId]
    "WeChat product could not be selected"
  waitForWechatShadowAction session .wechatProductAddReady []
  require session .wechatProductAdd [] "WeChat product could not be added"
  waitForWechatShadowAction session .wechatProductAttached []

def applyWechatCreativeStatement (session label : String) : Flow Unit := do
  require session .wechatCreativeStatementOpen []
    "WeChat creative-statement selector could not be opened"
  waitForWechatShadowAction session .wechatCreativeStatementSelect [.text label]

/-- The declaration dialog, once it is there. -/
def confirmWechatOriginal (session : String) : Flow Unit := do
  waitForWechatShadowAction session .wechatOriginalConfirm []
  waitForWechatShadowAction session .wechatOriginalDeclarationDialogGone []

def tryDeclareWechatOriginal (session : String) : Flow Unit := do
  if ← executeBool session .wechatOriginalEntry [] then
    if ← waitForOptionalWechatShadowAction session .wechatOriginalAnyDialogVisible then
      if ← executeBool session .wechatOriginalProtocolDialogVisible [] then
        waitForWechatShadowAction session .wechatOriginalProtocolConfirm []
        waitForWechatShadowAction session .wechatOriginalProtocolDialogGone []
        if ← waitForOptionalWechatShadowAction session .wechatOriginalDeclarationDialogVisible then
          confirmWechatOriginal session
        else pure ()
      else
        require session .wechatOriginalDeclarationDialogVisible []
          "WeChat original-declaration dialog state changed unexpectedly"
        confirmWechatOriginal session
    else pure ()
  else pure ()

def wechatUploadState (session : String) : Flow String :=
  actionState ["ready", "pending", "ambiguous", "invalid"]
    "WeChat upload processing returned an invalid state" session .wechatUploadReadyState []

def waitForWechatUploadReady (session : String) : Flow String :=
  waitForState wechatUploadReadyPollAttempts (wechatUploadState session) ["ready"] ["pending"]
    [("ambiguous", "WeChat upload processing was ambiguous"),
      ("invalid", "WeChat upload processing was invalid")]
    "WeChat upload processing returned an invalid state"
    "WeChat upload processing did not become ready before its deadline"

/-! ## 3. Declarations -/

def waitForStatementAction (session : String) (script : Script) (args : List ScriptArg) :
    Flow Unit :=
  waitForBool douyinStatementPollAttempts session script args
    "creative-statement action did not complete before its deadline"

/-- What the declaration selectors have in common: open, wait for the options, choose one. -/
def chooseStatement (session label : String) (opening options choosing : Script)
    (notOpened notSelected : String) : Flow Unit := do
  require session opening [] notOpened
  waitForStatementAction session options [.text label]
  require session choosing [.text label] notSelected

def applyBilibiliCreativeStatement (session label : String) : Flow Unit := do
  chooseStatement session label .bilibiliStatementOpen .bilibiliStatementListVisible
    .bilibiliStatementSelect "Bilibili creative-statement selector could not be opened"
    "Bilibili creative-statement option could not be selected"
  waitForStatementAction session .bilibiliStatementListGone [.text label]

def applyKuaishouCreativeStatement (session label : String) : Flow Unit := do
  chooseStatement session label .kuaishouStatementOpen .kuaishouStatementListVisible
    .kuaishouStatementSelect "Kuaishou creative-statement selector could not be opened"
    "Kuaishou creative-statement option could not be selected"
  waitForStatementAction session .kuaishouStatementApplied [.text label]

def applyBaijiahaoCreativeStatement (session label : String) : Flow Unit := do
  chooseStatement session label .baijiahaoStatementOpen .baijiahaoStatementDialogVisible
    .baijiahaoStatementSelect "Baijiahao creative-statement selector could not be opened"
    "Baijiahao creative-statement option could not be selected"
  require session .baijiahaoStatementConfirm [.text label]
    "Baijiahao creative-statement confirmation was unavailable"
  waitForStatementAction session .baijiahaoStatementDialogGone [.text label]

def applyDouyinAutonomousStatement (session label : String) : Flow Unit := do
  chooseStatement session label .douyinStatementOpen .douyinStatementDialogVisible
    .douyinStatementSelect "Douyin autonomous-statement selector could not be opened"
    "Douyin autonomous-statement option could not be selected"
  require session .douyinStatementConfirm [.text label]
    "Douyin autonomous-statement confirmation was unavailable"
  waitForStatementAction session .douyinStatementDialogGone [.text label]

/-- `xiaohongshu_statement_is_applied`. -/
def xiaohongshuStatementIsApplied (session label : String) : Flow Bool := do
  let proof ← actionState ["description", "placeholder", "prompt", "open", "pending"]
    "Xiaohongshu creative-statement proof was invalid" session .xiaohongshuStatementApplied
    [.text label]
  pure (proof = "description" ∨ proof = "placeholder")

def waitForXiaohongshuStatement (session label : String) : Flow Unit :=
  Talk.poll (do
    if ← xiaohongshuStatementIsApplied session label then pure (some ()) else pure none)
    (Talk.fail "Xiaohongshu creative-statement action did not complete before its deadline")
    douyinStatementPollAttempts

def applyXiaohongshuCreativeStatement (session label : String) : Flow Unit := do
  chooseStatement session label .xiaohongshuStatementOpen .xiaohongshuStatementListVisible
    .xiaohongshuStatementSelect "Xiaohongshu creative-statement selector could not be opened"
    "Xiaohongshu creative-statement option could not be selected"
  waitForXiaohongshuStatement session label

/-- `select_toutiao_statement`: whether the label was selected before. -/
def selectToutiaoStatement (session label : String) : Flow Bool := do
  let state ← actionState ["selected", "clicked", "missing", "ambiguous", "disabled", "unverified"]
    "Toutiao video-source checkbox returned an invalid action state" session
    .toutiaoStatementSelect [.text label]
  Talk.lift (expect ["selected", "clicked"]
    [("missing", "Toutiao video-source checkbox was not found"),
      ("ambiguous", "Toutiao video-source checkbox was ambiguous"),
      ("disabled", "Toutiao video-source checkbox was disabled"),
      ("unverified", "Toutiao video-source checkbox did not become selected")]
    "Toutiao video-source checkbox returned an invalid action state" state)
  pure (state = "selected")

def applyToutiaoCreativeStatement (session label : String) : Flow Unit := do
  if ← executeBool session .toutiaoStatementSelected [.text label] then pure ()
  else if ← selectToutiaoStatement session label then pure ()
  else waitForStatementAction session .toutiaoStatementSelected [.text label]

/-- The declaration of a platform. -/
def applyCreativeStatement (platform : Platform) (session label : String) : Flow Unit :=
  match platform with
  | .wechatChannels => applyWechatCreativeStatement session label
  | .douyin => applyDouyinAutonomousStatement session label
  | .baijiahao => applyBaijiahaoCreativeStatement session label
  | .bilibili => applyBilibiliCreativeStatement session label
  | .kuaishou => applyKuaishouCreativeStatement session label
  | .toutiao => applyToutiaoCreativeStatement session label
  | .xiaohongshu => applyXiaohongshuCreativeStatement session label
  | .fanqieVideo => pure ()

/-! ## 4. Bilibili, Kuaishou, Douyin and Xiaohongshu -/

def bilibiliUploadState (session : String) : Flow String :=
  actionState ["ready", "pending", "ambiguous"]
    "Bilibili upload processing returned an invalid state" session .bilibiliUploadReadyState []

def waitForBilibiliUploadReady (session : String) : Flow String :=
  waitForState bilibiliUploadReadyPollAttempts (bilibiliUploadState session) ["ready"] ["pending"]
    [("ambiguous", "Bilibili upload processing was ambiguous")]
    "Bilibili upload processing returned an invalid state"
    "Bilibili upload processing did not become ready before its deadline"

/-- The loop of `input_bilibili_tags`. -/
def inputBilibiliTagList (session : String) : List String → Flow Unit
  | [] => pure ()
  | tag :: rest => do
    if trim tag = "" then Talk.fail "Bilibili tags must not be empty"
    else do
      require session .bilibiliTagSubmit [.text (trim tag)]
        "Bilibili tag input was unavailable or disabled"
      waitForStatementAction session .bilibiliTagCommitted []
      inputBilibiliTagList session rest

def inputBilibiliTags (session : String) (request : PublishRequest) : Flow Unit :=
  inputBilibiliTagList session (tagsFor .bilibili request)

/-- The text of `input_kuaishou_metadata`. -/
def kuaishouText (request : PublishRequest) : String :=
  title .kuaishou request ++ " " ++
    " ".intercalate ((tagsFor .kuaishou request).map ("#" ++ ·))

def inputKuaishouMetadata (session : String) (titles : List String) (request : PublishRequest) :
    Flow Unit := input session titles (kuaishouText request)

def douyinStates : List String :=
  ["ready", "selected", "clicked", "pending", "ambiguous", "disabled", "invalid"]

def douyinState (session : String) (script : Script) : Flow String :=
  actionState douyinStates "Douyin post-upload action returned an invalid state" session script []

def waitForDouyinPreview (session : String) : Flow String :=
  waitForState douyinReadyPollAttempts (douyinState session .douyinPreviewState) ["ready"]
    ["pending"] [("ambiguous", "Douyin video preview was ambiguous")]
    "Douyin video preview returned an invalid state"
    "Douyin video preview did not become ready before its deadline"

/-- One turn of `set_douyin_save_permission`: the state, and the action once it is ready. -/
def douyinSavePermissionTurn (session : String) : Flow (Option Unit) := do
  let state ← douyinState session .douyinSavePermissionState
  if state = "selected" then pure (some ())
  else if state = "ready" then do
    let action ← douyinState session .douyinSavePermissionAction
    if action = "selected" ∨ action = "clicked" then pure (some ())
    else if action = "pending" then pure none
    else Talk.fail (refusal
      [("ambiguous", "Douyin save permission was ambiguous"),
        ("disabled", "Douyin save permission was disabled"),
        ("invalid", "Douyin save permission could not be selected")]
      "Douyin save permission returned an invalid state" action)
  else if state = "pending" then pure none
  else Talk.fail (refusal
    [("ambiguous", "Douyin save permission was ambiguous"),
      ("disabled", "Douyin save permission was disabled"),
      ("invalid", "Douyin save permission was invalid")]
    "Douyin save permission returned an invalid state" state)

def setDouyinSavePermission (session : String) : Flow Unit :=
  Talk.poll (douyinSavePermissionTurn session)
    (Talk.fail "Douyin save permission did not become ready before its deadline")
    douyinReadyPollAttempts

def prepareDouyinVideo (session : String) : Flow Unit := do
  let _ ← waitForDouyinPreview session
  setDouyinSavePermission session

def xiaohongshuPkCoverState (session : String) : Flow String :=
  actionState ["absent", "unchecked", "checked", "ambiguous", "invalid"]
    "Xiaohongshu PK-cover state was invalid" session .xiaohongshuPkCoverState []

def xiaohongshuPkCoverErrors : List (String × String) :=
  [("absent", "Xiaohongshu PK-cover checkbox disappeared after action"),
    ("ambiguous", "Xiaohongshu PK-cover checkbox was ambiguous"),
    ("invalid", "Xiaohongshu PK-cover checkbox was invalid")]

/-- `normalize_xiaohongshu_pk_cover`. The state reader answers listed states only, so the last
    errors are never given. -/
def normalizeXiaohongshuPkCover (session : String) : Flow Unit := do
  let state ← xiaohongshuPkCoverState session
  if state = "absent" ∨ state = "unchecked" then pure ()
  else if state = "checked" then do
    require session .xiaohongshuPkCoverClose []
      "Xiaohongshu PK-cover checkbox could not be cleared"
    let _ ← waitForState douyinStatementPollAttempts (xiaohongshuPkCoverState session)
      ["unchecked"] ["checked"] xiaohongshuPkCoverErrors "unreachable"
      "Xiaohongshu PK-cover checkbox remained selected before its deadline"
    pure ()
  else Talk.fail (refusal xiaohongshuPkCoverErrors "unreachable" state)

/-! ## 5. What the phases execute -/

/-- The scripts that neither publish, nor read an acknowledgement, nor belong to the article and
    review flows. -/
def Script.prepares : Script → Bool
  | visible | codemirrorWrite | baijiahaoAction | kuaishouAction | toutiaoFooterAction
  | fanqieOneClickPublish | fanqiePublishResult | fanqieReviewStatus => false
  | _ => true

section Only
variable {ok : Command → Prop} {session : String}

theorem require_only {script : Script} {args : List ScriptArg} {refused : String}
    (h : ok (.execute session script args)) : (require session script args refused).Only ok := by
  refine (executeBool_only h).bind fun answer => ?_
  cases answer with
  | true => exact Talk.only_pure _
  | false => exact Talk.only_fail _

theorem waitForBool_only {attempts : Nat} {script : Script} {args : List ScriptArg}
    {late : String} (h : ok (.execute session script args)) :
    (waitForBool attempts session script args late).Only ok := by
  refine Talk.Only.poll ((executeBool_only h).bind fun answer => ?_) (Talk.only_fail _) _
  cases answer with
  | true => exact Talk.only_pure _
  | false => exact Talk.only_pure _

theorem actionState_only {states : List String} {invalid : String} {script : Script}
    {args : List ScriptArg} (h : ok (.execute session script args)) :
    (actionState states invalid session script args).Only ok := by
  refine (request_only h).bind fun value => ?_
  cases value.asStr with
  | none => exact Talk.only_fail _
  | some state =>
    show Talk.Only ok (if _ then _ else _)
    by_cases hstate : state ∈ states
    · rw [if_pos hstate]
      exact Talk.only_pure _
    · rw [if_neg hstate]
      exact Talk.only_fail _

theorem waitForState_only {attempts : Nat} {read : Flow String} {accepted waiting : List String}
    {errors : List (String × String)} {invalid late : String} (h : read.Only ok) :
    (waitForState attempts read accepted waiting errors invalid late).Only ok := by
  refine Talk.Only.poll (h.bind fun state => ?_) (Talk.only_fail _) _
  by_cases haccepted : state ∈ accepted
  · rw [if_pos haccepted]
    exact Talk.only_pure _
  · rw [if_neg haccepted]
    by_cases hwaiting : state ∈ waiting
    · rw [if_pos hwaiting]
      exact Talk.only_pure _
    · rw [if_neg hwaiting]
      exact Talk.only_fail _

variable (hscript : ∀ script args, script.prepares = true → ok (.execute session script args))
include hscript

theorem waitForOptionalWechatShadowAction_only {script : Script} (h : script.prepares = true) :
    (waitForOptionalWechatShadowAction session script).Only ok := by
  refine Talk.Only.poll ((executeBool_only (hscript _ _ h)).bind fun answer => ?_)
    (Talk.only_pure _) _
  cases answer with
  | true => exact Talk.only_pure _
  | false => exact Talk.only_pure _

theorem attachWechatProduct_only {productId : String} :
    (attachWechatProduct session productId).Only ok :=
  (waitForBool_only (hscript _ _ rfl)).bind fun _ =>
    (require_only (hscript _ _ rfl)).bind fun _ =>
    (waitForBool_only (hscript _ _ rfl)).bind fun _ =>
    (require_only (hscript _ _ rfl)).bind fun _ =>
    (waitForBool_only (hscript _ _ rfl)).bind fun _ =>
    (require_only (hscript _ _ rfl)).bind fun _ =>
    (waitForBool_only (hscript _ _ rfl)).bind fun _ =>
    (require_only (hscript _ _ rfl)).bind fun _ => waitForBool_only (hscript _ _ rfl)

theorem applyWechatCreativeStatement_only {label : String} :
    (applyWechatCreativeStatement session label).Only ok :=
  (require_only (hscript _ _ rfl)).bind fun _ => waitForBool_only (hscript _ _ rfl)

theorem confirmWechatOriginal_only : (confirmWechatOriginal session).Only ok :=
  (waitForBool_only (hscript _ _ rfl)).bind fun _ => waitForBool_only (hscript _ _ rfl)

theorem tryDeclareWechatOriginal_only : (tryDeclareWechatOriginal session).Only ok := by
  refine (executeBool_only (hscript _ _ rfl)).bind fun entered => ?_
  cases entered with
  | false => exact Talk.only_pure _
  | true =>
    refine (waitForOptionalWechatShadowAction_only hscript rfl).bind fun opened => ?_
    cases opened with
    | false => exact Talk.only_pure _
    | true =>
      refine (executeBool_only (hscript _ _ rfl)).bind fun asked => ?_
      cases asked with
      | false =>
        exact (require_only (hscript _ _ rfl)).bind fun _ => confirmWechatOriginal_only hscript
      | true =>
        refine (waitForBool_only (hscript _ _ rfl)).bind fun _ =>
          (waitForBool_only (hscript _ _ rfl)).bind fun _ =>
          (waitForOptionalWechatShadowAction_only hscript rfl).bind fun declared => ?_
        cases declared with
        | false => exact Talk.only_pure _
        | true => exact confirmWechatOriginal_only hscript

theorem waitForWechatUploadReady_only : (waitForWechatUploadReady session).Only ok :=
  waitForState_only (actionState_only (hscript _ _ rfl))

theorem chooseStatement_only {label notOpened notSelected : String}
    {opening options choosing : Script} (hopening : opening.prepares = true)
    (hoptions : options.prepares = true) (hchoosing : choosing.prepares = true) :
    (chooseStatement session label opening options choosing notOpened notSelected).Only ok :=
  (require_only (hscript _ _ hopening)).bind fun _ =>
    (waitForBool_only (hscript _ _ hoptions)).bind fun _ => require_only (hscript _ _ hchoosing)

theorem applyXiaohongshuCreativeStatement_only {label : String} :
    (applyXiaohongshuCreativeStatement session label).Only ok := by
  refine (chooseStatement_only hscript rfl rfl rfl).bind fun _ => ?_
  have hturn : (xiaohongshuStatementIsApplied session label).Only ok :=
    (actionState_only (hscript _ _ rfl)).bind fun _ => Talk.only_pure _
  refine Talk.Only.poll (hturn.bind fun applied => ?_) (Talk.only_fail _) _
  cases applied with
  | true => exact Talk.only_pure _
  | false => exact Talk.only_pure _

theorem applyToutiaoCreativeStatement_only {label : String} :
    (applyToutiaoCreativeStatement session label).Only ok := by
  refine (executeBool_only (hscript _ _ rfl)).bind fun selected => ?_
  cases selected with
  | true => exact Talk.only_pure _
  | false =>
    have hselect : (selectToutiaoStatement session label).Only ok :=
      (actionState_only (hscript _ _ rfl)).bind fun _ =>
        (Talk.only_lift _).bind fun _ => Talk.only_pure _
    refine hselect.bind fun before => ?_
    cases before with
    | true => exact Talk.only_pure _
    | false => exact waitForBool_only (hscript _ _ rfl)

/-- **Every declaration executes preparing scripts only.** -/
theorem applyCreativeStatement_only {platform : Platform} {label : String} :
    (applyCreativeStatement platform session label).Only ok := by
  cases platform with
  | wechatChannels => exact applyWechatCreativeStatement_only hscript
  | douyin =>
    exact (chooseStatement_only hscript rfl rfl rfl).bind fun _ =>
      (require_only (hscript _ _ rfl)).bind fun _ => waitForBool_only (hscript _ _ rfl)
  | baijiahao =>
    exact (chooseStatement_only hscript rfl rfl rfl).bind fun _ =>
      (require_only (hscript _ _ rfl)).bind fun _ => waitForBool_only (hscript _ _ rfl)
  | bilibili =>
    exact (chooseStatement_only hscript rfl rfl rfl).bind fun _ =>
      waitForBool_only (hscript _ _ rfl)
  | kuaishou =>
    exact (chooseStatement_only hscript rfl rfl rfl).bind fun _ =>
      waitForBool_only (hscript _ _ rfl)
  | toutiao => exact applyToutiaoCreativeStatement_only hscript
  | xiaohongshu => exact applyXiaohongshuCreativeStatement_only hscript
  | fanqieVideo => exact Talk.only_pure _

theorem waitForBilibiliUploadReady_only : (waitForBilibiliUploadReady session).Only ok :=
  waitForState_only (actionState_only (hscript _ _ rfl))

theorem inputBilibiliTags_only {request : PublishRequest} :
    (inputBilibiliTags session request).Only ok := by
  unfold inputBilibiliTags
  generalize tagsFor .bilibili request = tags
  induction tags with
  | nil => exact Talk.only_pure _
  | cons tag rest ih =>
    unfold inputBilibiliTagList
    by_cases hblank : trim tag = ""
    · rw [if_pos hblank]
      exact Talk.only_fail _
    · rw [if_neg hblank]
      exact (require_only (hscript _ _ rfl)).bind fun _ =>
        (waitForBool_only (hscript _ _ rfl)).bind fun _ => ih

theorem douyinSavePermissionTurn_only : (douyinSavePermissionTurn session).Only ok := by
  refine (actionState_only (hscript _ _ rfl)).bind fun state => ?_
  by_cases hselected : state = "selected"
  · rw [if_pos hselected]
    exact Talk.only_pure _
  rw [if_neg hselected]
  by_cases hready : state = "ready"
  · rw [if_pos hready]
    refine (actionState_only (hscript _ _ rfl)).bind fun action => ?_
    by_cases hdone : action = "selected" ∨ action = "clicked"
    · rw [if_pos hdone]
      exact Talk.only_pure _
    rw [if_neg hdone]
    by_cases hpending : action = "pending"
    · rw [if_pos hpending]
      exact Talk.only_pure _
    · rw [if_neg hpending]
      exact Talk.only_fail _
  rw [if_neg hready]
  by_cases hpending : state = "pending"
  · rw [if_pos hpending]
    exact Talk.only_pure _
  · rw [if_neg hpending]
    exact Talk.only_fail _

theorem prepareDouyinVideo_only : (prepareDouyinVideo session).Only ok :=
  (waitForState_only (actionState_only (hscript _ _ rfl))).bind fun _ =>
    (douyinSavePermissionTurn_only hscript).poll (Talk.only_fail _) _

theorem normalizeXiaohongshuPkCover_only : (normalizeXiaohongshuPkCover session).Only ok := by
  have hstate : (xiaohongshuPkCoverState session).Only ok := actionState_only (hscript _ _ rfl)
  refine hstate.bind fun state => ?_
  by_cases hclear : state = "absent" ∨ state = "unchecked"
  · rw [if_pos hclear]
    exact Talk.only_pure _
  rw [if_neg hclear]
  by_cases hchecked : state = "checked"
  · rw [if_pos hchecked]
    exact (require_only (hscript _ _ rfl)).bind fun _ =>
      (waitForState_only hstate).bind fun _ => Talk.only_pure _
  · rw [if_neg hchecked]
    exact Talk.only_fail _

end Only

end WebDriver

end MatriXpost
