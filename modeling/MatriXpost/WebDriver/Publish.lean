/-
  File:      MatriXpost/WebDriver/Publish.lean
  Subject:   THE FLOWS: video and article publication, manual login, account readiness, review
             status.

  Sources: `webdriver/video.rs`, `webdriver/article.rs`, `webdriver/status.rs`.

  Each flow checks what it can before there is a session; the rest of it runs inside
  `withSession`. A video publication there is `metadata` and then `publishAndAcknowledge`.

  The files an article names are looked at through an `ArticleHost`, whatever it answers.
-/
import MatriXpost.WebDriver.Actions
import MatriXpost.Runner.Config
import MatriXpost.Runner.Protocol

namespace MatriXpost

namespace WebDriver

/-- The attached browser, as text, and the checks of an acknowledgement. -/
structure WebDriverPublisher where
  debuggerAddress : String
  acknowledgementAttempts : Nat

/-! ## 1. Video publication -/

/-- The path that is typed into the file input. -/
def localFile : MediaSource → Except String String
  | .remoteUrl _ => .error "WebDriver runner accepts only local media files"
  | .localFile (.other _ _) => .error "local media path is not valid Unicode"
  | .localFile (.utf8 file) => .ok file

/-- What `publish` settles before there is a session: profile, file and WeChat product. -/
def publishTarget (platform : Platform) (request : PublishRequest) :
    Except String (PlatformProfile × String × Option String) := do
  let p ← match profile platform with
    | some p => .ok p
    | none => .error "no WebDriver profile is installed for platform"
  let file ← localFile request.source
  let product ← if platform = .wechatChannels then wechatProductId request else .ok none
  if platform = .fanqieVideo ∧ request.draft = true then
    .error "Fanqie Video does not support draft publication in the local runner"
  else if platform = .kuaishou ∧ request.draft = true then
    .error "Kuaishou does not support draft publication in the local runner"
  else .ok (p, file, product)

/-- A phase of some platforms. -/
def onlyFor (applies : Bool) (phase : Flow Unit) : Flow Unit := if applies then phase else pure ()

/-- A phase for a value that may be absent. -/
def ifSome {α : Type} (value : Option α) (phase : α → Flow Unit) : Flow Unit :=
  match value with
  | some a => phase a
  | none => pure ()

/-- `.map(|_| ())`. -/
def ignored (phase : Flow String) : Flow Unit := do
  let _ ← phase
  pure ()

/-- Bilibili takes its tags through the chip editor, so only the location is left. -/
def descriptionText (platform : Platform) (request : PublishRequest) : String :=
  if platform = .bilibili then request.address.getD "" else description platform request

/-- The short title, where the platform has a field for it. -/
def typeShortTitle (p : PlatformProfile) (platform : Platform) (request : PublishRequest)
    (session : String) : Flow Unit :=
  onlyFor (platform = .wechatChannels) (ifSome p.shortTitle fun selectors =>
    ifSome (shortTitle platform request) fun text => input session selectors text)

/-- Title, description and tags. -/
def typeTexts (p : PlatformProfile) (platform : Platform) (request : PublishRequest)
    (session : String) : Flow Unit :=
  if platform = .kuaishou then inputKuaishouMetadata session p.title request
  else do
    input session p.title (title platform request)
    typeShortTitle p platform request session
    onlyFor (descriptionText platform request ≠ "")
      (input session p.description (descriptionText platform request))
    onlyFor (platform = .bilibili) (inputBilibiliTags session request)

/-- **Every phase before the final action.** -/
def metadata (p : PlatformProfile) (file : String) (product : Option String)
    (platform : Platform) (request : PublishRequest) (session : String) : Flow Unit := do
  navigate session p.uploadUrl
  input session p.file file
  onlyFor (platform = .bilibili) (ignored (waitForBilibiliUploadReady session))
  typeTexts p platform request session
  ifSome product (attachWechatProduct session)
  onlyFor (platform = .douyin) (prepareDouyinVideo session)
  ifSome (creativeStatement platform request) (applyCreativeStatement platform session)
  onlyFor (platform = .wechatChannels) (tryDeclareWechatOriginal session)
  onlyFor (platform = .wechatChannels) (ignored (waitForWechatUploadReady session))
  onlyFor (platform = .xiaohongshu) (normalizeXiaohongshuPkCover session)

/-- `publish_fanqie_video`. -/
def publishFanqieVideo (session : String) : Flow Unit := do
  prepareFanqieVideo session
  waitForFanqieOneClickPublish session "pending" fanqiePublishPollAttempts
  ignored (waitForFanqieResult session)

/-- The final action of the platforms that show a success marker. -/
def finalAction (p : PlatformProfile) (platform : Platform) (draft : Bool) (session : String) :
    Flow Unit :=
  match platform with
  | .baijiahao => publishBaijiahaoAction session draft
  | .toutiao => publishToutiaoFooter session draft
  | .kuaishou => publishKuaishouAction session
  | _ => click session (if draft then p.draft else p.submit)

/-- The check of the success markers, the final action, and the wait for its acknowledgement. -/
def publishAndAcknowledge (attempts : Nat) (p : PlatformProfile) (platform : Platform)
    (draft : Bool) (session : String) : Flow Unit :=
  if platform = .fanqieVideo then publishFanqieVideo session
  else do
    if ← successMarkerVisible session p.success then
      Talk.fail "a success marker was already visibly present before the publish action"
    else do
      finalAction p platform draft session
      waitForSuccessTransition attempts session p.success
        "post-click success acknowledgement did not become visibly present before deadline"

/-- The phases of a publication. -/
def videoPhases (publisher : WebDriverPublisher) (platform : Platform) (request : PublishRequest)
    (target : PlatformProfile × String × Option String) (session : String) : Flow Unit := do
  metadata target.1 target.2.1 target.2.2 platform request session
  publishAndAcknowledge publisher.acknowledgementAttempts target.1 platform request.draft session

/-- `publish`; `job` is the number `next_job` gives. -/
def publish (publisher : WebDriverPublisher) (job : Nat) (platform : Platform)
    (request : PublishRequest) : Flow String := do
  let target ← Talk.lift (publishTarget platform request)
  withSession publisher.debuggerAddress (videoPhases publisher platform request target)
  pure ("webdriver-" ++ platform.asStr ++ "-" ++ toString job)

/-! ## 2. Manual login, account readiness and review status -/

/-- `profile(platform).ok_or_else(..)`. -/
def requireProfile (platform : Platform) : Except String PlatformProfile :=
  match profile platform with
  | some p => .ok p
  | none => .error "no WebDriver profile is installed for platform"

/-- `open_manual_login`. -/
def openManualLogin (publisher : WebDriverPublisher) (platform : Platform) : Flow Unit := do
  let p ← Talk.lift (requireProfile platform)
  withSession publisher.debuggerAddress fun session => navigate session p.uploadUrl

/-- The phases of a readiness probe: the upload form is there. -/
def readinessPhases (p : PlatformProfile) (session : String) : Flow Bool := do
  navigate session p.uploadUrl
  let found ← findFirst session p.file
  pure found.isSome

/-- `account_readiness`. -/
def accountReadiness (publisher : WebDriverPublisher) (platform : Platform) : Flow Bool := do
  let p ← Talk.lift (requireProfile platform)
  withSession publisher.debuggerAddress (readinessPhases p)

def reviewStates : List (String × ReviewStatus) :=
  [("published", .published), ("under_review", .underReview), ("rejected", .rejected)]

/-- One look at the video list. -/
def reviewTurn (session titleQuery : String) : Flow (Option ReviewStatus) := do
  let value ← request (.execute session .fanqieReviewStatus [.text titleQuery])
  match value.asStr with
  | none => pure none
  | some state =>
    match reviewStates.find? fun row => row.1 = state with
    | some (_, status) => pure (some status)
    | none => Talk.fail "review status script returned an invalid value"

def reviewPhases (titleQuery session : String) : Flow ReviewStatus := do
  navigate session fanqieVideoListUrl
  Talk.poll (reviewTurn session titleQuery) (pure .notFound) fanqieReviewScrollAttempts

/-- The title query a review is looked up by. -/
def reviewQuery (titleQuery : String) : Except String String :=
  let query := normalizeReviewTitleQuery titleQuery
  if query = "" ∨ query.utf8ByteSize > reviewStatusTitleQueryMaxBytes then
    .error "review status title query is invalid"
  else .ok query

/-- `review_status`. -/
def reviewStatus (publisher : WebDriverPublisher) (titleQuery : String) : Flow ReviewStatus := do
  let query ← Talk.lift (reviewQuery titleQuery)
  withSession publisher.debuggerAddress (reviewPhases query)

/-! ## 3. The checks of an article -/

/-- What `symlink_metadata` says of a path. -/
structure FileMetadata where
  isSymlink : Bool
  isFile : Bool
  len : Nat

/-- What the host answers about URLs and files while an article is checked. -/
structure ArticleHost where
  isUrl : String → Bool
  inspectCover : PathBuf → Option FileMetadata
  inspectFile : PathBuf → Option FileMetadata
  openFile : PathBuf → Bool
  readFile : PathBuf → Option (List UInt8)

def maxArticleBodyBytes : Nat := 1000000
def maxArticleTitleBytes : Nat := 200
def maxArticleCategoryBytes : Nat := 64
def maxArticleTags : Nat := 10
def maxArticleTagBytes : Nat := 32
def maxArticleSummaryBytes : Nat := 500
def maxArticleCoverBytes : Nat := 5 * 1024 * 1024
def articleTextExtensions : List String := ["md", "txt"]
def articleCoverExtensions : List String := ["jpg", "jpeg", "png", "webp"]

def boundedText (name value : String) (maximum : Nat) : Except String Unit :=
  if isBlank value then .error (name ++ " must not be empty")
  else if value.utf8ByteSize > maximum then
    .error (name ++ " exceeds " ++ toString maximum ++ " bytes")
  else .ok ()

def boundedOptionalText (name : String) (value : Option String) (maximum : Nat) :
    Except String Unit :=
  match value with
  | some value => boundedText name value maximum
  | none => .ok ()

/-- The segments of a path. -/
def pathSegments (path : String) : List (List Char) := path.toList.splitOn '/'

/-- `path.file_name()`: the last segment that is a name. -/
def fileName (path : String) : Option (List Char) :=
  match ((pathSegments path).filter fun s => s ≠ [] ∧ s ≠ ['.']).getLast? with
  | some name => if name = ['.', '.'] then none else some name
  | none => none

/-- `path.extension()`: what follows the last dot of the file name, unless the name begins with
    that dot. -/
def extension (path : String) : Option String :=
  match fileName path with
  | none => none
  | some name =>
    match name.splitOn '.' with
    | [] | [_] => none
    | [[], _] => none
    | parts => parts.getLast?.map String.ofList

/-- `allowed_extension`. An extension that is no text is none of the allowed ones. -/
def allowedExtension (path : PathBuf) (allowed : List String) : Bool :=
  (extension path.toStringLossy).any fun e => toAsciiLowercase e ∈ allowed

def regularLocalFile (inspect : PathBuf → Option FileMetadata) (path : PathBuf)
    (allowed : List String) (maximum : Nat) : Except String Unit :=
  if allowedExtension path allowed = false then .error "local file extension is not supported"
  else
    match inspect path with
    | none => .error "local file could not be inspected"
    | some metadata =>
      if metadata.isSymlink ∨ ¬ metadata.isFile then
        .error "local file must be a regular non-symlink file"
      else if metadata.len = 0 then .error "local file must not be empty"
      else if metadata.len > maximum then
        .error ("local file exceeds " ++ toString maximum ++ " bytes")
      else .ok ()

/-- The text of a content file. -/
def readBody (host : ArticleHost) (file : PathBuf) : Except String String := do
  regularLocalFile host.inspectFile file articleTextExtensions maxArticleBodyBytes
  if host.openFile file = false then .error "article content file could not be opened"
  else
    match host.readFile file with
    | none => .error "article content file could not be read"
    | some content =>
      let bytes := content.take (maxArticleBodyBytes + 1)
      if bytes.length > maxArticleBodyBytes then
        .error ("article body exceeds " ++ toString maxArticleBodyBytes ++ " bytes")
      else
        match String.fromUTF8? ⟨bytes.toArray⟩ with
        | none => .error "article content file must contain UTF-8 text"
        | some body => do
          boundedText "article body" body maxArticleBodyBytes
          .ok body

/-- `article_body`: the content, or the text of the file. -/
def articleBody (host : ArticleHost) (request : PublishArticleRequest) : Except String String :=
  match request.content.filter fun content => !isBlank content with
  | some content => do
    boundedText "article body" content maxArticleBodyBytes
    .ok content
  | none =>
    match request.file with
    | none => .error "article content or local file is required"
    | some file => readBody host file

/-- The loop over the tags. -/
def checkTags : List String → Except String Unit
  | [] => .ok ()
  | tag :: rest => do
    boundedText "article tag" tag maxArticleTagBytes
    checkTags rest

def checkCover (host : ArticleHost) : Option String → Except String Unit
  | none => .ok ()
  | some cover =>
    if host.isUrl cover then .error "article cover must be a local file path"
    else regularLocalFile host.inspectCover (.utf8 cover) articleCoverExtensions
      maxArticleCoverBytes

/-- `validate_article_request`: the body, once everything is checked. -/
def validateArticleRequest (host : ArticleHost) (request : PublishArticleRequest) :
    Except String String := do
  request.validate.mapError DomainError.text
  if request.hasAccountRouting then .error "account routing is not accepted by the runner"
  else do
    boundedText "article title" request.title maxArticleTitleBytes
    boundedOptionalText "article category" request.category maxArticleCategoryBytes
    boundedOptionalText "article summary" request.summary maxArticleSummaryBytes
    if request.tags.length > maxArticleTags then
      .error ("article tags exceed " ++ toString maxArticleTags ++ " entries")
    else do
      checkTags request.tags
      checkCover host request.cover
      articleBody host request

/-! ## 4. Article publication -/

structure ArticleExecutionError where
  reason : String
  automationAttempted : Bool
deriving DecidableEq, Repr

/-- `ArticleExecutionError::local`. -/
def ArticleExecutionError.beforeSession (reason : String) : ArticleExecutionError := ⟨reason, false⟩

/-- `ArticleExecutionError::attempted`. -/
def ArticleExecutionError.attempted (reason : String) : ArticleExecutionError := ⟨reason, true⟩

/-- An article flow: requests, and errors that know whether there were any. -/
abbrev ArticleFlow (α : Type) := Talk Command (fun _ => Reply) ArticleExecutionError α

/-- `write_codemirror`. -/
def writeCodemirror (session text : String) : Flow Unit := do
  let element ← find session juejinProfile.content
  let value ← request (.execute session .codemirrorWrite [.element element, .text text])
  if value.asBoolean = some true then pure ()
  else Talk.fail "CodeMirror content write could not be verified"

/-- A field that is typed when it is given and not blank. -/
def inputIfGiven (session : String) (selectors : List String) (value : Option String) : Flow Unit :=
  ifSome (value.filter fun item => !isBlank item) (input session selectors)

/-- The phases of an article publication. -/
def articlePhases (publisher : WebDriverPublisher) (request : PublishArticleRequest) (body : String)
    (session : String) : Flow Unit := do
  navigate session juejinProfile.editorUrl
  input session juejinProfile.title request.title
  writeCodemirror session body
  inputIfGiven session juejinProfile.cover request.cover
  inputIfGiven session juejinProfile.category request.category
  onlyFor (request.tags ≠ []) (input session juejinProfile.tags (",".intercalate request.tags))
  inputIfGiven session juejinProfile.summary request.summary
  if ← successMarkerVisible session juejinProfile.success then
    Talk.fail "an article success marker was already visibly present before confirmation"
  else do
    click session juejinProfile.publishPanel
    click session juejinProfile.confirm
    waitForSuccessTransition publisher.acknowledgementAttempts session juejinProfile.success
      "post-click article acknowledgement did not become visibly present before deadline"

/-- What is checked before there is a session: the platform, then the article. -/
def articleTarget (host : ArticleHost) (request : PublishArticleRequest) : Except String String :=
  match request.articlePlatform with
  | .error e => .error e.text
  | .ok .juejin => validateArticleRequest host request

/-- `publish_article`. -/
def publishArticle (publisher : WebDriverPublisher) (host : ArticleHost) (job : Nat)
    (request : PublishArticleRequest) : ArticleFlow String := do
  let body ← Talk.lift ((articleTarget host request).mapError .beforeSession)
  (withSession publisher.debuggerAddress (articlePhases publisher request body)).mapError
    .attempted
  pure ("webdriver-juejin-" ++ toString job)

/-! ## 5. What the phases request -/

/-- The requests a phase before the final action may make are permitted. -/
structure Permits (ok : Command → Prop) (session : String) (selectors : List String) : Prop where
  navigate : ∀ url, ok (.navigate session url)
  sendKeys : ∀ element text, ok (.sendKeys session element text)
  find : ∀ selector ∈ selectors, ok (.findElement session selector)
  script : ∀ script args, script.prepares = true → ok (.execute session script args)

/-- The selectors of a form. -/
def PlatformProfile.form (p : PlatformProfile) : List String :=
  p.file ++ p.title ++ p.shortTitle.getD [] ++ p.description

section Only
variable {ok : Command → Prop} {session : String} {p : PlatformProfile}

theorem onlyFor_only {applies : Bool} {phase : Flow Unit} (h : phase.Only ok) :
    (onlyFor applies phase).Only ok := by
  cases applies with
  | true => exact h
  | false => exact Talk.only_pure _

theorem ifSome_only {α : Type} {value : Option α} {phase : α → Flow Unit}
    (h : ∀ a, value = some a → (phase a).Only ok) : (ifSome value phase).Only ok := by
  cases value with
  | none => exact Talk.only_pure _
  | some a => exact h a rfl

theorem ignored_only {phase : Flow String} (h : phase.Only ok) : (ignored phase).Only ok :=
  h.bind fun _ => Talk.only_pure _

theorem typeTexts_only {platform : Platform} {request : PublishRequest}
    (h : Permits ok session p.form) : (typeTexts p platform request session).Only ok := by
  have htitle : ∀ text, (input session p.title text).Only ok := fun _ =>
    input_only (fun s hs => h.find s (by simp [PlatformProfile.form, hs]))
      fun element => h.sendKeys element _
  unfold typeTexts
  by_cases hkuaishou : platform = .kuaishou
  · rw [if_pos hkuaishou]
    exact htitle _
  · rw [if_neg hkuaishou]
    refine (htitle _).bind fun _ => Talk.Only.bind (onlyFor_only ?_) fun _ =>
      Talk.Only.bind (onlyFor_only ?_) fun _ => onlyFor_only (inputBilibiliTags_only h.script)
    · refine ifSome_only fun selectors hselectors => ifSome_only fun text _ => ?_
      exact input_only (fun s hs => h.find s (by simp [PlatformProfile.form, hselectors, hs]))
        fun element => h.sendKeys element _
    · exact input_only (fun s hs => h.find s (by simp [PlatformProfile.form, hs]))
        fun element => h.sendKeys element _

/-- **The metadata phases type into the form and execute preparing scripts.** -/
theorem metadata_only {file : String} {product : Option String} {platform : Platform}
    {request : PublishRequest} (h : Permits ok session p.form) :
    (metadata p file product platform request session).Only ok := by
  have hfile : (input session p.file file).Only ok :=
    input_only (fun s hs => h.find s (by simp [PlatformProfile.form, hs]))
      fun element => h.sendKeys element _
  exact (done_only (h.navigate _)).bind fun _ => hfile.bind fun _ =>
    (onlyFor_only (ignored_only (waitForBilibiliUploadReady_only h.script))).bind fun _ =>
    (typeTexts_only h).bind fun _ =>
    (ifSome_only fun _ _ => attachWechatProduct_only h.script).bind fun _ =>
    (onlyFor_only (prepareDouyinVideo_only h.script)).bind fun _ =>
    (ifSome_only fun _ _ => applyCreativeStatement_only h.script).bind fun _ =>
    (onlyFor_only (tryDeclareWechatOriginal_only h.script)).bind fun _ =>
    (onlyFor_only (ignored_only (waitForWechatUploadReady_only h.script))).bind fun _ =>
    onlyFor_only (normalizeXiaohongshuPkCover_only h.script)

/-- What Fanqie does before its one click. -/
theorem prepareFanqieVideo_only
    (h : ∀ script args, script.prepares = true → ok (.execute session script args)) :
    (prepareFanqieVideo session).Only ok :=
  (waitForBool_only (h _ _ rfl)).bind fun _ => (actionState_only (h _ _ rfl)).bind fun _ =>
    (Talk.only_lift _).bind fun _ => (waitForBool_only (h _ _ rfl)).bind fun _ =>
    (actionState_only (h _ _ rfl)).bind fun _ => (Talk.only_lift _).bind fun _ =>
    waitForBool_only (h _ _ rfl)

end Only

end WebDriver

end MatriXpost
