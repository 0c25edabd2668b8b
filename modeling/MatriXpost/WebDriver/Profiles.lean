/-
  File:      MatriXpost/WebDriver/Profiles.lean
  Subject:   WHAT THE FLOWS KNOW OF EACH PLATFORM: selectors, poll attempts, statement labels, and
             the texts typed for a request.

  Sources: `profiles/` and `webdriver/video_text.rs`.

  * `profiles` is the table of selectors; no selector of a form or of an action is one of the
    success selectors of its platform (`metadata_selectors`, `action_selectors`);
  * the seven resolvers of creative statements are one function over a table of spellings.
-/
import MatriXpost.WebDriver.Protocol

namespace MatriXpost

namespace WebDriver

/-! ## 1. Selectors -/

/-- The UI profile of a platform. -/
structure PlatformProfile where
  platform : Platform
  uploadUrl : String
  file : List String
  title : List String
  shortTitle : Option (List String)
  description : List String
  submit : List String
  draft : List String
  success : List String

structure ArticleProfile where
  editorUrl : String
  title : List String
  content : List String
  cover : List String
  category : List String
  tags : List String
  summary : List String
  publishPanel : List String
  confirm : List String
  success : List String

def juejinProfile : ArticleProfile where
  editorUrl := "https://juejin.cn/editor/drafts/new"
  title := ["input[placeholder*='标题']", "input[aria-label*='标题']"]
  content := ["div.cm-content[contenteditable='true']", ".cm-editor div[contenteditable='true']"]
  cover := ["input[type='file'][accept*='image']", "input[data-testid='cover-upload']"]
  category := ["input[placeholder*='分类']", "button[data-testid='category']"]
  tags := ["input[placeholder*='标签']", "input[data-testid='tag-input']"]
  summary := ["textarea[placeholder*='摘要']", "input[placeholder*='摘要']"]
  publishPanel := ["button[data-testid='publish-article']", "button[class*='publish']"]
  confirm := ["button[data-testid='confirm-publish']", "button[class*='confirm']"]
  success := ["[data-testid='publish-success']", "[role='status'][data-status='success']"]

/-- `PROFILES`. -/
def profiles : List PlatformProfile :=
  [{ platform := .douyin
     uploadUrl :=
       "https://creator.douyin.com/creator-micro/content/post/video?enter_from=publish_page"
     file := ["input[type='file']", "input.upload-input"]
     title := ["input[placeholder*='标题']", "textarea[placeholder*='标题']"]
     shortTitle := none
     description := ["div[contenteditable='true']", "textarea[placeholder*='描述']"]
     submit := ["button[type='submit']", "button.publish-button"]
     draft := ["button[data-action='draft']", "button.draft-button"]
     success := ["[data-e2e='publish-success']", ".publish-success"] },
   { platform := .wechatChannels
     uploadUrl := "https://channels.weixin.qq.com/platform/post/create"
     file := ["input[type='file']", "input.upload-file"]
     title := ["input[placeholder*='标题']", "textarea[placeholder*='标题']"]
     shortTitle := some
       ["wujie-app.wujie_iframe input[placeholder='填写短标题有机会获得更多流量']"]
     description := ["div[contenteditable='true']", "textarea[placeholder*='描述']"]
     submit := ["button[type='submit']", "button.publish-button"]
     draft := ["button[data-action='draft']", "button.draft-button"]
     success := ["[data-status='published']", ".publish-success"] },
   { platform := .bilibili
     uploadUrl := "https://member.bilibili.com/platform/upload/video/frame/"
     file := ["input[type='file']", "input[type='file'][accept*='video']"]
     title := ["input[placeholder*='标题']", "input[aria-label*='标题']"]
     shortTitle := none
     description := ["textarea[placeholder*='简介']", "div[contenteditable='true']"]
     submit := ["button[type='submit']", "button.publish-button"]
     draft := ["button[data-action='draft']", "button.draft-button"]
     success := [".success-wrap", ".publish-success"] },
   { platform := .baijiahao
     uploadUrl := "https://baijiahao.baidu.com/builder/rc/edit?type=videoV2&is_from_cms=1"
     file := ["input[type='file']", "input.upload-file"]
     title := ["input[placeholder*='标题']", "input[name='title']"]
     shortTitle := none
     description := ["textarea[placeholder*='摘要']", "div[contenteditable='true']"]
     submit := ["button[type='submit']", "button.publish-button"]
     draft := ["button[data-action='draft']", "button.draft-button"]
     success := ["[data-status='published']", ".publish-success"] },
   { platform := .toutiao
     uploadUrl := "https://mp.toutiao.com/profile_v4/xigua/upload-video"
     file := ["input[type='file']", "input.upload-file"]
     title := ["input[placeholder*='标题']", "input[name='title']"]
     shortTitle := none
     description := ["div[contenteditable='true']", "textarea[placeholder*='简介']"]
     submit := ["button[type='submit']", "button.publish-button"]
     draft := ["button[data-action='draft']", "button.draft-button"]
     success := [".publish-success", "[data-status='published']"] },
   { platform := .kuaishou
     uploadUrl := "https://cp.kuaishou.com/article/publish/video?tabType=1"
     file := ["input[type='file']", "input.upload-file"]
     title := ["#work-description-edit", "input[placeholder*='标题']"]
     shortTitle := none
     description := ["#work-description-edit", "textarea[placeholder*='描述']"]
     submit := ["button[type='submit']", "button.publish-button"]
     draft := ["button[data-action='draft']", "button.draft-button"]
     success := [".publish-result-success", ".publish-success"] },
   { platform := .xiaohongshu
     uploadUrl := "https://creator.xiaohongshu.com/publish/publish?from=menu&target=video"
     file := ["input[type='file']", "input.upload-file"]
     title := ["input[placeholder*='填写标题']", "textarea[placeholder*='标题']"]
     shortTitle := none
     description := ["div[contenteditable='true']", "textarea[placeholder*='正文']"]
     submit := ["button[type='submit']", "button.publish-button"]
     draft := ["button[data-action='draft']", "button.draft-button"]
     success := [".publish-success", "[data-status='published']"] },
   { platform := .fanqieVideo
     uploadUrl := "https://pugc.yueduwuxian.com/fqvideo/home/publish-video"
     file := ["input[type='file']", "input.upload-file"]
     title := ["input[placeholder*='标题']", "textarea[placeholder*='标题']"]
     shortTitle := none
     description := ["div[contenteditable='true']", "textarea[placeholder*='描述']"]
     submit := ["button[type='submit']", "button.publish-button"]
     draft := ["button[data-action='draft']", "button.draft-button"]
     success := [".publish-success", "[data-status='published']"] }]

def profile (platform : Platform) : Option PlatformProfile :=
  profiles.find? fun profile => profile.platform = platform

/-- Every platform has a profile, its own. -/
theorem profile_isSome (platform : Platform) :
    ∃ p, profile platform = some p ∧ p.platform = platform := by
  cases platform <;> exact ⟨_, rfl, rfl⟩

/-- No selector of a form is a success selector of its platform. -/
theorem metadata_selectors {p : PlatformProfile} (h : p ∈ profiles) :
    ∀ selector ∈ p.file ++ p.title ++ p.shortTitle.getD [] ++ p.description,
      selector ∉ p.success := by
  have hall : ∀ p ∈ profiles,
      ∀ selector ∈ p.file ++ p.title ++ p.shortTitle.getD [] ++ p.description,
        selector ∉ p.success := by decide +kernel
  exact hall p h

/-- Nor is one of an action. -/
theorem action_selectors {p : PlatformProfile} (h : p ∈ profiles) :
    ∀ selector ∈ p.submit ++ p.draft, selector ∉ p.success := by
  have hall : ∀ p ∈ profiles, ∀ selector ∈ p.submit ++ p.draft, selector ∉ p.success := by
    decide +kernel
  exact hall p h

/-- The success selectors of a profile are distinct. -/
theorem success_nodup {p : PlatformProfile} (h : p ∈ profiles) : p.success.Nodup := by
  have hall : ∀ p ∈ profiles, p.success.Nodup := by decide +kernel
  exact hall p h

theorem profile_mem {platform : Platform} {p : PlatformProfile} (h : profile platform = some p) :
    p ∈ profiles := List.mem_of_find?_eq_some h

/-! ## 2. Poll attempts -/

def acknowledgementAttempts : Nat := 60
def wechatShadowActionPollAttempts : Nat := 30
def wechatUploadReadyPollAttempts : Nat := 150
def bilibiliUploadReadyPollAttempts : Nat := 150
def douyinStatementPollAttempts : Nat := 30
/-- Thirty seconds, in steps of two hundred milliseconds. -/
def douyinReadyPollAttempts : Nat := 150
def baijiahaoActionPollAttempts : Nat := 30
def kuaishouActionPollAttempts : Nat := 30
def fanqiePublishPollAttempts : Nat := 30
def fanqieReviewScrollAttempts : Nat := 6

def fanqieVideoListUrl : String := "https://pugc.yueduwuxian.com/fqvideo/home/video-list"

/-! ## 3. Creative statements -/

/-- The statement of a request for a platform, trimmed. -/
def statementValue (platform : Platform) (request : PublishRequest) : Option String :=
  ((request.overrides.find? fun item => item.platform = platform).bind
    (·.creativeStatement)).map trim

/-- The label of the first row that lists the statement's spelling, or the fallback. An absent
    statement has no label. -/
def statementLabel (table : List (List String × String)) (fallback : Option String)
    (platform : Platform) (request : PublishRequest) : Option String := do
  let value ← statementValue platform request
  match table.find? fun row => value ∈ row.1 with
  | some (_, label) => some label
  | none => fallback

def aiSpellings : List String :=
  ["ai_generated", "AI生成", "含AI生成内容", "内容由AI生成", "内容为AI生成", "笔记含AI合成内容"]

def fictionSpellings : List String :=
  ["fiction", "虚构演绎", "含虚构演绎内容", "虚构演绎，仅供娱乐", "演绎情节，仅供娱乐",
    "虚构演绎，故事经历"]

def marketingSpellings : List String :=
  ["marketing", "营销推广", "内容含营销信息", "内容含营销推广信息"]

def opinionSpellings : List String :=
  ["personal_opinion", "个人观点", "个人观点，仅供参考", "内容为个人观点或见解"]

def repostSpellings : List String :=
  ["repost", "转载", "内容为转载", "内容为转载信息", "取自站外", "素材来源于网络"]

def selfShotSpellings : List String := ["self_shot", "自行拍摄", "内容为自行拍摄"]

def wechatCreativeStatementLabel : PublishRequest → Option String :=
  statementLabel
    [(aiSpellings, "含AI生成内容"),
      (fictionSpellings, "内容为虚构剧情，仅供娱乐"),
      (marketingSpellings, "内容包含营销广告"),
      (opinionSpellings, "个人观点，仅供参考"),
      (repostSpellings, "内容为转载"),
      (selfShotSpellings, "内容为自行拍摄")] none .wechatChannels

def douyinAutonomousStatementLabel : PublishRequest → Option String :=
  statementLabel
    [(aiSpellings, "内容由AI生成"),
      (fictionSpellings, "虚构演绎，仅供娱乐"),
      (marketingSpellings, "内容含营销推广信息"),
      (opinionSpellings, "内容为个人观点或见解"),
      (repostSpellings, "内容为转载信息")] (some "无需添加自主声明") .douyin

def baijiahaoCreativeStatementLabel : PublishRequest → Option String :=
  statementLabel
    [(aiSpellings, "含AI生成内容"),
      (fictionSpellings, "含虚构演绎内容"),
      (marketingSpellings, "内容含营销信息"),
      (opinionSpellings, "个人观点，仅供参考"),
      (repostSpellings, "内容为转载")] (some "无需声明") .baijiahao

def bilibiliCreativeStatementLabel : PublishRequest → Option String :=
  statementLabel
    [(["none", "无标注", "内容无需标注", "无需添加自主声明", "无需标注", "无需声明"], "内容无需标注"),
      (aiSpellings, "含AI生成内容"),
      (fictionSpellings ++ ["内容为虚构剧情，仅供娱乐"], "含虚构演绎内容"),
      (marketingSpellings ++ ["内容包含营销广告"], "内容含营销信息"),
      (opinionSpellings, "个人观点，仅供参考"),
      (repostSpellings, "内容为转载"),
      (selfShotSpellings, "自行拍摄"),
      (["self_made_no_repost", "自制禁转载", "内容为自制：未经作者允许，禁止转载"],
        "内容为自制：未经作者允许，禁止转载")] (some "内容无需标注") .bilibili

def kuaishouCreativeStatementLabel : PublishRequest → Option String :=
  statementLabel
    [(aiSpellings, "内容为AI生成"),
      (fictionSpellings ++ ["内容为虚构剧情，仅供娱乐"], "演绎情节，仅供娱乐"),
      (opinionSpellings, "个人观点，仅供参考"),
      (repostSpellings, "素材来源于网络")] none .kuaishou

def toutiaoCreativeStatementLabel : PublishRequest → Option String :=
  statementLabel
    [(aiSpellings, "AI生成"),
      (fictionSpellings ++ ["内容为虚构剧情，仅供娱乐"], "虚构演绎，故事经历"),
      (repostSpellings, "取自站外")] none .toutiao

def xiaohongshuCreativeStatementLabel : PublishRequest → Option String :=
  statementLabel
    [(aiSpellings, "笔记含AI合成内容"),
      (fictionSpellings ++ ["内容为虚构剧情，仅供娱乐"], "虚构演绎，仅供娱乐"),
      (marketingSpellings ++ ["内容包含营销广告"], "内容包含营销广告")] none .xiaohongshu

/-- The label `publish` resolves for its platform. -/
def creativeStatement : Platform → PublishRequest → Option String
  | .wechatChannels => wechatCreativeStatementLabel
  | .douyin => douyinAutonomousStatementLabel
  | .baijiahao => baijiahaoCreativeStatementLabel
  | .bilibili => bilibiliCreativeStatementLabel
  | .kuaishou => kuaishouCreativeStatementLabel
  | .toutiao => toutiaoCreativeStatementLabel
  | .xiaohongshu => xiaohongshuCreativeStatementLabel
  | .fanqieVideo => fun _ => none

/-! ## 4. Texts -/

/-- The override of a platform. -/
def overrideOf (platform : Platform) (request : PublishRequest) : Option PlatformOverride :=
  request.overrides.find? fun item => item.platform = platform

/-- `value.eq_ignore_ascii_case(other)`. -/
def eqIgnoreAsciiCase (value other : String) : Bool :=
  toAsciiLowercase value = toAsciiLowercase other

/-- `char::is_control`: the general category Cc. -/
def isControl (c : Char) : Bool := c.toNat < 0x20 || (0x7f ≤ c.toNat && c.toNat < 0xa0)

/-- `wechat_product_id`: an explicit product comes before the link. -/
def wechatProductId (request : PublishRequest) : Except String (Option String) := do
  let link := request.wechatLink
  let linkValue := link.linkValue.map trim
  let selected ← match (link.productId.map trim).filter (· ≠ "") with
    | some productId => .ok (some productId)
    | none =>
      match link.linkType.map trim with
      | none =>
        if linkValue.isNone then .ok none
        else .error "WeChat link type is required for its link value"
      | some value =>
        if eqIgnoreAsciiCase value "none" then .ok none
        else if eqIgnoreAsciiCase value "product" then
          match linkValue.filter (· ≠ "") with
          | some productId => .ok (some productId)
          | none => .error "WeChat product link requires a non-empty product identifier"
        else .error "WeChat link type is not supported by the local runner"
  match selected with
  | none => .ok none
  | some productId =>
    if productId.utf8ByteSize > 128 ∨ productId.toList.any isControl then
      .error "WeChat product identifier is malformed"
    else .ok (some productId)

/-- The tags of a request for a platform: the override's, if it has any. -/
def tagsFor (platform : Platform) (request : PublishRequest) : List String :=
  ((overrideOf platform request).bind (·.tags)).getD request.tags

/-- `description`. -/
def description (platform : Platform) (request : PublishRequest) : String :=
  let fields := (tagsFor platform request).map ("#" ++ ·) ++ request.address.toList ++
    match platform with
    | .fanqieVideo => ((overrideOf platform request).bind (·.creativeStatement)).toList
    | _ => []
  " ".intercalate fields

/-- `title`. -/
def title (platform : Platform) (request : PublishRequest) : String :=
  ((overrideOf platform request).bind (·.title)).getD request.title

/-- `short_title`. -/
def shortTitle (platform : Platform) (request : PublishRequest) : Option String :=
  ((((overrideOf platform request).bind (·.shortTitle)).or request.shortTitle).map trim).filter
    (· ≠ "")

end WebDriver

end MatriXpost
