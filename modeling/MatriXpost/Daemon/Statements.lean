/-
  File:      MatriXpost/Daemon/Statements.lean
  Subject:   THE CREATIVE STATEMENTS THE DAEMON PUBLISHES, and whether the runner's resolvers agree
             on them.

  Sources: `matrixpostd/src/metadata.rs` (`creative_statements_response`, `platform_statements`,
  `platform_label`), the `*_statement_label` functions of `profiles/`.

  One statement is sent to all targets, so a text that declares something on one platform should
  declare the same on every platform that has the declaration. It does for every text but two,
  which are labels of WeChat Channels (`statements_agree`). The proof looks at the spellings of a
  class only: `resolve_spelled` says that nothing else resolves to a label of the class.
-/
import MatriXpost.Lib.Checked
import MatriXpost.WebDriver.Profiles

namespace MatriXpost

open WebDriver (creativeStatement statementValue statementLabel aiSpellings fictionSpellings
  marketingSpellings opinionSpellings repostSpellings)

/-! ## 1. What is published -/

/-- The rows of `platform_label`: names of platforms, a value, the label. -/
def platformLabels : List (List String × String × String) :=
  [(["哔哩哔哩"], "none", "内容无需标注"),
    (["抖音"], "none", "无需添加自主声明"),
    (["百家号"], "none", "无需声明"),
    (["视频号"], "none", "无需标注"),
    (["哔哩哔哩", "百家号", "视频号"], "ai_generated", "含AI生成内容"),
    (["抖音"], "ai_generated", "内容由AI生成"),
    (["快手"], "ai_generated", "内容为AI生成"),
    (["头条"], "ai_generated", "AI生成"),
    (["小红书"], "ai_generated", "笔记含AI合成内容"),
    (["哔哩哔哩", "百家号"], "fiction", "含虚构演绎内容"),
    (["抖音"], "fiction", "虚构演绎，仅供娱乐"),
    (["快手"], "fiction", "演绎情节，仅供娱乐"),
    (["头条"], "fiction", "虚构演绎，故事经历"),
    (["小红书"], "fiction", "虚构演绎，仅供娱乐"),
    (["视频号"], "fiction", "内容为虚构剧情，仅供娱乐"),
    (["哔哩哔哩", "百家号"], "marketing", "内容含营销信息"),
    (["抖音"], "marketing", "内容含营销推广信息"),
    (["小红书", "视频号"], "marketing", "内容包含营销广告"),
    (["哔哩哔哩", "百家号", "快手", "视频号"], "personal_opinion", "个人观点，仅供参考"),
    (["抖音"], "personal_opinion", "内容为个人观点或见解"),
    (["哔哩哔哩", "百家号", "视频号"], "repost", "内容为转载"),
    (["抖音"], "repost", "内容为转载信息"),
    (["头条"], "repost", "取自站外"),
    (["快手"], "repost", "素材来源于网络"),
    (["视频号"], "self_shot", "内容为自行拍摄"),
    (["哔哩哔哩"], "self_made_no_repost", "内容为自制：未经作者允许，禁止转载")]

/-- `platform_label`. -/
def platformLabel (platform value : String) : Checked String :=
  match platformLabels.find? fun row => platform ∈ row.1 ∧ value = row.2.1 with
  | some (_, _, label) => .ok label
  | none =>
    .error (.unreachable ("unsupported static statement tuple: " ++ platform ++ "/" ++ value))

structure PlatformCreativeStatementOption where
  value : String
  label : String
deriving DecidableEq, Repr

structure PlatformCreativeStatements where
  name : String
  supports : Bool
  options : List PlatformCreativeStatementOption
deriving DecidableEq, Repr

/-- `platform_statements`. -/
def platformStatements (name : String) (supports : Bool) (values : List String) :
    Checked PlatformCreativeStatements := do
  let options ← values.mapM fun value => do
    return ⟨value, ← platformLabel name value⟩
  return ⟨name, supports, options⟩

/-- The `platforms` of `creative_statements_response`, a platform at a time. -/
def publishedStatements : Platform → Checked PlatformCreativeStatements
  | .douyin => platformStatements "抖音" true
      ["none", "ai_generated", "fiction", "marketing", "personal_opinion", "repost"]
  | .wechatChannels => platformStatements "视频号" true
      ["none", "ai_generated", "fiction", "marketing", "personal_opinion", "repost", "self_shot"]
  | .bilibili => platformStatements "哔哩哔哩" true
      ["none", "ai_generated", "fiction", "marketing", "personal_opinion", "repost",
        "self_made_no_repost"]
  | .baijiahao => platformStatements "百家号" true
      ["none", "ai_generated", "fiction", "marketing", "personal_opinion", "repost"]
  | .toutiao => platformStatements "头条" true ["ai_generated", "fiction", "repost"]
  | .kuaishou => platformStatements "快手" true
      ["ai_generated", "fiction", "personal_opinion", "repost"]
  | .xiaohongshu => platformStatements "小红书" true ["ai_generated", "fiction", "marketing"]
  | .fanqieVideo => platformStatements "番茄视频" false []

/-- **Every label that is published is in the table.** -/
theorem publishedStatements_ok (platform : Platform) :
    ∃ statements, publishedStatements platform = .ok statements := by
  cases platform <;> exact ⟨_, rfl⟩

/-! ## 2. Classes of declarations -/

/-- The declarations several platforms have. -/
inductive DeclarationClass where
  | aiGenerated | fiction | marketing | personalOpinion | repost
deriving DecidableEq, Repr

namespace DeclarationClass

def all : List DeclarationClass := [aiGenerated, fiction, marketing, personalOpinion, repost]

theorem mem_all (c : DeclarationClass) : c ∈ all := by cases c <;> decide

/-- The value a class has in the metadata. -/
def value : DeclarationClass → String
  | aiGenerated => "ai_generated"
  | fiction => "fiction"
  | marketing => "marketing"
  | personalOpinion => "personal_opinion"
  | repost => "repost"

/-- WeChat Channels' label of fiction, and its (and Xiaohongshu's) of marketing: the spellings not
    every resolver lists. -/
def unshared : List String := ["内容为虚构剧情，仅供娱乐", "内容包含营销广告"]

/-- Every spelling some resolver lists under a label of the class. -/
def spellings : DeclarationClass → List String
  | aiGenerated => aiSpellings
  | fiction => fictionSpellings ++ ["内容为虚构剧情，仅供娱乐"]
  | marketing => marketingSpellings ++ ["内容包含营销广告"]
  | personalOpinion => opinionSpellings
  | repost => repostSpellings

end DeclarationClass

/-- A platform's own label of a class, if its published options include the class. -/
def classLabel (platform : Platform) (c : DeclarationClass) : Option String :=
  match publishedStatements platform with
  | .ok statements => (statements.options.find? fun item => item.value = c.value).map (·.label)
  | .error _ => none

/-! ## 3. What a resolver looks at -/

/-- The request gives the platform this statement. -/
def GivesStatement (request : PublishRequest) (platform : Platform) (statement : String) : Prop :=
  (request.overrides.find? fun item => item.platform = platform).bind (·.creativeStatement)
    = some statement

theorem statementValue_of_gives {request : PublishRequest} {platform : Platform}
    {statement : String} (h : GivesStatement request platform statement) :
    statementValue platform request = some (trim statement) := by
  unfold statementValue
  rw [h]
  rfl

/-- A resolver looks at the statement for its platform and nothing else. -/
theorem creativeStatement_congr {request request' : PublishRequest} {platform : Platform}
    (h : statementValue platform request = statementValue platform request') :
    creativeStatement platform request = creativeStatement platform request' := by
  have hlabel : ∀ table fallback, statementLabel table fallback platform request
      = statementLabel table fallback platform request' := by
    intro table fallback
    unfold statementLabel
    rw [h]
  cases platform with
  | fanqieVideo => rfl
  | _ => exact hlabel _ _

/-- A request with one statement. -/
def statementRequest (platform : Platform) (statement : String) : PublishRequest where
  source := .localFile (.utf8 "movie.mp4")
  title := "title"
  shortTitle := none
  tags := []
  address := none
  draft := false
  bt2 := none
  scheduledAt := none
  taskName := none
  account := default
  wechatLink := default
  overrides := [⟨platform, none, none, none, some statement, none, none⟩]
  targets := [platform]

theorem statementRequest_gives (platform : Platform) (statement : String) :
    GivesStatement (statementRequest platform statement) platform statement := by
  simp [GivesStatement, statementRequest]

/-! ## 4. Only spellings of a class resolve to its labels -/

/-- No fallback and no row of another class has the label of a class. -/
def LabelsOnly (table : List (List String × String)) (fallback : Option String)
    (platform : Platform) : Prop :=
  ∀ c ∈ DeclarationClass.all, ∀ label ∈ (classLabel platform c).toList, fallback ≠ some label ∧
    ∀ row ∈ table, row.2 = label → ∀ spelling ∈ row.1, spelling ∈ c.spellings

instance (table : List (List String × String)) (fallback : Option String) (platform : Platform) :
    Decidable (LabelsOnly table fallback platform) :=
  inferInstanceAs (Decidable (∀ c ∈ DeclarationClass.all, _))

section Spelled

variable {request : PublishRequest} {platform : Platform} {c : DeclarationClass}
  {value label : String}

theorem spelled_of_labelsOnly {table : List (List String × String)} {fallback : Option String}
    (honly : LabelsOnly table fallback platform)
    (hvalue : statementValue platform request = some value)
    (hlabel : classLabel platform c = some label)
    (h : statementLabel table fallback platform request = some label) : value ∈ c.spellings := by
  have hmem : label ∈ (classLabel platform c).toList := by simp [hlabel]
  obtain ⟨hfallback, hrows⟩ := honly c c.mem_all label hmem
  unfold statementLabel at h
  rw [hvalue] at h
  cases hrow : table.find? fun row => value ∈ row.1 with
  | none =>
    simp only [Option.bind_eq_bind, Option.bind_some, hrow] at h
    exact absurd h hfallback
  | some row =>
    simp only [Option.bind_eq_bind, Option.bind_some, hrow] at h
    have hin : value ∈ row.1 := by simpa using List.find?_some hrow
    exact hrows row (List.mem_of_find?_eq_some hrow) (Option.some.inj h) value hin

/-- **What resolves to a label of a class is one of its spellings.** -/
theorem resolve_spelled (hvalue : statementValue platform request = some value)
    (hlabel : classLabel platform c = some label)
    (h : creativeStatement platform request = some label) : value ∈ c.spellings := by
  cases platform with
  | fanqieVideo => cases h
  | douyin => exact spelled_of_labelsOnly (by decide +kernel) hvalue hlabel h
  | wechatChannels => exact spelled_of_labelsOnly (by decide +kernel) hvalue hlabel h
  | bilibili => exact spelled_of_labelsOnly (by decide +kernel) hvalue hlabel h
  | baijiahao => exact spelled_of_labelsOnly (by decide +kernel) hvalue hlabel h
  | toutiao => exact spelled_of_labelsOnly (by decide +kernel) hvalue hlabel h
  | kuaishou => exact spelled_of_labelsOnly (by decide +kernel) hvalue hlabel h
  | xiaohongshu => exact spelled_of_labelsOnly (by decide +kernel) hvalue hlabel h

theorem trim_spelling (hspelled : value ∈ c.spellings) : trim value = value := by
  have hall : ∀ c ∈ DeclarationClass.all, ∀ value ∈ c.spellings, trim value = value := by
    decide +kernel
  exact hall c c.mem_all value hspelled

/-- A label of a class is one of its spellings. -/
theorem label_spelled (hlabel : classLabel platform c = some label) : label ∈ c.spellings := by
  have hall : ∀ c ∈ DeclarationClass.all, ∀ platform ∈ Platform.all,
      ∀ label ∈ (classLabel platform c).toList, label ∈ c.spellings := by
    decide +kernel
  exact hall c c.mem_all platform platform.mem_all label (by simp [hlabel])

/-- **A shared spelling of a class resolves to its label on every platform that has it.** -/
theorem spelled_resolves (hvalue : statementValue platform request = some value)
    (hspelled : value ∈ c.spellings) (hshared : value ∉ DeclarationClass.unshared)
    (hlabel : classLabel platform c = some label) :
    creativeStatement platform request = some label := by
  have hall : ∀ c ∈ DeclarationClass.all, ∀ platform ∈ Platform.all,
      ∀ label ∈ (classLabel platform c).toList, ∀ value ∈ c.spellings,
        value ∉ DeclarationClass.unshared →
        creativeStatement platform (statementRequest platform value) = some label := by
    decide +kernel
  have hgives := statementValue_of_gives (statementRequest_gives platform value)
  rw [trim_spelling hspelled, ← hvalue] at hgives
  rw [← creativeStatement_congr hgives]
  exact hall c c.mem_all platform platform.mem_all label (by simp [hlabel]) value hspelled hshared

end Spelled

/-! ## 5. Agreement -/

/-- A statement that declares a class on one platform, or is published as its label there,
    declares it on every platform that has it. -/
def StatementAgrees (statement : String) : Prop :=
  ∀ (c : DeclarationClass) (platform other : Platform) (label otherLabel : String)
    (request otherRequest : PublishRequest),
    GivesStatement request platform statement → GivesStatement otherRequest other statement →
    classLabel platform c = some label → classLabel other c = some otherLabel →
    creativeStatement platform request = some label ∨ statement = label →
    creativeStatement other otherRequest = some otherLabel

/-- Each of the two labels resolves on Bilibili and not on WeChat Channels. -/
theorem unshared_disagree {value : String} (h : value ∈ DeclarationClass.unshared) :
    ∃ c label otherLabel, classLabel .bilibili c = some label ∧
      classLabel .wechatChannels c = some otherLabel ∧ trim value = value ∧
      creativeStatement .bilibili (statementRequest .bilibili value) = some label ∧
      creativeStatement .wechatChannels (statementRequest .wechatChannels value) = none := by
  simp only [DeclarationClass.unshared, List.mem_cons, List.not_mem_nil, or_false] at h
  rcases h with rfl | rfl
  · exact ⟨.fiction, _, _, rfl, rfl, by decide +kernel, by decide +kernel, by decide +kernel⟩
  · exact ⟨.marketing, _, _, rfl, rfl, by decide +kernel, by decide +kernel, by decide +kernel⟩

/-- **The resolvers agree on a statement if and only if it is not one of the two labels.** -/
theorem statements_agree (statement : String) :
    StatementAgrees statement ↔ trim statement ∉ DeclarationClass.unshared := by
  constructor
  · intro hagrees hunshared
    obtain ⟨c, label, otherLabel, hlabel, hother, htrim, hresolves, hnone⟩ :=
      unshared_disagree hunshared
    have hbilibili := statementRequest_gives .bilibili statement
    have hwechat := statementRequest_gives .wechatChannels statement
    -- the statement and its trimmed form are resolved alike
    have hsame : ∀ platform, statementValue platform (statementRequest platform statement)
        = statementValue platform (statementRequest platform (trim statement)) := by
      intro platform
      rw [statementValue_of_gives (statementRequest_gives platform statement),
        statementValue_of_gives (statementRequest_gives platform (trim statement)), htrim]
    rw [← creativeStatement_congr (hsame .bilibili)] at hresolves
    rw [← creativeStatement_congr (hsame .wechatChannels)] at hnone
    have hsome := hagrees c .bilibili .wechatChannels label otherLabel _ _ hbilibili hwechat hlabel
      hother (.inl hresolves)
    rw [hnone] at hsome
    cases hsome
  · intro hshared c platform other label otherLabel request otherRequest hgives hother hlabel
      hotherLabel hdeclares
    have hspelled : trim statement ∈ c.spellings := by
      rcases hdeclares with hresolves | rfl
      · exact resolve_spelled (statementValue_of_gives hgives) hlabel hresolves
      · have hin : statement ∈ c.spellings := label_spelled hlabel
        rwa [trim_spelling hin]
    exact spelled_resolves (statementValue_of_gives hother) hspelled hshared hotherLabel

/-- **WeChat Channels does not know its own label of fiction**, which others resolve. -/
theorem not_statementAgrees_wechat :
    classLabel .wechatChannels .fiction = some "内容为虚构剧情，仅供娱乐" ∧
      creativeStatement .wechatChannels
        (statementRequest .wechatChannels "内容为虚构剧情，仅供娱乐") = none ∧
      ¬ ∀ statement, StatementAgrees statement := by
  have hlabel : classLabel .wechatChannels .fiction = some "内容为虚构剧情，仅供娱乐" := rfl
  have hnone : creativeStatement .wechatChannels
      (statementRequest .wechatChannels "内容为虚构剧情，仅供娱乐") = none := by decide +kernel
  refine ⟨hlabel, hnone, ?_⟩
  intro hall
  have hgives := statementRequest_gives .wechatChannels "内容为虚构剧情，仅供娱乐"
  have hsome := hall _ .fiction .wechatChannels .wechatChannels _ _ _ _ hgives hgives hlabel
    hlabel (.inr rfl)
  rw [hnone] at hsome
  cases hsome

end MatriXpost
