/-
  File:      MatriXpost/Upstream/Dto.lean
  Subject:   THE UPSTREAM PUBLICATION INPUT and its conversion to a request: `upstream.rs`.

  The entries of `platform`, `platforms` and `platformOptions` become overrides in this order; the
  statements of `creativeStatements` are put on the first override of their platform, or on one of
  their own; overrides of one platform are then merged, and each platform left is a target.

  * `PublishRequest.tryFrom` is the conversion; `Url::parse` is a parameter;
  * `tryFrom_ok` says what a conversion that succeeds went through.
-/
import MatriXpost.Core.Request
import MatriXpost.Lib.SortedMap
import MatriXpost.Lib.Select
import Mathlib.Logic.Function.Basic

namespace MatriXpost

/-! ## 1. The input -/

structure UpstreamSphLink where
  linkType : Option String
  linkValue : Option String
deriving DecidableEq, Repr

structure UpstreamPlatformOption where
  platform : String
  phone : Option String
  partition : Option String
  title : Option String
  shortTitle : Option String
  tags : Option (List String)
  creativeStatement : Option String
  link : Option UpstreamSphLink
deriving DecidableEq, Repr

/-- `UpstreamPlatformOption { platform, ..Default::default() }`. -/
def UpstreamPlatformOption.named (platform : String) : UpstreamPlatformOption :=
  ⟨platform, none, none, none, none, none, none, none⟩

inductive UpstreamTargets where
  | name (platform : String)
  | names (items : List String)
  | target (item : UpstreamPlatformOption)
  | targets (items : List UpstreamPlatformOption)

def UpstreamTargets.intoOptions : UpstreamTargets → List UpstreamPlatformOption
  | name platform => [.named platform]
  | names items => items.map .named
  | target item => [item]
  | targets items => items

inductive UpstreamTags where
  | text (value : String)
  | values (value : List String)
  | empty

/-- `values`: a text is split at blanks and commas. -/
def UpstreamTags.toValues : UpstreamTags → List String
  | text value =>
    ((value.toList.splitOnP fun c => c = ' ' ∨ c = ',').filter (· ≠ [])).map String.ofList
  | values value => value
  | empty => []

inductive UpstreamPlatformOptions where
  | map (entries : SortedMap String UpstreamPlatformOption)
  | values (items : List UpstreamPlatformOption)

/-- An option of a map without a platform of its own is for the key. -/
def UpstreamPlatformOptions.intoOptions : UpstreamPlatformOptions → List UpstreamPlatformOption
  | values items => items
  | map entries => entries.entries.map fun (platform, option) =>
    if option.platform = "" then { option with platform := platform } else option

structure UpstreamPublishDto where
  platform : Option UpstreamTargets
  platforms : Option UpstreamTargets
  file : String
  title : String
  tags : UpstreamTags
  phone : Option String
  partition : Option String
  publishAt : Option String
  sphProductId : Option String
  sphLink : Option UpstreamSphLink
  platformOptions : Option UpstreamPlatformOptions
  creativeStatement : Option String
  creativeStatements : Option (SortedMap String String)
  bt2 : Option String
  draft : Bool
  shortTitle : Option String
  address : Option String
  name : Option String

namespace UpstreamPublishDto

/-- The entries of `platform` and of `platforms`. -/
def targetEntries (value : UpstreamPublishDto) : List UpstreamPlatformOption :=
  (value.platform.toList ++ value.platforms.toList).flatMap UpstreamTargets.intoOptions

def optionEntries (value : UpstreamPublishDto) : List UpstreamPlatformOption :=
  value.platformOptions.toList.flatMap UpstreamPlatformOptions.intoOptions

/-- `options`. -/
def entries (value : UpstreamPublishDto) : List UpstreamPlatformOption :=
  value.targetEntries ++ value.optionEntries

/-- `creative_statements.unwrap_or_default()`, in key order. -/
def statements (value : UpstreamPublishDto) : List (String × String) :=
  (value.creativeStatements.map (·.entries)).getD []

end UpstreamPublishDto

/-! ## 2. The overrides -/

/-- The override an entry for this platform becomes, with the account of the input where the entry
    gives none. -/
def UpstreamPlatformOption.overrideFor (item : UpstreamPlatformOption) (account : AccountSelection)
    (platform : Platform) : PlatformOverride where
  platform := platform
  title := item.title
  shortTitle := item.shortTitle
  tags := item.tags
  creativeStatement := item.creativeStatement
  account := some ⟨item.phone.or account.phone, item.partition.or account.partition⟩
  wechatLink := item.link.map fun link => ⟨none, link.linkType, link.linkValue⟩

def UpstreamPlatformOption.toOverride (item : UpstreamPlatformOption) (account : AccountSelection) :
    Except DomainError PlatformOverride :=
  (Platform.fromStr item.platform).map (item.overrideFor account)

/-- An override that gives a statement only. -/
def PlatformOverride.ofStatement (platform : Platform) (statement : String) : PlatformOverride :=
  ⟨platform, none, none, none, some statement, none, none⟩

/-- The first override of the platform gets the statement; without one, a new one has it. -/
def applyStatement (platform : Platform) (statement : String) :
    List PlatformOverride → List PlatformOverride
  | [] => [.ofStatement platform statement]
  | target :: rest =>
    if target.platform = platform then { target with creativeStatement := some statement } :: rest
    else target :: applyStatement platform statement rest

/-- `for (name, statement) in creative_statements`. -/
def applyStatements : List (String × String) → List PlatformOverride →
    Except DomainError (List PlatformOverride)
  | [], overrides => .ok overrides
  | (name, statement) :: rest, overrides => do
    let platform ← Platform.fromStr name
    applyStatements rest (applyStatement platform statement overrides)

/-- What a later override of the same platform changes. -/
def PlatformOverride.merge (current overrideValue : PlatformOverride) : PlatformOverride where
  platform := current.platform
  title := overrideValue.title.or current.title
  shortTitle := overrideValue.shortTitle.or current.shortTitle
  tags := overrideValue.tags.or current.tags
  creativeStatement := overrideValue.creativeStatement.or current.creativeStatement
  account := overrideValue.account.or current.account
  wechatLink := overrideValue.wechatLink.or current.wechatLink

/-- `entry(platform).and_modify(..).or_insert(override_value)`. -/
def mergeInto (normalized : Platform → Option PlatformOverride) (overrideValue : PlatformOverride) :
    Platform → Option PlatformOverride :=
  Function.update normalized overrideValue.platform
    (some (match normalized overrideValue.platform with
      | some current => current.merge overrideValue
      | none => overrideValue))

/-- The map `normalized`. -/
def normalize (overrides : List PlatformOverride) : Platform → Option PlatformOverride :=
  overrides.foldl mergeInto fun _ => none

/-- `normalized.into_values()`, in the order of the platforms. -/
def normalizedValues (overrides : List PlatformOverride) : List PlatformOverride :=
  Platform.all.filterMap (normalize overrides)

/-- `creative_statement` of the whole input, where an override has none. -/
def fillStatement (statement : Option String) (o : PlatformOverride) : PlatformOverride :=
  { o with creativeStatement := o.creativeStatement.or statement }

/-! ## 3. The conversion -/

/-- A file that parses as a URL is remote, any other is a path. -/
def upstreamSource (parseUrl : String → Option Url) (file : String) :
    Except DomainError MediaSource :=
  match parseUrl file with
  | some url =>
    if url.scheme = "http" ∨ url.scheme = "https" then .ok (.remoteUrl url)
    else .error (.unsupportedRemoteScheme url.scheme)
  | none => .ok (.localFile (.utf8 file))

/-- `publish_at.map(LocalSchedule::parse).transpose()`. -/
def upstreamSchedule : Option String → Except DomainError (Option LocalSchedule)
  | none => .ok none
  | some text => (LocalSchedule.parse text).map some

/-- The link of the request: the input's, each part falling back to that of the WeChat option; the
    type at last to `product`, if a product is given. -/
def upstreamLink (value : UpstreamPublishDto) (overrides : List PlatformOverride) : WechatLink :=
  let optionLink := (overrides.find? (·.platform = .wechatChannels)).bind (·.wechatLink)
  let productLinkType := value.sphProductId.map fun _ => "product"
  { productId := value.sphProductId
    linkType := ((value.sphLink.bind (·.linkType)).or (optionLink.bind (·.linkType))).or
      productLinkType
    linkValue := (value.sphLink.bind (·.linkValue)).or (optionLink.bind (·.linkValue)) }

/-- `PublishRequest::try_from(value)`. -/
def PublishRequest.tryFrom (parseUrl : String → Option Url) (value : UpstreamPublishDto) :
    Except DomainError PublishRequest := do
  let account : AccountSelection := ⟨value.phone, value.partition⟩
  let _parsedTargets ← value.entries.mapM fun item => Platform.fromStr item.platform
  let named ← value.entries.mapM fun item => item.toOverride account
  let overrides ← applyStatements value.statements named
  let overrides := normalizedValues overrides
  let source ← upstreamSource parseUrl value.file
  let scheduledAt ← upstreamSchedule value.publishAt
  let request : PublishRequest :=
    { source := source
      title := value.title
      shortTitle := value.shortTitle
      tags := value.tags.toValues
      address := value.address
      draft := value.draft
      bt2 := value.bt2
      scheduledAt := scheduledAt
      taskName := value.name
      account := account
      wechatLink := upstreamLink value overrides
      overrides := overrides.map (fillStatement value.creativeStatement)
      targets := overrides.map (·.platform) }
  request.validate
  .ok request

/-- **What a conversion that succeeds went through.** -/
theorem PublishRequest.tryFrom_ok {parseUrl : String → Option Url} {value : UpstreamPublishDto}
    {request : PublishRequest} (h : PublishRequest.tryFrom parseUrl value = .ok request) :
    ∃ named overrides,
      value.entries.mapM (fun item => item.toOverride ⟨value.phone, value.partition⟩) = .ok named ∧
      applyStatements value.statements named = .ok overrides ∧
      request.overrides =
        (normalizedValues overrides).map (fillStatement value.creativeStatement) ∧
      request.targets = (normalizedValues overrides).map (·.platform) ∧
      request.wechatLink = upstreamLink value (normalizedValues overrides) ∧
      request.validate = .ok () := by
  unfold PublishRequest.tryFrom at h
  obtain ⟨_, -, h⟩ := except_bind_ok.mp h
  obtain ⟨named, hnamed, h⟩ := except_bind_ok.mp h
  obtain ⟨overrides, hoverrides, h⟩ := except_bind_ok.mp h
  obtain ⟨source, -, h⟩ := except_bind_ok.mp h
  obtain ⟨scheduledAt, -, h⟩ := except_bind_ok.mp h
  obtain ⟨_, hvalid, h⟩ := except_bind_ok.mp h
  cases h
  exact ⟨named, overrides, hnamed, hoverrides, rfl, rfl, rfl, hvalid⟩

end MatriXpost
