/-
  File:      MatriXpost/Core/Domain.lean
  Subject:   PLATFORMS, PUBLICATION STATES AND DOMAIN ERRORS of the core crate.

  * `PublishState.canTransitionTo` is the finite transition graph; a terminal state has no edge
    out (`terminal_iff`);
  * `PublishState.db` and `fromDb` are the spelling of the state columns (`fromDb_db`,
    `db_of_fromDb`);
  * `BusinessObjectStatus` and `ApprovalStatus` are the statuses of the lifecycle store, each
    with its transition graph;
  * `DomainError` holds the failures the modelled operations return, with their texts;
    `DesktopError` is what the services of the desktop make of them.
-/
import MatriXpost.Core.Text
import MatriXpost.Lib.Sql
import Mathlib.Logic.Function.Basic

namespace MatriXpost

/-! ## 1. Platforms -/

/-- The fixed set of video platforms, in their derived order. -/
inductive Platform where
  | douyin | wechatChannels | bilibili | baijiahao | toutiao | kuaishou | xiaohongshu | fanqieVideo
deriving DecidableEq, Repr

namespace Platform

/-- The canonical upstream code. -/
def asStr : Platform → String
  | .douyin => "dy"
  | .wechatChannels => "sph"
  | .bilibili => "blbl"
  | .baijiahao => "bjh"
  | .toutiao => "tt"
  | .kuaishou => "ks"
  | .xiaohongshu => "xhs"
  | .fanqieVideo => "fqsp"

/-- The variant's name, as `{:?}` prints it. -/
def debugName : Platform → String
  | .douyin => "Douyin"
  | .wechatChannels => "WechatChannels"
  | .bilibili => "Bilibili"
  | .baijiahao => "Baijiahao"
  | .toutiao => "Toutiao"
  | .kuaishou => "Kuaishou"
  | .xiaohongshu => "Xiaohongshu"
  | .fanqieVideo => "FanqieVideo"

/-- The spellings the derived deserializer takes: the code, then the aliases. -/
def spellings : Platform → List String
  | .douyin => ["dy", "douyin", "Douyin", "抖音"]
  | .wechatChannels =>
    ["sph", "wechat_channels", "wechat", "wechat-channels", "视频号", "微信视频号"]
  | .bilibili => ["blbl", "bilibili", "Bilibili", "哔哩哔哩", "b站"]
  | .baijiahao => ["bjh", "baijiahao", "百家号"]
  | .toutiao => ["tt", "toutiao", "今日头条", "头条"]
  | .kuaishou => ["ks", "kuaishou", "快手"]
  | .xiaohongshu => ["xhs", "xiaohongshu", "小红书"]
  | .fanqieVideo => ["fqsp", "fanqie_video", "fanqie", "fanqie-video", "fq", "番茄视频"]

/-- `Platform::ALL`. -/
def all : List Platform :=
  [.douyin, .wechatChannels, .bilibili, .baijiahao, .toutiao, .kuaishou, .xiaohongshu,
    .fanqieVideo]

theorem mem_all (p : Platform) : p ∈ all := by cases p <;> decide

/-- The platform a spelling names. -/
def fromSpelling (s : String) : Option Platform := all.find? fun p => s ∈ p.spellings

/-- The serialized name of a platform names it. -/
theorem fromSpelling_asStr (p : Platform) : fromSpelling p.asStr = some p := by
  cases p <;> decide

end Platform

/-- The article platform, separate from the video set. -/
inductive ArticlePlatform where
  | juejin
deriving DecidableEq, Repr

/-- `article_platform_db`. -/
def articlePlatformDb : ArticlePlatform → String
  | .juejin => "juejin"

/-! ## 2. Publication states -/

/-- Durable state for one publication job. -/
inductive PublishState where
  | draft | queued | dispatching | published | failed | unavailable
deriving DecidableEq, Repr

/-! ## 3. Statuses of business objects -/

/-- The lifecycle phase of a business object. -/
inductive BusinessObjectStatus where
  | draft | active | completed | archived
deriving DecidableEq, Repr

/-- Approval state shared by business objects and ledger entries. -/
inductive ApprovalStatus where
  | pending | approved | rejected
deriving DecidableEq, Repr

namespace BusinessObjectStatus

/-- The variant's name, as `{:?}` prints it. -/
def debugName : BusinessObjectStatus → String
  | .draft => "Draft"
  | .active => "Active"
  | .completed => "Completed"
  | .archived => "Archived"

/-- Whether a lifecycle update is legal. -/
def canTransitionTo : BusinessObjectStatus → BusinessObjectStatus → Bool
  | .draft, .active | .draft, .archived => true
  | .active, .completed | .active, .archived => true
  | .completed, .archived => true
  | _, _ => false

end BusinessObjectStatus

namespace ApprovalStatus

/-- The variant's name, as `{:?}` prints it. -/
def debugName : ApprovalStatus → String
  | .pending => "Pending"
  | .approved => "Approved"
  | .rejected => "Rejected"

/-- Whether an approval update is legal. -/
def canTransitionTo : ApprovalStatus → ApprovalStatus → Bool
  | .pending, .approved | .pending, .rejected => true
  | .rejected, .pending => true
  | _, _ => false

end ApprovalStatus

/-! ## 4. Errors -/

/-- Typed failures of the domain and of persistence. -/
inductive DomainError where
  | unknownPlatform (value : String)
  | emptyTitle
  | emptyShortTitle
  | emptyTaskName
  | emptyArticleContent
  | missingTargets
  | duplicateTargets
  | duplicateOverrides
  | overrideOutsideTargets
  | providerPlatformNotTarget (platform : Platform)
  | emptyLocalPath
  | unsupportedRemoteScheme (scheme : String)
  | invalidSchedule (value : String)
  | invalidStateTransition (src dst : PublishState)
  | unknownJob (id : String)
  | staleJobRevision (id : String) (expected actual : Nat)
  | concurrentJobUpdate (id : String)
  | corruptState (value : String)
  | repositoryPoisoned
  | database (message : String)
  | serialization (message : String)
  | io (message : String)
  | remoteMedia (message : String)
  | disallowedContentType (contentType : String)
  | remoteMediaTooLarge (limit actual : Nat)
  | emptyLifecycleField (field : String)
  | invalidBusinessObjectAttributeKey (key : String)
  | sensitiveBusinessObjectAttributeKey (key : String)
  | invalidBusinessObjectAttributeValue (key : String)
  | invalidLedgerAmount (amount : Int)
  | invalidCurrency (currency : String)
  | duplicateBusinessObjectId (id : String)
  | duplicateBusinessObjectExternalId (kind externalId : String)
  | unknownBusinessObject (id : String)
  | invalidInitialBusinessObjectRevision (revision : Nat)
  | invalidBusinessObjectLifecycleTransition (src dst : BusinessObjectStatus)
  | invalidBusinessObjectApprovalTransition (src dst : ApprovalStatus)
  | businessObjectTransitionNoop (id : String)
  | staleBusinessObjectRevision (id : String) (expected actual : Nat)
  | concurrentBusinessObjectUpdate (id : String)
  | businessObjectRevisionOverflow (id : String)
  | duplicateLedgerEntryId (id : String)
  | duplicateBusinessRelationId (id : String)
  | duplicateBusinessRelation (source target relationType : String)
  | businessRelationSelfReference (id : String)
  | invalidBusinessRelationAttributeKey (key : String)
  | sensitiveBusinessRelationAttributeKey (key : String)
  | invalidBusinessRelationAttributeValue (key : String)
  | unknownHistoryRecord (id : String)
  | duplicateContentAttribution (businessObjectId historyId : String)
deriving DecidableEq, Repr

instance : DatabaseError DomainError := ⟨DomainError.database⟩

/-- `DesktopError`: what the services of the desktop fail with. -/
inductive DesktopError where
  | invalidRequest (message : String)
  | notFound (message : String)
  | storage (message : String)
deriving DecidableEq, Repr

/-- `article_platform_from_db`. -/
def articlePlatformFromDb (value : String) : Except DomainError ArticlePlatform :=
  match value with
  | "juejin" => .ok .juejin
  | _ => .error (.corruptState value)

@[simp] theorem articlePlatformFromDb_db (platform : ArticlePlatform) :
    articlePlatformFromDb (articlePlatformDb platform) = .ok platform := by
  cases platform
  rfl

/-! ## 5. The transition graph of publications -/

namespace PublishState

/-- The variant's name, as `{:?}` prints it. -/
def debugName : PublishState → String
  | .draft => "Draft"
  | .queued => "Queued"
  | .dispatching => "Dispatching"
  | .published => "Published"
  | .failed => "Failed"
  | .unavailable => "Unavailable"

/-- The finite transition graph enforced by the scheduler. -/
def canTransitionTo : PublishState → PublishState → Bool
  | .draft, .queued | .draft, .unavailable => true
  | .queued, .dispatching | .queued, .failed | .queued, .unavailable => true
  | .dispatching, .published | .dispatching, .failed | .dispatching, .unavailable => true
  | _, _ => false

def transition (src next : PublishState) : Except DomainError PublishState :=
  if src.canTransitionTo next then .ok next else .error (.invalidStateTransition src next)

/-- The text of a state column. -/
def db : PublishState → String
  | .draft => "draft"
  | .queued => "queued"
  | .dispatching => "dispatching"
  | .published => "published"
  | .failed => "failed"
  | .unavailable => "unavailable"

def fromDb (value : String) : Except DomainError PublishState :=
  match value with
  | "draft" => .ok .draft
  | "queued" => .ok .queued
  | "dispatching" => .ok .dispatching
  | "published" => .ok .published
  | "failed" => .ok .failed
  | "unavailable" => .ok .unavailable
  | _ => .error (.corruptState value)

/-- The states a job ends in. -/
def terminal : PublishState → Bool
  | .published | .failed | .unavailable => true
  | _ => false

@[simp] theorem fromDb_db (s : PublishState) : fromDb s.db = .ok s := by
  cases s <;> rfl

/-- A column that reads as a state holds the text of that state. -/
theorem db_of_fromDb {value : String} {s : PublishState} (h : fromDb value = .ok s) :
    value = s.db := by
  unfold fromDb at h
  split at h <;> cases h <;> rfl

theorem db_injective : Function.Injective db := by
  intro a b h
  have h' := congrArg fromDb h
  rw [fromDb_db, fromDb_db] at h'
  exact Except.ok.inj h'

@[simp] theorem db_inj {a b : PublishState} : a.db = b.db ↔ a = b := db_injective.eq_iff

theorem transition_eq_ok {src next s : PublishState} :
    src.transition next = .ok s ↔ src.canTransitionTo next = true ∧ s = next := by
  unfold transition
  split
  · rename_i h
    simp [h, eq_comm]
  · rename_i h
    simp [h]

/-- **Exactly the terminal states have no edge out.** -/
theorem terminal_iff (s : PublishState) :
    s.terminal = true ↔ ∀ next, s.canTransitionTo next = false := by
  constructor
  · intro h next
    cases s <;> first | rfl | cases h
  · intro h
    cases s with
    | draft => cases h .queued
    | queued => cases h .failed
    | dispatching => cases h .failed
    | _ => rfl

/-- The edges out of a claim lead to the terminal states, and to all of them. -/
theorem dispatching_canTransitionTo (next : PublishState) :
    PublishState.dispatching.canTransitionTo next = next.terminal := by
  cases next <;> rfl

end PublishState

/-! ## 6. The texts of the errors -/

/-- `Display` of a domain error. -/
def DomainError.text : DomainError → String
  | .unknownPlatform value => "unknown platform: " ++ value
  | .emptyTitle => "publish title must not be empty"
  | .emptyShortTitle => "short title must not be empty"
  | .emptyTaskName => "task name must not be empty"
  | .emptyArticleContent => "article content or file is required"
  | .missingTargets => "at least one platform target is required"
  | .duplicateTargets => "platform targets must be unique"
  | .duplicateOverrides => "platform overrides must be unique"
  | .overrideOutsideTargets => "platform override is not among targets"
  | .providerPlatformNotTarget platform =>
    "provider platform is not among request targets: " ++ platform.debugName
  | .emptyLocalPath => "local file path must not be empty"
  | .unsupportedRemoteScheme scheme => "remote source scheme is not supported: " ++ scheme
  | .invalidSchedule value => "scheduled time must use YYYY-MM-DD HH:mm:ss: " ++ value
  | .invalidStateTransition src dst =>
    "invalid state transition from " ++ src.debugName ++ " to " ++ dst.debugName
  | .unknownJob id => "unknown scheduled job: " ++ id
  | .staleJobRevision id expected actual =>
    "stale job revision for " ++ id ++ ": expected " ++ toString expected ++ ", actual " ++
      toString actual
  | .concurrentJobUpdate id => "concurrent job update: " ++ id
  | .corruptState value => "corrupt durable state: " ++ value
  | .repositoryPoisoned => "repository mutex was poisoned"
  | .database message => "database error: " ++ message
  | .serialization message => "serialization error: " ++ message
  | .io message => "I/O error: " ++ message
  | .remoteMedia message => "remote media error: " ++ message
  | .disallowedContentType contentType =>
      "remote media content type is not allowed: " ++ contentType
  | .remoteMediaTooLarge limit actual =>
      "remote media is too large: " ++ toString actual ++ " bytes exceeds " ++ toString limit
  | .emptyLifecycleField field => "lifecycle field must not be empty: " ++ field
  | .invalidBusinessObjectAttributeKey key => "business object attribute key is invalid: " ++ key
  | .sensitiveBusinessObjectAttributeKey key =>
    "business object attribute key is sensitive and must not be stored: " ++ key
  | .invalidBusinessObjectAttributeValue key =>
    "business object attribute value must not be empty: " ++ key
  | .invalidLedgerAmount amount =>
    "ledger amount must be positive minor units: " ++ toString amount
  | .invalidCurrency currency => "currency must be a three-letter uppercase ISO code: " ++ currency
  | .duplicateBusinessObjectId id => "business object already exists: " ++ id
  | .duplicateBusinessObjectExternalId kind externalId =>
    "business object external id already exists for " ++ kind ++ ": " ++ externalId
  | .unknownBusinessObject id => "unknown business object: " ++ id
  | .invalidInitialBusinessObjectRevision revision =>
    "business object must be inserted at revision zero, received: " ++ toString revision
  | .invalidBusinessObjectLifecycleTransition src dst =>
    "invalid business object lifecycle transition from " ++ src.debugName ++ " to " ++
      dst.debugName
  | .invalidBusinessObjectApprovalTransition src dst =>
    "invalid business object approval transition from " ++ src.debugName ++ " to " ++
      dst.debugName
  | .businessObjectTransitionNoop id =>
    "business object transition does not change any status: " ++ id
  | .staleBusinessObjectRevision id expected actual =>
    "stale business object revision for " ++ id ++ ": expected " ++ toString expected ++
      ", actual " ++ toString actual
  | .concurrentBusinessObjectUpdate id => "concurrent business object update: " ++ id
  | .businessObjectRevisionOverflow id => "business object revision overflow: " ++ id
  | .duplicateLedgerEntryId id => "ledger entry already exists: " ++ id
  | .duplicateBusinessRelationId id => "business relation already exists: " ++ id
  | .duplicateBusinessRelation source target relationType =>
    "business relation already exists from " ++ source ++ " to " ++ target ++ " with type " ++
      relationType
  | .businessRelationSelfReference id => "business relation cannot reference itself: " ++ id
  | .invalidBusinessRelationAttributeKey key =>
    "business relation attribute key is invalid: " ++ key
  | .sensitiveBusinessRelationAttributeKey key =>
    "business relation attribute key is sensitive and must not be stored: " ++ key
  | .invalidBusinessRelationAttributeValue key =>
    "business relation attribute value must not be empty: " ++ key
  | .unknownHistoryRecord id => "unknown publication history record: " ++ id
  | .duplicateContentAttribution businessObjectId historyId =>
    "content attribution already exists for business object " ++ businessObjectId ++
      " and history " ++ historyId

end MatriXpost
