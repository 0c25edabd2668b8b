/-
  File:      MatriXpost/Core/Request.lean
  Subject:   PUBLICATION REQUESTS, VIDEO AND ARTICLE, and their validation.

  * `PublishRequest.validate` checks title, short title, task name, targets, overrides,
    schedule and source, in that order; a valid request has distinct targets, at least one
    (`validate_targets`), and a schedule that reads as a time (`validate_schedule`);
  * `runnerSafe` takes the account routing out and keeps everything else, so that what is valid
    stays valid (`validate_runnerSafe`) and what is safe is not changed again;
  * `PublishArticleRequest` likewise.
-/
import MatriXpost.Core.Domain
import MatriXpost.Core.Chrono
import Mathlib.Data.List.Dedup

namespace MatriXpost

/-! ## 1. The parts of a request -/

/-- `Platform::from_str`. -/
def Platform.fromStr (value : String) : Except DomainError Platform :=
  match fromSpelling (toAsciiLowercase (trim value)) with
  | some platform => .ok platform
  | none => .error (.unknownPlatform value)

/-- A local wall-clock schedule, kept as the text it was given as. -/
structure LocalSchedule where
  text : String
deriving DecidableEq, Repr

namespace LocalSchedule

/-- Accepts the text if it reads as `%Y-%m-%d %H:%M:%S`, and keeps it verbatim. -/
def parse (value : String) : Except DomainError LocalSchedule :=
  match NaiveDateTime.parseFromStr value with
  | some _ => .ok ⟨value⟩
  | none => .error (.invalidSchedule value)

/-- The time the text reads as. -/
def asNaive (s : LocalSchedule) : Except DomainError NaiveDateTime :=
  match NaiveDateTime.parseFromStr s.text with
  | some t => .ok t
  | none => .error (.invalidSchedule s.text)

theorem parse_eq_ok {value : String} {s : LocalSchedule} :
    parse value = .ok s ↔ s.text = value ∧ ∃ t, s.asNaive = .ok t := by
  unfold parse asNaive
  constructor
  · intro h
    split at h
    · rename_i t ht
      cases h
      exact ⟨rfl, t, by rw [ht]⟩
    · cases h
  · intro h
    obtain ⟨rfl, t, ht⟩ := h
    split at ht
    · rfl
    · cases ht

end LocalSchedule

/-- A file path: its text, or bytes that are no UTF-8 text (and therefore not empty). -/
inductive PathBuf where
  | utf8 (text : String)
  | other (first : UInt8) (rest : List UInt8)
deriving DecidableEq, Repr

/-- `path.as_os_str().is_empty()`. -/
def PathBuf.isEmpty : PathBuf → Bool
  | .utf8 text => text = ""
  | .other _ _ => false

/-- A URL scheme in normal form: a lower-case letter, then letters, digits, `+`, `-`, `.`. -/
def isScheme (s : String) : Bool :=
  match s.toList with
  | [] => false
  | c :: cs =>
    ('a' ≤ c && c ≤ 'z') &&
      cs.all fun c => ('a' ≤ c && c ≤ 'z') || isDigit c || c = '+' || c = '-' || c = '.'

/-- A parsed URL in normal form, its text cut behind the scheme. -/
structure Url where
  scheme : String
  rest : String
  wellFormed : isScheme scheme = true
deriving DecidableEq, Repr

/-- Media input accepted by a publication request. -/
inductive MediaSource where
  | localFile (path : PathBuf)
  | remoteUrl (url : Url)
deriving DecidableEq, Repr

/-- Account routing requested by phone and partition. -/
structure AccountSelection where
  phone : Option String
  partition : Option String
deriving DecidableEq, Repr

instance : Inhabited AccountSelection := ⟨⟨none, none⟩⟩

/-- True when a selection carries no account routing. -/
def AccountSelection.isEmpty (a : AccountSelection) : Bool := a.phone.isNone && a.partition.isNone

theorem AccountSelection.eq_default {a : AccountSelection} (h : a.isEmpty = true) :
    a = default := by
  obtain ⟨phone, partition⟩ := a
  simp only [isEmpty, Bool.and_eq_true, Option.isNone_iff_eq_none] at h
  obtain ⟨rfl, rfl⟩ := h
  rfl

/-- WeChat Channels product and link metadata. -/
structure WechatLink where
  productId : Option String
  linkType : Option String
  linkValue : Option String
deriving DecidableEq, Repr

instance : Inhabited WechatLink := ⟨⟨none, none, none⟩⟩

/-- Platform-specific values over the common publication fields. -/
structure PlatformOverride where
  platform : Platform
  title : Option String
  shortTitle : Option String
  tags : Option (List String)
  creativeStatement : Option String
  account : Option AccountSelection
  wechatLink : Option WechatLink
deriving DecidableEq, Repr

/-! ## 2. The video request -/

/-- A complete publication command. -/
structure PublishRequest where
  source : MediaSource
  title : String
  shortTitle : Option String
  tags : List String
  address : Option String
  draft : Bool
  bt2 : Option String
  scheduledAt : Option LocalSchedule
  taskName : Option String
  account : AccountSelection
  wechatLink : WechatLink
  overrides : List PlatformOverride
  targets : List Platform
deriving DecidableEq, Repr

namespace PublishRequest

/-- A copy safe to cross a local runner boundary: no account routing. -/
def runnerSafe (r : PublishRequest) : PublishRequest :=
  { r with account := default, overrides := r.overrides.map fun o => { o with account := none } }

/-- True if the request still carries account routing. -/
def hasAccountRouting (r : PublishRequest) : Bool :=
  !r.account.isEmpty || (r.overrides.filterMap (·.account)).any fun a => !a.isEmpty

/-- `schedule.as_naive()?`, for a schedule that may be absent. -/
def checkSchedule : Option LocalSchedule → Except DomainError Unit
  | none => .ok ()
  | some s => s.asNaive.map fun _ => ()

/-- The check of the media source. -/
def checkSource : MediaSource → Except DomainError Unit
  | .localFile path => if path.isEmpty then .error .emptyLocalPath else .ok ()
  | .remoteUrl url =>
    if url.scheme = "http" ∨ url.scheme = "https" then .ok ()
    else .error (.unsupportedRemoteScheme url.scheme)

/-- Rejects malformed data before repository, provider or network interaction. -/
def validate (r : PublishRequest) : Except DomainError Unit :=
  if isBlank r.title then .error .emptyTitle
  else if r.shortTitle.any isBlank then .error .emptyShortTitle
  else if r.taskName.any isBlank then .error .emptyTaskName
  else if r.targets = [] then .error .missingTargets
  else if r.targets.dedup.length ≠ r.targets.length then .error .duplicateTargets
  else if (r.overrides.map (·.platform)).dedup.length ≠ r.overrides.length then
    .error .duplicateOverrides
  else if r.overrides.any (fun o => !r.targets.contains o.platform) then
    .error .overrideOutsideTargets
  else do
    checkSchedule r.scheduledAt
    checkSource r.source

@[simp] theorem runnerSafe_scheduledAt (r : PublishRequest) :
    r.runnerSafe.scheduledAt = r.scheduledAt := rfl

@[simp] theorem runnerSafe_targets (r : PublishRequest) : r.runnerSafe.targets = r.targets := rfl

/-- **What crosses the boundary carries no routing.** -/
theorem runnerSafe_hasAccountRouting (r : PublishRequest) :
    r.runnerSafe.hasAccountRouting = false := by
  have h : r.runnerSafe.overrides.filterMap (·.account) = [] := by
    simp [runnerSafe]
  unfold hasAccountRouting
  rw [h]
  rfl

theorem runnerSafe_runnerSafe (r : PublishRequest) : r.runnerSafe.runnerSafe = r.runnerSafe := by
  simp [runnerSafe]

/-- Validation does not look at account routing. -/
theorem validate_runnerSafe (r : PublishRequest) : r.runnerSafe.validate = r.validate := by
  have hp : r.runnerSafe.overrides.map (·.platform) = r.overrides.map (·.platform) := by
    simp [runnerSafe, List.map_map, Function.comp_def]
  have hl : r.runnerSafe.overrides.length = r.overrides.length := by simp [runnerSafe]
  have ha : (r.runnerSafe.overrides.any fun o => !r.targets.contains o.platform) =
      r.overrides.any fun o => !r.targets.contains o.platform := by
    simp [runnerSafe, List.any_map, Function.comp_def]
  unfold validate
  rw [hp, hl]
  simp only [runnerSafe_targets, ha]
  rfl

/-- A check that was passed. -/
theorem check_ok {ε α : Type} {c : Prop} [Decidable c] {e : ε} {rest : Except ε α} {a : α} :
    (if c then .error e else rest) = .ok a ↔ ¬ c ∧ rest = .ok a := by
  by_cases h : c
  · simp [h]
  · simp [h]

theorem dedup_length_iff {α : Type} [DecidableEq α] {xs : List α} :
    xs.dedup.length = xs.length ↔ xs.Nodup := by
  constructor
  · intro h
    have heq : xs.dedup = xs := (List.dedup_sublist xs).eq_of_length h
    exact heq ▸ List.nodup_dedup xs
  · intro h
    rw [h.dedup]

/-- **What a valid request has passed.** -/
theorem validate_eq_ok (r : PublishRequest) : r.validate = .ok () ↔
    isBlank r.title = false ∧ r.shortTitle.any isBlank = false ∧ r.taskName.any isBlank = false ∧
      r.targets ≠ [] ∧ r.targets.Nodup ∧ (r.overrides.map (·.platform)).Nodup ∧
      (∀ o ∈ r.overrides, o.platform ∈ r.targets) ∧ checkSchedule r.scheduledAt = .ok () ∧
      checkSource r.source = .ok () := by
  have hlength : (r.overrides.map (·.platform)).length = r.overrides.length := List.length_map _
  have houtside : (r.overrides.any fun o => !r.targets.contains o.platform) = true ↔
      ¬ ∀ o ∈ r.overrides, o.platform ∈ r.targets := by simp
  have hparts : (do checkSchedule r.scheduledAt; checkSource r.source) = .ok () ↔
      checkSchedule r.scheduledAt = .ok () ∧ checkSource r.source = .ok () := by
    cases checkSchedule r.scheduledAt with
    | error e => simp [bind, Except.bind]
    | ok u => simp [bind, Except.bind]
  unfold validate
  rw [← hlength, check_ok, check_ok, check_ok, check_ok, check_ok, check_ok, check_ok, hparts,
    houtside, ne_eq, ne_eq, not_not, not_not, not_not, dedup_length_iff, dedup_length_iff]
  simp only [Bool.not_eq_true]

/-- What a valid request has passed, for the parts later proofs read. -/
theorem validate_ok {r : PublishRequest} (h : r.validate = .ok ()) :
    r.targets ≠ [] ∧ r.targets.Nodup ∧ checkSchedule r.scheduledAt = .ok () := by
  obtain ⟨-, -, -, htargets, hdistinct, -, -, hschedule, -⟩ := r.validate_eq_ok.mp h
  exact ⟨htargets, hdistinct, hschedule⟩

/-- **The overrides of a valid request are for targets, and one a platform.** -/
theorem validate_overrides {r : PublishRequest} (h : r.validate = .ok ()) :
    (r.overrides.map (·.platform)).Nodup ∧ ∀ o ∈ r.overrides, o.platform ∈ r.targets := by
  obtain ⟨-, -, -, -, -, hdistinct, hinside, -⟩ := r.validate_eq_ok.mp h
  exact ⟨hdistinct, hinside⟩

/-- A valid request stays valid under another schedule that reads as a time. -/
theorem validate_reschedule {r : PublishRequest} {schedule : Option LocalSchedule}
    (h : r.validate = .ok ()) (hs : checkSchedule schedule = .ok ()) :
    validate { r with scheduledAt := schedule } = .ok () := by
  have hold := (validate_ok h).2.2
  unfold validate at h ⊢
  rw [hold] at h
  rw [hs]
  exact h

/-- **A valid request names at least one target, and none twice.** -/
theorem validate_targets {r : PublishRequest} (h : r.validate = .ok ()) :
    r.targets ≠ [] ∧ r.targets.Nodup := ⟨(validate_ok h).1, (validate_ok h).2.1⟩

/-- **The schedule of a valid request reads as a time.** -/
theorem validate_schedule {r : PublishRequest} (h : r.validate = .ok ()) {s : LocalSchedule}
    (hs : r.scheduledAt = some s) : ∃ t, s.asNaive = .ok t := by
  have hc := (validate_ok h).2.2
  rw [hs] at hc
  cases ht : s.asNaive with
  | ok t => exact ⟨t, rfl⟩
  | error e =>
    rw [checkSchedule, ht] at hc
    cases hc

end PublishRequest

/-! ## 3. The article request -/

/-- Typed article command, independent of video publication. -/
structure PublishArticleRequest where
  platform : String
  account : AccountSelection
  title : String
  content : Option String
  file : Option PathBuf
  cover : Option String
  category : Option String
  tags : List String
  summary : Option String
  scheduledAt : Option LocalSchedule
deriving DecidableEq, Repr

namespace PublishArticleRequest

/-- A copy safe to cross a local runner boundary. -/
def runnerSafe (r : PublishArticleRequest) : PublishArticleRequest := { r with account := default }

/-- True if the request still carries account routing. -/
def hasAccountRouting (r : PublishArticleRequest) : Bool := !r.account.isEmpty

/-- The only article platform this protocol supports. -/
def articlePlatform (r : PublishArticleRequest) : Except DomainError ArticlePlatform :=
  let name := toAsciiLowercase (trim r.platform)
  if name = "juejin" ∨ name = "掘金" then .ok .juejin else .error (.unknownPlatform r.platform)

def validate (r : PublishArticleRequest) : Except DomainError Unit :=
  if isBlank r.title then .error .emptyTitle
  else if (r.content.all isBlank) ∧ r.file = none then .error .emptyArticleContent
  else do
    PublishRequest.checkSchedule r.scheduledAt
    discard r.articlePlatform

/-- **The schedule of a valid article reads as a time, and its platform is known.** -/
theorem validate_ok {r : PublishArticleRequest} (h : r.validate = .ok ()) :
    PublishRequest.checkSchedule r.scheduledAt = .ok () ∧ ∃ p, r.articlePlatform = .ok p := by
  unfold validate at h
  split at h
  · cases h
  split at h
  · cases h
  cases hs : PublishRequest.checkSchedule r.scheduledAt with
  | error e =>
    rw [hs] at h
    cases h
  | ok u =>
    cases hp : r.articlePlatform with
    | ok p => exact ⟨rfl, p, rfl⟩
    | error e =>
      rw [hs, hp] at h
      cases h

/-- A valid article stays valid under another schedule that reads as a time. -/
theorem validate_reschedule {r : PublishArticleRequest} {schedule : Option LocalSchedule}
    (h : r.validate = .ok ()) (hs : PublishRequest.checkSchedule schedule = .ok ()) :
    validate { r with scheduledAt := schedule } = .ok () := by
  have hold := (validate_ok h).1
  unfold validate at h ⊢
  rw [hold] at h
  rw [hs]
  exact h

end PublishArticleRequest

end MatriXpost
