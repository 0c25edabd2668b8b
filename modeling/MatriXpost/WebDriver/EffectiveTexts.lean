/-
  File:      MatriXpost/WebDriver/EffectiveTexts.lean
  Subject:   THE TEXTS A VALID REQUEST GIVES EACH TARGET: the override's where it has one, the
             request's otherwise.

  Sources: `webdriver/video_text.rs` (`title`, `short_title`), `types/video/request.rs`
  (`PublishRequest::validate`).

  `validate` looks at the texts of the request, not at those of its overrides. What a target gets
  is therefore not blank if and only if no override gives a blank text (`effective_texts`).
-/
import MatriXpost.Lib.Table
import MatriXpost.WebDriver.Profiles

namespace MatriXpost

namespace WebDriver

/-! ## 1. The override of a target -/

/-- The overrides of a valid request, one row a platform. -/
def overrideTable (request : PublishRequest) (h : request.validate = .ok ()) :
    Table PlatformOverride.platform :=
  ⟨request.overrides, (PublishRequest.validate_overrides h).1⟩

/-- **In a valid request an override is the one of its platform, and its platform a target.** -/
theorem overrideOf_eq_some {request : PublishRequest} (h : request.validate = .ok ())
    {platform : Platform} {item : PlatformOverride} :
    overrideOf platform request = some item ↔
      item ∈ request.overrides ∧ item.platform = platform :=
  Table.find?_eq_some (t := overrideTable request h)

theorem overrideOf_target {request : PublishRequest} (h : request.validate = .ok ())
    {item : PlatformOverride} (hitem : item ∈ request.overrides) :
    item.platform ∈ request.targets ∧ overrideOf item.platform request = some item :=
  ⟨(PublishRequest.validate_overrides h).2 item hitem, (overrideOf_eq_some h).mpr ⟨hitem, rfl⟩⟩

/-! ## 2. Texts that are not blank -/

/-- Every target has a title, and an override's short title, where there is one, is a text. -/
def HasEffectiveTexts (request : PublishRequest) : Prop :=
  ∀ platform ∈ request.targets, isBlank (title platform request) = false ∧
    ((overrideOf platform request).bind (·.shortTitle)).any isBlank = false

/-- An override that gives no blank title and no blank short title. -/
def GivesTexts (item : PlatformOverride) : Prop :=
  item.title.any isBlank = false ∧ item.shortTitle.any isBlank = false

/-- The title of a target is not blank exactly if its override gives no blank one. -/
theorem title_not_blank {request : PublishRequest} (h : request.validate = .ok ())
    (platform : Platform) : isBlank (title platform request) = false ↔
      ((overrideOf platform request).bind (·.title)).any isBlank = false := by
  obtain ⟨hbase, -⟩ := request.validate_eq_ok.mp h
  unfold title
  cases (overrideOf platform request).bind (·.title) with
  | none => exact iff_of_true hbase rfl
  | some given => exact Iff.rfl

/-- **A valid request gives every target its texts if and only if no override gives a blank
    one.** -/
theorem effective_texts (request : PublishRequest) (h : request.validate = .ok ()) :
    HasEffectiveTexts request ↔ ∀ item ∈ request.overrides, GivesTexts item := by
  constructor
  · intro htexts item hitem
    obtain ⟨htarget, hitem⟩ := overrideOf_target h hitem
    obtain ⟨htitle, hshort⟩ := htexts item.platform htarget
    rw [title_not_blank h, hitem] at htitle
    rw [hitem] at hshort
    exact ⟨htitle, hshort⟩
  · intro hgives platform _
    rw [title_not_blank h]
    cases hitem : overrideOf platform request with
    | none => exact ⟨rfl, rfl⟩
    | some item => exact hgives item ((overrideOf_eq_some h).mp hitem).1

/-- A request for one platform, with one override. -/
def overriddenRequest (overrideTitle : String) : PublishRequest where
  source := .localFile (.utf8 "movie.mp4")
  title := "title"
  shortTitle := none
  tags := []
  address := none
  draft := false
  bt2 := none
  scheduledAt := none
  taskName := none
  account := default
  wechatLink := default
  overrides := [⟨.douyin, some overrideTitle, none, none, none, none, none⟩]
  targets := [.douyin]

theorem effective_texts_sample : HasEffectiveTexts (overriddenRequest "other") :=
  (effective_texts (overriddenRequest "other") (by decide)).mpr (by
    intro item hitem
    rw [List.mem_singleton.mp hitem]
    exact ⟨by decide, rfl⟩)

/-- **A blank title of an override passes validation and is what the runner types.** -/
theorem not_hasEffectiveTexts_blank :
    (overriddenRequest " ").validate = .ok () ∧ title .douyin (overriddenRequest " ") = " " ∧
      ¬ ∀ request : PublishRequest, request.validate = .ok () → HasEffectiveTexts request := by
  refine ⟨by decide, by decide, ?_⟩
  intro h
  have htitle := (h (overriddenRequest " ") (by decide) .douyin (by decide)).1
  exact absurd htitle (by decide)

end WebDriver

end MatriXpost
