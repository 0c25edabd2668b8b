/-
  File:      MatriXpost/Batch/Tags.lean
  Subject:   THE TAGS OF A BATCH ROW, from the cell of the worksheet to the text the runner types.

  Sources: `matrixpost-cli/src/batch.rs` (`normalized_tags`, `row_request`),
  `webdriver/video_text.rs` (`description`), `webdriver/kuaishou.rs` (`input_kuaishou_metadata`).

  The batch reader puts a `#` before the tags of three platforms, and the text of every platform
  puts one before each tag. `normalizedTags_joined` says what the reader makes of a cell of plain
  tags, `typedText_eq` where the tags stand in the text; the two give exactly when a row is
  rendered as a request with the same tags is (`tags_alike`).
-/
import MatriXpost.Batch.Manifest
import MatriXpost.WebDriver.Interaction

namespace MatriXpost

open WebDriver (title description kuaishouText tagsFor overrideOf)

/-! ## 1. Plain tags, and the cell that lists them -/

/-- A tag without commas, space around it, invisible characters or a `#` of its own. -/
structure PlainTag (tag : String) : Prop where
  notBlank : isBlank tag = false
  trimmed : trim tag = tag
  noComma : ',' ∉ tag.toList
  visible : ∀ c ∈ tag.toList, invisible c = false
  noHash : tag.toList.head? ≠ some '#'

/-- The cell of a list of tags. -/
def tagCell (tags : List String) : String := ",".intercalate tags

/-- The platforms whose tags the batch reader begins with `#`. -/
def HashedByBatch (platform : Platform) : Prop :=
  platform = .wechatChannels ∨ platform = .douyin ∨ platform = .kuaishou

instance (platform : Platform) : Decidable (HashedByBatch platform) :=
  inferInstanceAs (Decidable (_ ∨ _ ∨ _))

theorem PlainTag.ne_empty {tag : String} (h : PlainTag tag) : tag ≠ "" := by
  rintro rfl
  exact absurd h.notBlank (by decide)

/-- A plain tag is a normal cell. -/
theorem PlainTag.normalizeCell_eq {tag : String} (h : PlainTag tag) : normalizeCell tag = tag := by
  have hkept : tag.toList.filter (fun c => !invisible c) = tag.toList := by
    rw [List.filter_eq_self]
    intro c hc
    rw [h.visible c hc]
    rfl
  unfold normalizeCell
  rw [hkept, String.ofList_toList, h.trimmed]

/-- The cell splits into the tags it was joined from. -/
theorem split_tagCell {tags : List String} (htags : ∀ tag ∈ tags, PlainTag tag) (hne : tags ≠ []) :
    (tagCell tags).toList.splitOn ',' = tags.map String.toList := by
  have hcomma : ∀ cell ∈ tags.map String.toList, ',' ∉ cell := by
    intro cell hcell
    obtain ⟨tag, htag, rfl⟩ := List.mem_map.mp hcell
    exact (htags tag htag).noComma
  have hlist : (tagCell tags).toList = [','].intercalate (tags.map String.toList) :=
    String.toList_intercalate
  rw [hlist, List.splitOn_intercalate ',' hcomma (by simpa using hne)]

/-- **What the batch reader makes of a cell of plain tags.** -/
theorem normalizedTags_joined {tags : List String} (htags : ∀ tag ∈ tags, PlainTag tag)
    (platform : Platform) :
    normalizedTags (some (tagCell tags)) platform =
      if HashedByBatch platform then tags.map ("#" ++ ·) else tags := by
  have hcells : ∀ tag ∈ tags, tag ≠ "" := fun tag htag => (htags tag htag).ne_empty
  have hread : (((tagCell tags).toList.splitOn ',').map fun tag =>
      normalizeCell (String.ofList tag)).filter (fun tag => tag ≠ "") = tags := by
    by_cases hne : tags = []
    · rw [hne]
      decide
    · have hcell : ∀ tag ∈ tags, normalizeCell tag = tag := fun tag htag =>
        (htags tag htag).normalizeCell_eq
      rw [split_tagCell htags hne, List.map_map]
      simp only [Function.comp_def, String.ofList_toList]
      rw [List.map_congr_left hcell, List.map_id']
      exact List.filter_eq_self.mpr (by simpa using hcells)
  have hash : ∀ tag ∈ tags, tag.toList.head? ≠ some '#' := fun tag htag => (htags tag htag).noHash
  unfold normalizedTags
  simp only [Option.getD_some, hread]
  by_cases hplatform : HashedByBatch platform
  · rw [if_pos hplatform]
    exact List.map_congr_left fun tag htag => if_pos ⟨hplatform, hash tag htag⟩
  · rw [if_neg hplatform]
    have hkept : ∀ tag ∈ tags, (if (platform = .wechatChannels ∨ platform = .douyin ∨
        platform = .kuaishou) ∧ tag.toList.head? ≠ some '#' then "#" ++ tag else tag) = id tag :=
      fun tag _ => if_neg fun h => hplatform h.1
    rw [List.map_congr_left hkept, List.map_id]

/-! ## 2. Tags in the text -/

/-- What the runner types: `input_kuaishou_metadata` for Kuaishou, `description` for the others.
    (Bilibili takes its tags one by one instead.) -/
def typedText (platform : Platform) (request : PublishRequest) : String :=
  if platform = .kuaishou then kuaishouText request else description platform request

/-- What comes before the tags. -/
def textLead (platform : Platform) (request : PublishRequest) : String :=
  if platform = .kuaishou then title .kuaishou request ++ " " else ""

/-- Each tag after exactly one `#`, space between them. -/
def hashtags (tags : List String) : String := " ".intercalate (tags.map ("#" ++ ·))

/-- The text with the fields that come after the tags. -/
def joinFields (tags others : List String) : String :=
  " ".intercalate (tags.map ("#" ++ ·) ++ others)

/-- The fields that come after the tags: the address, and a statement on Fanqie. -/
def otherFields (platform : Platform) (request : PublishRequest) : List String :=
  match platform with
  | .kuaishou => []
  | .fanqieVideo => request.address.toList ++
      ((overrideOf .fanqieVideo request).bind (·.creativeStatement)).toList
  | _ => request.address.toList

/-- **Where the tags stand.** -/
theorem typedText_eq (platform : Platform) (request : PublishRequest) :
    typedText platform request = textLead platform request ++
      joinFields (tagsFor platform request) (otherFields platform request) := by
  cases platform with
  | kuaishou => simp [typedText, textLead, kuaishouText, joinFields, otherFields]
  | fanqieVideo =>
    simp [typedText, textLead, description, joinFields, otherFields, List.append_assoc]
  | _ => simp [typedText, textLead, description, joinFields, otherFields]

/-- The tags, and what follows them after a space. -/
theorem joinFields_eq {tags : List String} (hne : tags ≠ []) (others : List String) :
    joinFields tags others = hashtags tags ++
      (if others = [] then "" else " " ++ " ".intercalate others) := by
  unfold joinFields hashtags
  by_cases hothers : others = []
  · rw [if_pos hothers, hothers, List.append_nil, String.append_empty]
  · rw [if_neg hothers, String.intercalate_append_of_ne_nil (by simpa using hne) hothers,
      String.append_assoc]

/-- The text begins with a tag's `#`, and then the tag. -/
theorem joinFields_cons (tag : String) (tags others : List String) :
    ∃ rest, joinFields (tag :: tags) others = "#" ++ (tag ++ rest) := by
  unfold joinFields
  rw [List.map_cons, List.cons_append, String.intercalate_cons_append]
  cases hrest : tags.map ("#" ++ ·) ++ others with
  | nil => exact ⟨"", by rw [String.intercalate_singleton, String.append_empty]⟩
  | cons field fields =>
    exact ⟨" " ++ " ".intercalate (field :: fields),
      by rw [String.intercalate_cons_cons, String.append_assoc]⟩

/-- A second `#` before the first tag shows. -/
theorem joinFields_hashed_ne {tags : List String} (htags : ∀ tag ∈ tags, PlainTag tag)
    (hne : tags ≠ []) (others : List String) :
    joinFields (tags.map ("#" ++ ·)) others ≠ joinFields tags others := by
  cases tags with
  | nil => exact absurd rfl hne
  | cons tag tags =>
    have hplain := htags tag List.mem_cons_self
    obtain ⟨batch, hbatch⟩ := joinFields_cons ("#" ++ tag) (tags.map ("#" ++ ·)) others
    obtain ⟨single, hsingle⟩ := joinFields_cons tag tags others
    rw [List.map_cons, hbatch, hsingle]
    intro heq
    have hchars := congrArg String.toList heq
    simp only [String.toList_append] at hchars
    have htail := List.append_cancel_left hchars
    -- after the first `#` the batch text goes on with another, the single one with the tag
    obtain ⟨c, cs, htag⟩ := List.exists_cons_of_ne_nil
      (fun h => hplain.ne_empty (String.toList_eq_nil_iff.mp h))
    have hhash := hplain.noHash
    rw [htag] at htail hhash
    have hfirst := (List.cons.inj htail).1
    exact hhash (congrArg some hfirst.symm)

/-! ## 3. A row and a request with the same tags -/

/-- Each tag stands in the text after exactly one `#`. -/
def HashedOnce (platform : Platform) (request : PublishRequest) (tags : List String) : Prop :=
  tags = [] ∨ ∃ after, typedText platform request =
    textLead platform request ++ hashtags tags ++ after ∧
      (after = "" ∨ ∃ rest, after = " " ++ rest)

/-- The text of the batch request is the one of the request with these tags and otherwise the same
    fields, and each tag stands in it after one `#`. -/
def TagsAlike (platform : Platform) (request : PublishRequest) (tags : List String) : Prop :=
  typedText platform request = typedText platform { request with tags := tags } ∧
    HashedOnce platform request tags

/-- What a row becomes, as far as its tags go. -/
theorem rowRequest_tags {names : FileNames} {args : PublishArgs} {platform : Platform}
    {file : PathBuf} {row : BatchRow} {request : PublishRequest}
    (h : rowRequest names args platform file row = .ok request) :
    request.tags = normalizedTags row.tags platform ∧
      ∀ item ∈ request.overrides, item.tags = none := by
  unfold rowRequest at h
  split at h
  · cases h
  · dsimp only at h
    split at h
    · cases h
      refine ⟨rfl, ?_⟩
      intro item hitem
      obtain ⟨statement, -, rfl⟩ := List.mem_map.mp hitem
      rfl
    · cases h

/-- Where no override gives tags, the request's are taken. -/
theorem tagsFor_eq (request : PublishRequest)
    (h : ∀ item ∈ request.overrides, item.tags = none)
    (platform : Platform) : tagsFor platform request = request.tags := by
  unfold tagsFor
  cases hitem : overrideOf platform request with
  | none => rfl
  | some item =>
    have hnone := h item (List.mem_of_find?_eq_some hitem)
    rw [Option.bind_some, hnone]
    rfl

/-- **A row is rendered as a request with its tags is, if and only if** the batch reader puts no
    `#` before the tags of the platform, or there are no tags. -/
theorem tags_alike (names : FileNames) (args : PublishArgs) (platform : Platform)
    (file : PathBuf) (row : BatchRow) (tags : List String) (request : PublishRequest)
    (hrow : row.tags = some (tagCell tags)) (htags : ∀ tag ∈ tags, PlainTag tag)
    (h : rowRequest names args platform file row = .ok request) :
    TagsAlike platform request tags ↔ tags = [] ∨ ¬ HashedByBatch platform := by
  obtain ⟨hread, hoverrides⟩ := rowRequest_tags h
  rw [hrow, normalizedTags_joined htags] at hread
  have hsingle : typedText platform { request with tags := tags } =
      textLead platform request ++ joinFields tags (otherFields platform request) := by
    rw [typedText_eq, tagsFor_eq { request with tags := tags } hoverrides]
    rfl
  have hbatch : typedText platform request =
      textLead platform request ++ joinFields request.tags (otherFields platform request) := by
    rw [typedText_eq, tagsFor_eq request hoverrides]
  constructor
  · intro halike
    by_cases hne : tags = []
    · exact .inl hne
    · refine .inr fun hhashed => ?_
      have htext := halike.1
      rw [hbatch, hsingle, hread, if_pos hhashed] at htext
      have hchars := congrArg String.toList htext
      rw [String.toList_append, String.toList_append] at hchars
      have hfields := String.toList_inj.mp (List.append_cancel_left hchars)
      exact joinFields_hashed_ne htags hne _ hfields
  · intro hcondition
    have hsame : request.tags = tags := by
      rw [hread]
      rcases hcondition with rfl | hplatform
      · simp
      · rw [if_neg hplatform]
    refine ⟨by rw [hbatch, hsingle, hsame], ?_⟩
    by_cases hne : tags = []
    · exact .inl hne
    · refine .inr ⟨_, by rw [hbatch, hsame, joinFields_eq hne, String.append_assoc], ?_⟩
      by_cases hothers : otherFields platform request = []
      · exact .inl (if_pos hothers)
      · exact .inr ⟨_, if_neg hothers⟩

/-! ## 4. A row with two tags -/

/-- The names of one file of a batch directory. -/
def movieNames : FileNames where
  safeFileName text := text = "movie.mp4"
  fileName path := if path = .utf8 "/media/movie.mp4" then some "movie.mp4" else none
  fileStem path := if path = .utf8 "/media/movie.mp4" then some "movie" else none
  utf8Stem path := if path = .utf8 "/media/movie.mp4" then some "movie" else none
  toLowercase := toAsciiLowercase

/-- `--dir /media --config /batch.xlsx` with one platform. -/
def movieArgs (platform : String) : PublishArgs where
  platforms := [platform]
  file := none
  dir := some (.utf8 "/media")
  config := some (.utf8 "/batch.xlsx")
  title := none
  shortTitle := none
  tags := []
  phone := none
  partition := none
  address := none
  publishAt := none
  draft := false
  sphProductId := none
  sphLinkType := none
  sphLinkValue := none
  platformOverrides := []
  creativeStatement := none

def movieRow : BatchRow := ⟨2, "movie.mp4", none, some "one,two", none⟩

theorem plainTag_movie : ∀ tag ∈ ["one", "two"], PlainTag tag := by
  have hvisible : ∀ tag : String, tag.toList.all (fun c => !invisible c) = true →
      ∀ c ∈ tag.toList, invisible c = false := by
    intro tag hall c hc
    simpa using List.all_eq_true.mp hall c hc
  intro tag htag
  rcases List.mem_cons.mp htag with rfl | htag
  · exact ⟨by decide, by decide, by decide, hvisible _ (by decide), by decide⟩
  · rw [List.mem_singleton.mp htag]
    exact ⟨by decide, by decide, by decide, hvisible _ (by decide), by decide⟩

theorem tags_alike_sample :
    ∃ request, rowRequest movieNames (movieArgs "xhs") .xiaohongshu (.utf8 "/media/movie.mp4")
        movieRow = .ok request ∧ TagsAlike .xiaohongshu request ["one", "two"] :=
  ⟨_, rfl, (tags_alike movieNames (movieArgs "xhs") .xiaohongshu (.utf8 "/media/movie.mp4")
    movieRow ["one", "two"] _ (by decide) plainTag_movie rfl).mpr (.inr (by decide))⟩

/-- **A batch row for Douyin is typed with two `#` before each tag.** -/
theorem not_tagsAlike_douyin :
    ∃ request, rowRequest movieNames (movieArgs "dy") .douyin (.utf8 "/media/movie.mp4") movieRow
        = .ok request ∧ typedText .douyin request = "##one ##two" ∧
      typedText .douyin { request with tags := ["one", "two"] } = "#one #two" ∧
      ¬ ∀ (names : FileNames) (args : PublishArgs) (platform : Platform) (file : PathBuf)
        (row : BatchRow) (tags : List String) (request : PublishRequest),
        row.tags = some (tagCell tags) → (∀ tag ∈ tags, PlainTag tag) →
        rowRequest names args platform file row = .ok request →
        TagsAlike platform request tags := by
  refine ⟨_, rfl, by decide, by decide, ?_⟩
  intro h
  have halike := h movieNames (movieArgs "dy") .douyin (.utf8 "/media/movie.mp4") movieRow
    ["one", "two"] _ (by decide) plainTag_movie rfl
  exact absurd halike.1 (by decide)

end MatriXpost
