/-
  File:      MatriXpost/Core/Json.lean
  Subject:   THE request_json COLUMN: requests as JSON values, as the derived serializers write
             and read them.

  The column holds the value tree; the text serde_json writes for a tree and reads back is left
  out. What the derive attributes decide is kept: absent fields, defaults, `null`, renamed and
  aliased names, unknown fields, a path that is no text.

  * `PublishRequest.fromJson_toJson` and `PublishArticleRequest.fromJson_toJson`: what is
    written is read back, so a stored request is the request that was stored;
  * `PublishRequest.toJson_of_fromJson`: what was read can be written again.
-/
import MatriXpost.Core.Request
import MatriXpost.Lib.Select

namespace MatriXpost

/-- A JSON value. A number that is no integer is kept as it is written. -/
inductive Json where
  | null
  | bool (value : Bool)
  | number (value : Int)
  | float (text : String)
  | string (value : String)
  | array (items : List Json)
  | object (fields : List (String × Json))

/-- A reader of JSON values; errors are texts. -/
abbrev Decoder (α : Type) := Json → Except String α

namespace Json

/-! ## 1. Readers -/

def asString : Decoder String
  | .string s => .ok s
  | _ => .error "invalid type, expected a string"

def asBool : Decoder Bool
  | .bool b => .ok b
  | _ => .error "invalid type, expected a boolean"

def asObject : Decoder (List (String × Json))
  | .object fields => .ok fields
  | _ => .error "invalid type, expected a map"

/-- `Option<T>`: `null` is `None`. -/
def asOption {α : Type} (dec : Decoder α) : Decoder (Option α)
  | .null => .ok none
  | j => (dec j).map some

/-- `Vec<T>`. -/
def asList {α : Type} (dec : Decoder α) : Decoder (List α)
  | .array items => items.mapM dec
  | _ => .error "invalid type, expected a sequence"

/-- The values under a name. -/
def valuesOf (name : String) (fields : List (String × Json)) : List Json :=
  (fields.filter fun f => f.1 = name).map (·.2)

/-- The one value of a field; a field given twice is an error. -/
def fieldOf (name : String) (fields : List (String × Json)) : Except String (Option Json) :=
  match valuesOf name fields with
  | [] => .ok none
  | [j] => .ok (some j)
  | _ => .error ("duplicate field " ++ name)

def required {α : Type} (dec : Decoder α) (name : String) (fields : List (String × Json)) :
    Except String α := do
  match ← fieldOf name fields with
  | some j => dec j
  | none => .error ("missing field " ++ name)

/-- `#[serde(default)]`. -/
def defaulted {α : Type} (dec : Decoder α) (value : α) (name : String)
    (fields : List (String × Json)) : Except String α := do
  match ← fieldOf name fields with
  | some j => dec j
  | none => .ok value

/-- An `Option` field: absent and `null` are `None`. -/
def optional {α : Type} (dec : Decoder α) (name : String) (fields : List (String × Json)) :
    Except String (Option α) :=
  defaulted (asOption dec) none name fields

/-- `#[serde(deny_unknown_fields)]`. -/
def denyUnknown (known : List String) (fields : List (String × Json)) : Except String Unit :=
  match fields.find? fun f => f.1 ∉ known with
  | some f => .error ("unknown field " ++ f.1)
  | none => .ok ()

/-- `value.get(name)`; of a name given twice the last value counts. -/
def get (name : String) : Json → Option Json
  | .object fields => (valuesOf name fields).getLast?
  | _ => none

/-- `value.as_str()`. -/
def asStr (j : Json) : Option String := j.asString.toOption

/-- `value.as_bool()`. -/
def asBoolean (j : Json) : Option Bool := j.asBool.toOption

/-! ## 2. Writers -/

/-- `#[serde(skip_serializing_if = "Option::is_none")]`. -/
def skipNone {α : Type} (enc : α → Json) (name : String) : Option α → List (String × Json)
  | none => []
  | some a => [(name, enc a)]

def ofOption {α : Type} (enc : α → Json) : Option α → Json
  | none => .null
  | some a => enc a

def strings (items : List String) : Json := .array (items.map .string)

/-! ## 3. A field is read back -/

theorem required_ok {α : Type} {dec : Decoder α} {name : String} {fields : List (String × Json)}
    {a : α} (h : required dec name fields = .ok a) : ∃ j, dec j = .ok a := by
  obtain ⟨found, -, hvalue⟩ := except_bind_ok.mp h
  cases found with
  | none => cases hvalue
  | some j => exact ⟨j, hvalue⟩

@[simp] theorem valuesOf_nil (name : String) : valuesOf name [] = [] := rfl

@[simp] theorem valuesOf_append (name : String) (a b : List (String × Json)) :
    valuesOf name (a ++ b) = valuesOf name a ++ valuesOf name b := by
  simp [valuesOf]

@[simp] theorem valuesOf_cons (name other : String) (j : Json) (rest : List (String × Json)) :
    valuesOf name ((other, j) :: rest) =
      if other = name then j :: valuesOf name rest else valuesOf name rest := by
  unfold valuesOf
  by_cases h : other = name <;> simp [h]

@[simp] theorem valuesOf_skipNone {α : Type} (enc : α → Json) (name other : String) (o : Option α) :
    valuesOf name (skipNone enc other o) = if other = name then (o.map enc).toList else [] := by
  cases o with
  | none => simp [skipNone]
  | some a => by_cases h : other = name <;> simp [skipNone, valuesOf, h]

theorem fieldOf_of_values {name : String} {fields : List (String × Json)} {o : Option Json}
    (h : valuesOf name fields = o.toList) : fieldOf name fields = .ok o := by
  unfold fieldOf
  rw [h]
  cases o <;> rfl

theorem required_of_values {α : Type} {dec : Decoder α} {name : String}
    {fields : List (String × Json)} {j : Json} {a : α} (h : valuesOf name fields = [j])
    (hd : dec j = .ok a) : required dec name fields = .ok a := by
  unfold required
  rw [fieldOf_of_values (o := some j) h]
  exact hd

theorem defaulted_of_values {α : Type} {dec : Decoder α} {value a : α} {name : String}
    {fields : List (String × Json)} {j : Json} (h : valuesOf name fields = [j])
    (hd : dec j = .ok a) : defaulted dec value name fields = .ok a := by
  unfold defaulted
  rw [fieldOf_of_values (o := some j) h]
  exact hd

/-- A skipped field reads as `None`, a written one as what was written. -/
theorem optional_of_values {α : Type} {dec : Decoder α} (enc : α → Json) {name : String}
    {fields : List (String × Json)} {o : Option α}
    (h : valuesOf name fields = (o.map enc).toList)
    (hd : ∀ a, asOption dec (enc a) = .ok (some a)) : optional dec name fields = .ok o := by
  unfold optional defaulted
  rw [fieldOf_of_values h]
  cases o with
  | none => rfl
  | some a => exact hd a

/-- A text that is required. -/
theorem required_string {name : String} {fields : List (String × Json)} {text : String}
    (h : valuesOf name fields = [.string text]) : required asString name fields = .ok text :=
  required_of_values h rfl

theorem optional_string {name : String} {fields : List (String × Json)} {o : Option String}
    (h : valuesOf name fields = (o.map Json.string).toList) :
    optional asString name fields = .ok o := optional_of_values .string h fun _ => rfl

theorem asOption_ofOption {α : Type} {dec : Decoder α} (enc : α → Json)
    (hd : ∀ a, asOption dec (enc a) = .ok (some a)) (o : Option α) :
    asOption dec (ofOption enc o) = .ok o := by
  cases o with
  | none => rfl
  | some a => exact hd a

/-- A field that is written as `null` where there is nothing. -/
theorem optional_nullable {α : Type} {dec : Decoder α} (enc : α → Json) {name : String}
    {fields : List (String × Json)} {o : Option α} (h : valuesOf name fields = [ofOption enc o])
    (hd : ∀ a, asOption dec (enc a) = .ok (some a)) : optional dec name fields = .ok o :=
  defaulted_of_values h (asOption_ofOption enc hd o)

theorem optional_nullable_string {name : String} {fields : List (String × Json)}
    {o : Option String} (h : valuesOf name fields = [ofOption .string o]) :
    optional asString name fields = .ok o := optional_nullable .string h fun _ => rfl

theorem asList_map {α : Type} {dec : Decoder α} {enc : α → Json} {items : List α}
    (h : ∀ a ∈ items, dec (enc a) = .ok a) : asList dec (.array (items.map enc)) = .ok items :=
  mapM_map_ok h

theorem asList_strings (items : List String) : asList asString (strings items) = .ok items :=
  asList_map fun _ _ => rfl

end Json

/-! ## 4. The parts of a request -/

open Json

def PathBuf.toJson : PathBuf → Except DomainError Json
  | .utf8 text => .ok (.string text)
  | .other _ _ => .error (.serialization "path contains invalid UTF-8 characters")

def PathBuf.fromJson (j : Json) : Except String PathBuf := (asString j).map .utf8

def Url.text (u : Url) : String := u.scheme ++ String.ofList (':' :: u.rest.toList)

/-- `Url::parse` on a text in normal form. -/
def Url.parse (s : String) : Except String Url :=
  let scheme := String.ofList (s.toList.takeWhile (· ≠ ':'))
  match s.toList.dropWhile (· ≠ ':') with
  | [] => .error "relative URL without a base"
  | _ :: rest =>
    if h : isScheme scheme = true then .ok ⟨scheme, String.ofList rest, h⟩
    else .error "relative URL without a base"

/-- `#[serde(tag = "kind", content = "value", rename_all = "snake_case")]`. -/
def MediaSource.toJson : MediaSource → Except DomainError Json
  | .localFile path => do
    .ok (.object [("kind", .string "local_file"), ("value", ← path.toJson)])
  | .remoteUrl url => .ok (.object [("kind", .string "remote_url"), ("value", .string url.text)])

def MediaSource.fromJson (j : Json) : Except String MediaSource := do
  let fields ← asObject j
  let kind ← required asString "kind" fields
  if kind = "local_file" then
    .ok (.localFile (← required PathBuf.fromJson "value" fields))
  else if kind = "remote_url" then
    .ok (.remoteUrl (← required (fun j => do Url.parse (← asString j)) "value" fields))
  else .error ("unknown variant " ++ kind)

def Platform.toJson (p : Platform) : Json := .string p.asStr

def Platform.fromJson (j : Json) : Except String Platform := do
  let name ← asString j
  match Platform.fromSpelling name with
  | some p => .ok p
  | none => .error ("unknown variant " ++ name)

def LocalSchedule.toJson (s : LocalSchedule) : Json := .string s.text

/-- A transparent newtype: read back without being parsed. -/
def LocalSchedule.fromJson (j : Json) : Except String LocalSchedule := (asString j).map (⟨·⟩)

def AccountSelection.toJson (a : AccountSelection) : Json :=
  .object (skipNone .string "phone" a.phone ++ skipNone .string "partition" a.partition)

def AccountSelection.fromJson (j : Json) : Except String AccountSelection := do
  let fields ← asObject j
  denyUnknown ["phone", "partition"] fields
  let phone ← optional asString "phone" fields
  let partition ← optional asString "partition" fields
  .ok ⟨phone, partition⟩

def WechatLink.toJson (w : WechatLink) : Json :=
  .object (skipNone .string "product_id" w.productId ++ skipNone .string "link_type" w.linkType ++
    skipNone .string "link_value" w.linkValue)

def WechatLink.fromJson (j : Json) : Except String WechatLink := do
  let fields ← asObject j
  let productId ← optional asString "product_id" fields
  let linkType ← optional asString "link_type" fields
  let linkValue ← optional asString "link_value" fields
  .ok ⟨productId, linkType, linkValue⟩

def PlatformOverride.toJson (o : PlatformOverride) : Json :=
  .object ([("platform", o.platform.toJson)] ++ skipNone .string "title" o.title ++
    skipNone .string "short_title" o.shortTitle ++ skipNone strings "tags" o.tags ++
    skipNone .string "creative_statement" o.creativeStatement ++
    skipNone AccountSelection.toJson "account" o.account ++
    skipNone WechatLink.toJson "wechat_link" o.wechatLink)

def PlatformOverride.fromJson (j : Json) : Except String PlatformOverride := do
  let fields ← asObject j
  let platform ← required Platform.fromJson "platform" fields
  let title ← optional asString "title" fields
  let shortTitle ← optional asString "short_title" fields
  let tags ← optional (asList asString) "tags" fields
  let creativeStatement ← optional asString "creative_statement" fields
  let account ← optional AccountSelection.fromJson "account" fields
  let wechatLink ← optional WechatLink.fromJson "wechat_link" fields
  .ok ⟨platform, title, shortTitle, tags, creativeStatement, account, wechatLink⟩

/-! ## 5. The requests -/

/-- `#[serde(skip_serializing_if = "AccountSelection::is_empty")]`. -/
def accountField (a : AccountSelection) : List (String × Json) :=
  skipNone AccountSelection.toJson "account" (if a.isEmpty then none else some a)

/-- `json(&request)`. -/
def PublishRequest.toJson (r : PublishRequest) : Except DomainError Json := do
  let source ← r.source.toJson
  .ok (.object ([("source", source), ("title", .string r.title)] ++
    skipNone .string "short_title" r.shortTitle ++ [("tags", strings r.tags)] ++
    skipNone .string "address" r.address ++
    [("draft", .bool r.draft), ("bt2", ofOption .string r.bt2)] ++
    skipNone LocalSchedule.toJson "scheduled_at" r.scheduledAt ++
    skipNone .string "task_name" r.taskName ++ accountField r.account ++
    [("wechat_link", r.wechatLink.toJson),
      ("overrides", .array (r.overrides.map PlatformOverride.toJson)),
      ("targets", .array (r.targets.map Platform.toJson))]))

/-- The reader derived for `PublishRequest`. -/
def PublishRequest.decode (j : Json) : Except String PublishRequest := do
  let fields ← asObject j
  let source ← required MediaSource.fromJson "source" fields
  let title ← required asString "title" fields
  let shortTitle ← optional asString "short_title" fields
  let tags ← defaulted (asList asString) [] "tags" fields
  let address ← optional asString "address" fields
  let draft ← defaulted asBool false "draft" fields
  let bt2 ← optional asString "bt2" fields
  let scheduledAt ← optional LocalSchedule.fromJson "scheduled_at" fields
  let taskName ← optional asString "task_name" fields
  let account ← defaulted AccountSelection.fromJson default "account" fields
  let wechatLink ← defaulted WechatLink.fromJson default "wechat_link" fields
  let overrides ← defaulted (asList PlatformOverride.fromJson) [] "overrides" fields
  let targets ← required (asList Platform.fromJson) "targets" fields
  .ok ⟨source, title, shortTitle, tags, address, draft, bt2, scheduledAt, taskName, account,
    wechatLink, overrides, targets⟩

/-- `from_json`. -/
def PublishRequest.fromJson (j : Json) : Except DomainError PublishRequest :=
  (decode j).mapError .serialization

def PublishArticleRequest.toJson (r : PublishArticleRequest) : Except DomainError Json := do
  let file ← match r.file with
    | none => .ok Json.null
    | some path => path.toJson
  .ok (.object ([("platform", .string r.platform)] ++ accountField r.account ++
    [("title", .string r.title), ("content", ofOption .string r.content), ("file", file),
      ("cover", ofOption .string r.cover), ("category", ofOption .string r.category),
      ("tags", strings r.tags), ("summary", ofOption .string r.summary),
      ("scheduled_at", ofOption LocalSchedule.toJson r.scheduledAt)]))

/-- The reader derived for `PublishArticleRequest`. -/
def PublishArticleRequest.decode (j : Json) : Except String PublishArticleRequest := do
  let fields ← asObject j
  denyUnknown ["platform", "account", "title", "content", "file", "cover", "category", "tags",
    "summary", "scheduled_at"] fields
  let platform ← required asString "platform" fields
  let account ← defaulted AccountSelection.fromJson default "account" fields
  let title ← required asString "title" fields
  let content ← optional asString "content" fields
  let file ← optional PathBuf.fromJson "file" fields
  let cover ← optional asString "cover" fields
  let category ← optional asString "category" fields
  let tags ← defaulted (asList asString) [] "tags" fields
  let summary ← optional asString "summary" fields
  let scheduledAt ← optional LocalSchedule.fromJson "scheduled_at" fields
  .ok ⟨platform, account, title, content, file, cover, category, tags, summary, scheduledAt⟩

def PublishArticleRequest.fromJson (j : Json) : Except DomainError PublishArticleRequest :=
  (decode j).mapError .serialization

/-! ## 6. What is written is read back -/

theorem PathBuf.fromJson_toJson {path : PathBuf} {j : Json} (h : path.toJson = .ok j) :
    PathBuf.fromJson j = .ok path := by
  cases path with
  | utf8 text =>
    cases h
    rfl
  | other first rest => cases h

theorem isScheme_no_colon {s : String} (h : isScheme s = true) : ∀ c ∈ s.toList, c ≠ ':' := by
  unfold isScheme at h
  split at h
  · cases h
  · rename_i c cs hs
    rw [hs]
    simp only [Bool.and_eq_true, List.all_eq_true] at h
    intro x hx
    rcases List.mem_cons.mp hx with rfl | hx
    · rintro rfl
      exact absurd h.1 (by decide)
    · rintro rfl
      exact absurd (h.2 ':' hx) (by decide)

/-- A URL's text is parsed back into it. -/
theorem Url.parse_text (u : Url) : Url.parse u.text = .ok u := by
  obtain ⟨scheme, rest, hw⟩ := u
  have hc : ∀ c ∈ scheme.toList, decide (c ≠ ':') = true := fun c hc => by
    simpa using isScheme_no_colon hw c hc
  have htext : (Url.text ⟨scheme, rest, hw⟩).toList = scheme.toList ++ ':' :: rest.toList := by
    simp [Url.text, String.toList_append]
  have hdrop : (scheme.toList ++ ':' :: rest.toList).dropWhile (· ≠ ':') = ':' :: rest.toList := by
    rw [List.dropWhile_append_of_pos hc, List.dropWhile_cons_of_neg (by simp)]
  have htake : (scheme.toList ++ ':' :: rest.toList).takeWhile (· ≠ ':') = scheme.toList := by
    rw [List.takeWhile_append_of_pos hc, List.takeWhile_cons_of_neg (by simp), List.append_nil]
  unfold Url.parse
  simp only [htext, hdrop, htake, String.ofList_toList, dif_pos hw]

theorem MediaSource.fromJson_toJson {source : MediaSource} {j : Json}
    (h : source.toJson = .ok j) : MediaSource.fromJson j = .ok source := by
  cases source with
  | localFile path =>
    unfold MediaSource.toJson at h
    dsimp only at h
    cases hp : path.toJson with
    | error e =>
      rw [hp] at h
      cases h
    | ok value =>
      rw [hp] at h
      cases h
      have hv : required PathBuf.fromJson "value"
          [("kind", .string "local_file"), ("value", value)] = .ok path :=
        required_of_values (by simp) (PathBuf.fromJson_toJson hp)
      simp only [MediaSource.fromJson, asObject, bind, Except.bind, hv]
      rfl
  | remoteUrl url =>
    cases h
    have hv : required (fun j => do Url.parse (← asString j)) "value"
        [("kind", .string "remote_url"), ("value", .string url.text)] = .ok url :=
      required_of_values (j := .string url.text) (by simp) (Url.parse_text url)
    simp only [MediaSource.fromJson, asObject, bind, Except.bind] at hv ⊢
    simp only [hv]
    rfl

theorem Platform.fromJson_toJson (p : Platform) : Platform.fromJson p.toJson = .ok p := by
  simp [Platform.fromJson, Platform.toJson, asString, Platform.fromSpelling_asStr, bind,
    Except.bind]

theorem AccountSelection.fromJson_toJson (a : AccountSelection) :
    AccountSelection.fromJson a.toJson = .ok a := by
  obtain ⟨phone, partition⟩ := a
  unfold AccountSelection.toJson AccountSelection.fromJson
  generalize hf : skipNone Json.string "phone" phone ++
    skipNone Json.string "partition" partition = fields
  have hknown : denyUnknown ["phone", "partition"] fields = .ok () := by
    subst hf
    cases phone <;> cases partition <;> simp [denyUnknown, skipNone]
  have h₁ : optional asString "phone" fields = .ok phone :=
    optional_string (by simp [← hf])
  have h₂ : optional asString "partition" fields = .ok partition :=
    optional_string (by simp [← hf])
  simp only [asObject, bind, Except.bind, hknown, h₁, h₂]

theorem WechatLink.fromJson_toJson (w : WechatLink) : WechatLink.fromJson w.toJson = .ok w := by
  obtain ⟨productId, linkType, linkValue⟩ := w
  unfold WechatLink.toJson WechatLink.fromJson
  generalize hf : skipNone Json.string "product_id" productId ++
    skipNone Json.string "link_type" linkType ++
    skipNone Json.string "link_value" linkValue = fields
  have h₁ : optional asString "product_id" fields = .ok productId :=
    optional_string (by simp [← hf])
  have h₂ : optional asString "link_type" fields = .ok linkType :=
    optional_string (by simp [← hf])
  have h₃ : optional asString "link_value" fields = .ok linkValue :=
    optional_string (by simp [← hf])
  simp only [asObject, bind, Except.bind, h₁, h₂, h₃]

/-- A written map reads as a present value. -/
theorem asOption_account (a : AccountSelection) :
    asOption AccountSelection.fromJson a.toJson = .ok (some a) := by
  have h := AccountSelection.fromJson_toJson a
  unfold AccountSelection.toJson at h ⊢
  rw [asOption, h]
  · rfl
  · simp

theorem asOption_wechatLink (w : WechatLink) :
    asOption WechatLink.fromJson w.toJson = .ok (some w) := by
  have h := WechatLink.fromJson_toJson w
  unfold WechatLink.toJson at h ⊢
  rw [asOption, h]
  · rfl
  · simp

theorem asOption_strings (items : List String) :
    asOption (asList asString) (strings items) = .ok (some items) := by
  have h := asList_strings items
  unfold strings at h ⊢
  rw [asOption, h]
  · rfl
  · simp

theorem PlatformOverride.fromJson_toJson (o : PlatformOverride) :
    PlatformOverride.fromJson o.toJson = .ok o := by
  obtain ⟨platform, title, shortTitle, tags, creativeStatement, account, wechatLink⟩ := o
  unfold PlatformOverride.toJson PlatformOverride.fromJson
  dsimp only
  generalize hf : [("platform", platform.toJson)] ++ skipNone Json.string "title" title ++
    skipNone Json.string "short_title" shortTitle ++ skipNone strings "tags" tags ++
    skipNone Json.string "creative_statement" creativeStatement ++
    skipNone AccountSelection.toJson "account" account ++
    skipNone WechatLink.toJson "wechat_link" wechatLink = fields
  have h₁ : required Platform.fromJson "platform" fields = .ok platform :=
    required_of_values (by simp [← hf])
      (Platform.fromJson_toJson platform)
  have h₂ : optional asString "title" fields = .ok title :=
    optional_string (by simp [← hf])
  have h₃ : optional asString "short_title" fields = .ok shortTitle :=
    optional_string (by simp [← hf])
  have h₄ : optional (asList asString) "tags" fields = .ok tags := optional_of_values strings
    (by simp [← hf]) asOption_strings
  have h₅ : optional asString "creative_statement" fields = .ok creativeStatement :=
    optional_string (by simp [← hf])
  have h₆ : optional AccountSelection.fromJson "account" fields = .ok account :=
    optional_of_values AccountSelection.toJson
      (by simp [← hf]) asOption_account
  have h₇ : optional WechatLink.fromJson "wechat_link" fields = .ok wechatLink :=
    optional_of_values WechatLink.toJson
      (by simp [← hf]) asOption_wechatLink
  simp only [asObject, bind, Except.bind, h₁, h₂, h₃, h₄, h₅, h₆, h₇]

/-- The account field of a request: skipped exactly when there is nothing to say. -/
theorem defaulted_account {fields : List (String × Json)} {a : AccountSelection}
    (h : valuesOf "account" fields = valuesOf "account" (accountField a)) :
    defaulted AccountSelection.fromJson default "account" fields = .ok a := by
  rw [accountField, valuesOf_skipNone, if_pos rfl] at h
  by_cases he : a.isEmpty = true
  · rw [if_pos he] at h
    rw [defaulted, fieldOf_of_values (o := none) h, AccountSelection.eq_default he]
    rfl
  · rw [if_neg he] at h
    exact defaulted_of_values h (AccountSelection.fromJson_toJson a)

@[simp] theorem valuesOf_accountField {name : String} (hn : "account" ≠ name)
    (a : AccountSelection) : valuesOf name (accountField a) = [] := by
  rw [accountField, valuesOf_skipNone, if_neg hn]

/-- **A stored video request is read back as it was.** -/
theorem PublishRequest.fromJson_toJson {r : PublishRequest} {j : Json} (h : r.toJson = .ok j) :
    PublishRequest.fromJson j = .ok r := by
  obtain ⟨source, title, shortTitle, tags, address, draft, bt2, scheduledAt, taskName, account,
    wechatLink, overrides, targets⟩ := r
  unfold PublishRequest.toJson at h
  dsimp only at h
  cases hs : source.toJson with
  | error e =>
    rw [hs] at h
    cases h
  | ok sj =>
    rw [hs] at h
    simp only [bind, Except.bind] at h
    generalize hf : [("source", sj), ("title", Json.string title)] ++
      skipNone Json.string "short_title" shortTitle ++ [("tags", strings tags)] ++
      skipNone Json.string "address" address ++
      [("draft", Json.bool draft), ("bt2", ofOption Json.string bt2)] ++
      skipNone LocalSchedule.toJson "scheduled_at" scheduledAt ++
      skipNone Json.string "task_name" taskName ++ accountField account ++
      [("wechat_link", wechatLink.toJson),
        ("overrides", Json.array (overrides.map PlatformOverride.toJson)),
        ("targets", Json.array (targets.map Platform.toJson))] = fields at h
    cases h
    have h₁ : required MediaSource.fromJson "source" fields = .ok source :=
      required_of_values (by simp [← hf]) (MediaSource.fromJson_toJson hs)
    have h₂ : required asString "title" fields = .ok title := required_string (by simp [← hf])
    have h₃ : optional asString "short_title" fields = .ok shortTitle :=
      optional_string (by simp [← hf])
    have h₄ : defaulted (asList asString) [] "tags" fields = .ok tags :=
      defaulted_of_values (by simp [← hf]) (asList_strings tags)
    have h₅ : optional asString "address" fields = .ok address := optional_string (by simp [← hf])
    have h₆ : defaulted asBool false "draft" fields = .ok draft :=
      defaulted_of_values (j := .bool draft) (by simp [← hf]) rfl
    have h₇ : optional asString "bt2" fields = .ok bt2 := optional_nullable_string (by simp [← hf])
    have h₈ : optional LocalSchedule.fromJson "scheduled_at" fields = .ok scheduledAt :=
      optional_of_values LocalSchedule.toJson (by simp [← hf]) fun _ => rfl
    have h₉ : optional asString "task_name" fields = .ok taskName :=
      optional_string (by simp [← hf])
    have h₁₀ : defaulted AccountSelection.fromJson default "account" fields = .ok account :=
      defaulted_account (by simp [← hf])
    have h₁₁ : defaulted WechatLink.fromJson default "wechat_link" fields = .ok wechatLink :=
      defaulted_of_values (by simp [← hf]) (WechatLink.fromJson_toJson wechatLink)
    have h₁₂ : defaulted (asList PlatformOverride.fromJson) [] "overrides" fields =
        .ok overrides :=
      defaulted_of_values (by simp [← hf])
        (asList_map fun o _ => PlatformOverride.fromJson_toJson o)
    have h₁₃ : required (asList Platform.fromJson) "targets" fields = .ok targets :=
      required_of_values (by simp [← hf]) (asList_map fun p _ => Platform.fromJson_toJson p)
    simp only [PublishRequest.fromJson, PublishRequest.decode, asObject, bind, Except.bind, h₁, h₂,
      h₃, h₄, h₅, h₆, h₇, h₈, h₉, h₁₀, h₁₁, h₁₂, h₁₃, Except.mapError]

/-- The source is no path of bytes that are no text. -/
def MediaSource.IsUtf8 : MediaSource → Prop
  | .localFile (.other _ _) => False
  | .localFile (.utf8 _) | .remoteUrl _ => True

/-- A request with such a source can be written. -/
theorem PublishRequest.exists_toJson {r : PublishRequest} (h : r.source.IsUtf8) :
    ∃ j, r.toJson = .ok j := by
  have hsource : ∃ j, r.source.toJson = .ok j := by
    cases hs : r.source with
    | remoteUrl url => exact ⟨_, rfl⟩
    | localFile path =>
      cases path with
      | utf8 text => exact ⟨_, rfl⟩
      | other first rest =>
        rw [hs] at h
        cases h
  obtain ⟨j, hj⟩ := hsource
  rw [PublishRequest.toJson, hj]
  exact ⟨_, rfl⟩

/-- And no other: the error names the path. -/
theorem PublishRequest.toJson_error {r : PublishRequest} {e : DomainError}
    (h : r.toJson = .error e) :
    ¬ r.source.IsUtf8 ∧ e = .serialization "path contains invalid UTF-8 characters" := by
  cases hs : r.source with
  | remoteUrl url =>
    rw [PublishRequest.toJson, hs] at h
    cases h
  | localFile path =>
    rw [PublishRequest.toJson, hs] at h
    cases path with
    | utf8 text => cases h
    | other first rest =>
      cases h
      exact ⟨fun hutf8 => hutf8, rfl⟩

/-- An article request whose file is a path of text can be written. -/
theorem PublishArticleRequest.exists_toJson {r : PublishArticleRequest}
    (h : ∀ path, r.file = some path → ∃ text, path = .utf8 text) : ∃ j, r.toJson = .ok j := by
  unfold PublishArticleRequest.toJson
  cases hfile : r.file with
  | none => exact ⟨_, rfl⟩
  | some path =>
    obtain ⟨text, rfl⟩ := h path hfile
    exact ⟨_, rfl⟩

/-- **A stored article request is read back as it was.** -/
theorem PublishArticleRequest.fromJson_toJson {r : PublishArticleRequest} {j : Json}
    (h : r.toJson = .ok j) : PublishArticleRequest.fromJson j = .ok r := by
  obtain ⟨platform, account, title, content, file, cover, category, tags, summary,
    scheduledAt⟩ := r
  unfold PublishArticleRequest.toJson at h
  dsimp only at h
  have hfile : ∃ fj, asOption PathBuf.fromJson fj = .ok file ∧ (Except.ok (.object
      ([("platform", .string platform)] ++ accountField account ++
        [("title", .string title), ("content", ofOption .string content), ("file", fj),
          ("cover", ofOption .string cover), ("category", ofOption .string category),
          ("tags", strings tags), ("summary", ofOption .string summary),
          ("scheduled_at", ofOption LocalSchedule.toJson scheduledAt)])) :
        Except DomainError Json) = .ok j := by
    cases file with
    | none => exact ⟨.null, rfl, h⟩
    | some path =>
      cases path with
      | utf8 text => exact ⟨.string text, rfl, h⟩
      | other first rest => cases h
  obtain ⟨fj, hfj, h⟩ := hfile
  generalize hf : [("platform", Json.string platform)] ++ accountField account ++
    [("title", Json.string title), ("content", ofOption Json.string content), ("file", fj),
      ("cover", ofOption Json.string cover), ("category", ofOption Json.string category),
      ("tags", strings tags), ("summary", ofOption Json.string summary),
      ("scheduled_at", ofOption LocalSchedule.toJson scheduledAt)] = fields at h
  cases h
  have hknown : denyUnknown ["platform", "account", "title", "content", "file", "cover",
      "category", "tags", "summary", "scheduled_at"] fields = .ok () := by
    subst hf
    unfold accountField
    by_cases he : account.isEmpty = true <;> simp [denyUnknown, skipNone, he]
  have h₁ : required asString "platform" fields = .ok platform := required_string (by simp [← hf])
  have h₂ : defaulted AccountSelection.fromJson default "account" fields = .ok account :=
    defaulted_account (by simp [← hf])
  have h₃ : required asString "title" fields = .ok title := required_string (by simp [← hf])
  have h₄ : optional asString "content" fields = .ok content :=
    optional_nullable_string (by simp [← hf])
  have h₅ : optional PathBuf.fromJson "file" fields = .ok file :=
    defaulted_of_values (by simp [← hf]) hfj
  have h₆ : optional asString "cover" fields = .ok cover :=
    optional_nullable_string (by simp [← hf])
  have h₇ : optional asString "category" fields = .ok category :=
    optional_nullable_string (by simp [← hf])
  have h₈ : defaulted (asList asString) [] "tags" fields = .ok tags :=
    defaulted_of_values (by simp [← hf]) (asList_strings tags)
  have h₉ : optional asString "summary" fields = .ok summary :=
    optional_nullable_string (by simp [← hf])
  have h₁₀ : optional LocalSchedule.fromJson "scheduled_at" fields = .ok scheduledAt :=
    optional_nullable LocalSchedule.toJson (by simp [← hf]) fun _ => rfl
  simp only [PublishArticleRequest.fromJson, PublishArticleRequest.decode, asObject, bind,
    Except.bind, hknown, h₁, h₂, h₃, h₄, h₅, h₆, h₇, h₈, h₉, h₁₀, Except.mapError]

/-! ## 7. What is read can be written -/

/-- A path that was read can be written. -/
theorem PathBuf.toJson_of_fromJson {j : Json} {path : PathBuf}
    (h : PathBuf.fromJson j = .ok path) : ∃ j', path.toJson = .ok j' := by
  cases path with
  | utf8 text => exact ⟨.string text, rfl⟩
  | other first rest =>
    unfold PathBuf.fromJson at h
    cases ht : asString j with
    | error e =>
      rw [ht] at h
      cases h
    | ok text =>
      rw [ht] at h
      cases h

theorem MediaSource.toJson_of_fromJson {j : Json} {source : MediaSource}
    (h : MediaSource.fromJson j = .ok source) : ∃ j', source.toJson = .ok j' := by
  cases source with
  | remoteUrl url => exact ⟨_, rfl⟩
  | localFile path =>
    obtain ⟨fields, -, h₁⟩ := except_bind_ok.mp h
    obtain ⟨kind, -, h₂⟩ := except_bind_ok.mp h₁
    split at h₂
    · obtain ⟨path', hpath, he⟩ := except_bind_ok.mp h₂
      cases he
      obtain ⟨value, hvalue⟩ := required_ok hpath
      obtain ⟨j', hj'⟩ := PathBuf.toJson_of_fromJson hvalue
      rw [MediaSource.toJson, hj']
      exact ⟨_, rfl⟩
    split at h₂
    · obtain ⟨url, -, he⟩ := except_bind_ok.mp h₂
      cases he
    · cases h₂

/-- **A request that was read can be written, without its routing too.** -/
theorem PublishRequest.toJson_of_fromJson {j : Json} {r : PublishRequest}
    (h : PublishRequest.fromJson j = .ok r) : ∃ j', r.runnerSafe.toJson = .ok j' := by
  unfold PublishRequest.fromJson at h
  cases hd : PublishRequest.decode j with
  | error e =>
    rw [hd] at h
    cases h
  | ok r' =>
    rw [hd] at h
    cases h
    obtain ⟨fields, -, h₁⟩ := except_bind_ok.mp hd
    obtain ⟨source, hsource, h₂⟩ := except_bind_ok.mp h₁
    obtain ⟨value, hvalue⟩ := required_ok hsource
    obtain ⟨j', hj'⟩ := MediaSource.toJson_of_fromJson hvalue
    have hr : r.source = source := by
      repeat (obtain ⟨_, -, h₂⟩ := except_bind_ok.mp h₂)
      cases h₂
      rfl
    have hs : r.runnerSafe.source = source := hr
    rw [PublishRequest.toJson, hs, hj']
    exact ⟨_, rfl⟩

end MatriXpost
