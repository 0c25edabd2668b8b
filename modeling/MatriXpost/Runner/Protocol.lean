/-
  File:      MatriXpost/Runner/Protocol.lean
  Subject:   THE REQUESTS A CLIENT POSTS TO A LOCAL RUNNER, AND THE RESPONSES IT ACCEPTS.

  Sources: `runner/protocol.rs`, and the request and response types of `runner/article.rs` and
  `runner/provider/transport.rs`.

  Bodies are JSON values, as in `Core/Json.lean`. Every response carries the version and the
  platform it is for; the `into` functions take one only when both are the expected ones, and
  `intoDispatch` and `intoManualLogin` also check what goes with the outcome.
-/
import MatriXpost.Core.Json
import MatriXpost.Dispatch.Registry
import MatriXpost.Runner.TerminalQrAttempts
import MatriXpost.Runner.TerminalQrPng

namespace MatriXpost

/-! ## 1. Structs and tagged enums -/

namespace Json

def asU16 : Decoder Nat
  | .number n => if 0 ≤ n ∧ n < 65536 then .ok n.toNat else .error "invalid value, expected u16"
  | _ => .error "invalid type, expected u16"

/-- The fields of a derived struct that denies unknown ones, from a map or from a sequence. -/
def fieldsOf (names : List String) : Json → Except String (List (String × Json))
  | .object fields => do
    denyUnknown names fields
    .ok fields
  | .array items =>
    if items.length = names.length then .ok (names.zip items) else .error "invalid length"
  | _ => .error "invalid type, expected a struct"

/-- `#[serde(tag = "outcome")]`: the tag, and the content without it. -/
def tagged : Json → Except String (String × Json)
  | .object fields => do
    let tag ← required asString "outcome" fields
    .ok (tag, .object (fields.filter fun f => f.1 ≠ "outcome"))
  | .array (tag :: items) => do
    let tag ← asString tag
    .ok (tag, .array items)
  | _ => .error "invalid type, expected an internally tagged enum"

/-- A tagged value: the tag goes first. -/
def ofTagged (tag : String) (fields : List (String × Json)) : Json :=
  .object (("outcome", .string tag) :: fields)

theorem asU16_number {v : Nat} (h : v < 65536) : asU16 (.number v) = .ok v := by
  have hrange : (0 : Int) ≤ v ∧ (v : Int) < 65536 := by omega
  simp only [asU16, if_pos hrange, Int.toNat_natCast]

/-- **A written tag is read back**, and the content with it. -/
theorem tagged_ofTagged {tag : String} {fields : List (String × Json)}
    (h : ∀ f ∈ fields, f.1 ≠ "outcome") :
    tagged (ofTagged tag fields) = .ok (tag, .object fields) := by
  have hnone : valuesOf "outcome" fields = [] := by
    unfold valuesOf
    rw [List.filter_eq_nil_iff.mpr fun f hf => by simpa using h f hf]
    rfl
  have htag : required asString "outcome" (("outcome", .string tag) :: fields) = .ok tag :=
    required_string (by rw [valuesOf_cons, if_pos rfl, hnone])
  have hrest : fields.filter (fun f => f.1 ≠ "outcome") = fields :=
    List.filter_eq_self.mpr fun f hf => by simpa using h f hf
  unfold ofTagged tagged
  simp only [htag, bind, Except.bind]
  rw [List.filter_cons_of_neg (by simp), hrest]

end Json

open Json

def ArticlePlatform.toJson : ArticlePlatform → Json
  | .juejin => .string "juejin"

def ArticlePlatform.fromJson (j : Json) : Except String ArticlePlatform := do
  let name ← asString j
  if name = "juejin" then .ok .juejin else .error ("unknown variant " ++ name)

/-- `version` and `platform`, which every message begins with. -/
def header (version : Nat) (platform : Json) : List (String × Json) :=
  [("version", .number version), ("platform", platform)]

/-- The version of a header is read back, where the content does not name one again. -/
theorem required_version {version : Nat} {platform : Json} {rest : List (String × Json)}
    (hversion : version < 65536) (hrest : valuesOf "version" rest = []) :
    required asU16 "version" (header version platform ++ rest) = .ok version :=
  required_of_values (j := .number version) (by simp [header, hrest]) (asU16_number hversion)

/-- And so is its platform. -/
theorem required_platform {P : Type} {dec : Decoder P} {p : P} {version : Nat} {platform : Json}
    {rest : List (String × Json)} (hplatform : dec platform = .ok p)
    (hrest : valuesOf "platform" rest = []) :
    required dec "platform" (header version platform ++ rest) = .ok p :=
  required_of_values (j := platform) (by simp [header, hrest]) hplatform

/-- A message with a header has the fields it is read with, and its version and platform are read
    back. -/
theorem header_read {P : Type} {dec : Decoder P} {p : P} {version : Nat} {platform : Json}
    (names : List String) (rest : List (String × Json)) (hversion : version < 65536)
    (hplatform : dec platform = .ok p) (hnames : rest.map Prod.fst = names)
    (hother : "version" ∉ names ∧ "platform" ∉ names) :
    fieldsOf ("version" :: "platform" :: names) (.object (header version platform ++ rest)) =
        .ok (header version platform ++ rest) ∧
      required asU16 "version" (header version platform ++ rest) = .ok version ∧
      required dec "platform" (header version platform ++ rest) = .ok p := by
  have hmem : ∀ f ∈ rest, f.1 ∈ names := fun f hf => hnames ▸ List.mem_map_of_mem hf
  have hnone : (header version platform ++ rest).find?
      (fun f => f.1 ∉ "version" :: "platform" :: names) = none := by
    rw [List.find?_eq_none]
    intro f hf
    rcases List.mem_append.mp hf with hheader | hrest
    · simp only [header, List.mem_cons, List.not_mem_nil, or_false] at hheader
      rcases hheader with rfl | rfl <;> simp
    · simp [hmem f hrest]
  have habsent : ∀ name, name ∉ names → valuesOf name rest = [] := fun name hname => by
    have hne : ∀ f ∈ rest, ¬ f.1 = name := fun f hf heq => hname (heq ▸ hmem f hf)
    unfold valuesOf
    rw [List.filter_eq_nil_iff.mpr fun f hf => by simpa using hne f hf]
    rfl
  refine ⟨?_, required_version hversion (habsent _ hother.1),
    required_platform hplatform (habsent _ hother.2)⟩
  simp only [fieldsOf, denyUnknown, hnone, bind, Except.bind]

/-- The response to a publication: three outcomes under their tags. `content` reads what an outcome
    holds, by the name it has for its text. -/
def readOutcome {α R : Type} (content : String → Json → Except String α)
    (queued unavailable rejected : α → R) (j : Json) : Except String R := do
  let (tag, fields) ← tagged j
  if tag = "queued" then queued <$> content "job_id" fields
  else if tag = "unavailable" then unavailable <$> content "reason" fields
  else if tag = "rejected" then rejected <$> content "reason" fields
  else .error ("unknown variant " ++ tag)

section ReadOutcome
variable {α R : Type} {content : String → Json → Except String α}
  {queued unavailable rejected : α → R} {tag : String} {j fields : Json} {a : α}

theorem readOutcome_tagged (h : tagged j = .ok (tag, fields)) :
    readOutcome content queued unavailable rejected j =
      if tag = "queued" then queued <$> content "job_id" fields
      else if tag = "unavailable" then unavailable <$> content "reason" fields
      else if tag = "rejected" then rejected <$> content "reason" fields
      else .error ("unknown variant " ++ tag) := by
  unfold readOutcome
  rw [h]
  rfl

theorem readOutcome_queued (htag : tagged j = .ok ("queued", fields))
    (hcontent : content "job_id" fields = .ok a) :
    readOutcome content queued unavailable rejected j = .ok (queued a) := by
  rw [readOutcome_tagged htag, if_pos rfl, hcontent]
  rfl

theorem readOutcome_unavailable (htag : tagged j = .ok ("unavailable", fields))
    (hcontent : content "reason" fields = .ok a) :
    readOutcome content queued unavailable rejected j = .ok (unavailable a) := by
  rw [readOutcome_tagged htag, if_neg (by decide), if_pos rfl, hcontent]
  rfl

theorem readOutcome_rejected (htag : tagged j = .ok ("rejected", fields))
    (hcontent : content "reason" fields = .ok a) :
    readOutcome content queued unavailable rejected j = .ok (rejected a) := by
  rw [readOutcome_tagged htag, if_neg (by decide), if_neg (by decide), if_pos rfl, hcontent]
  rfl

end ReadOutcome

/-! ## 2. Video publication -/

/-- `PROVIDER_RUNNER_PROTOCOL_VERSION`. -/
def providerRunnerProtocolVersion : Nat := 1

structure ProviderRunnerRequest where
  version : Nat
  platform : Platform
  request : PublishRequest

def ProviderRunnerRequest.toJson (r : ProviderRunnerRequest) : Except DomainError Json := do
  let request ← r.request.toJson
  .ok (.object (header r.version r.platform.toJson ++ [("request", request)]))

/-- The body a runner's handler is given. -/
def ProviderRunnerRequest.fromJson (j : Json) : Except String ProviderRunnerRequest := do
  let fields ← fieldsOf ["version", "platform", "request"] j
  let version ← required asU16 "version" fields
  let platform ← required Platform.fromJson "platform" fields
  let request ← required PublishRequest.decode "request" fields
  .ok ⟨version, platform, request⟩

theorem PublishRequest.decode_toJson {r : PublishRequest} {j : Json} (h : r.toJson = .ok j) :
    PublishRequest.decode j = .ok r := by
  have hread := PublishRequest.fromJson_toJson h
  unfold PublishRequest.fromJson at hread
  cases hd : PublishRequest.decode j with
  | error e =>
    rw [hd] at hread
    cases hread
  | ok request =>
    rw [hd] at hread
    cases hread
    rfl

/-- **A posted request is read as it was written.** -/
theorem ProviderRunnerRequest.fromJson_toJson {r : ProviderRunnerRequest} {j : Json}
    (hversion : r.version < 65536) (h : r.toJson = .ok j) : fromJson j = .ok r := by
  obtain ⟨version, platform, request⟩ := r
  obtain ⟨body, hbody, hj⟩ := except_bind_ok.mp h
  cases hj
  obtain ⟨hknown, h₁, h₂⟩ := header_read ["request"] [("request", body)] hversion
    (Platform.fromJson_toJson platform) rfl (by decide)
  have h₃ : required PublishRequest.decode "request"
      (header version platform.toJson ++ [("request", body)]) = .ok request :=
    required_of_values (j := body) (by simp [header]) (PublishRequest.decode_toJson hbody)
  exact except_bind_ok.mpr ⟨_, hknown, except_bind_ok.mpr ⟨version, h₁,
    except_bind_ok.mpr ⟨platform, h₂, except_bind_ok.mpr ⟨request, h₃, rfl⟩⟩⟩⟩

/-- The response of a local video runner. -/
inductive ProviderRunnerResponse where
  | queued (version : Nat) (platform : Platform) (jobId : String)
  | unavailable (version : Nat) (platform : Platform) (reason : String)
  | rejected (version : Nat) (platform : Platform) (reason : String)
deriving DecidableEq, Repr

namespace ProviderRunnerResponse

/-- A variant with its content: version, platform and the text under its name. -/
def written (tag name : String) (version : Nat) (platform : Platform) (text : String) : Json :=
  ofTagged tag (header version platform.toJson ++ [(name, .string text)])

def toJson : ProviderRunnerResponse → Json
  | .queued version platform jobId => written "queued" "job_id" version platform jobId
  | .unavailable version platform reason => written "unavailable" "reason" version platform reason
  | .rejected version platform reason => written "rejected" "reason" version platform reason

/-- The content of a variant is read so. -/
def fields (name : String) (content : Json) : Except String (Nat × Platform × String) := do
  let fields ← fieldsOf ["version", "platform", name] content
  .ok (← required asU16 "version" fields, ← required Platform.fromJson "platform" fields,
    ← required asString name fields)

def fromJson : Json → Except String ProviderRunnerResponse :=
  readOutcome fields (fun (version, platform, jobId) => .queued version platform jobId)
    (fun (version, platform, reason) => .unavailable version platform reason)
    (fun (version, platform, reason) => .rejected version platform reason)

/-- `version` of whichever variant. -/
def version : ProviderRunnerResponse → Nat
  | .queued version .. | .unavailable version .. | .rejected version .. => version

section Written
variable {tag name text : String} {platform : Platform} {version : Nat}

theorem tagged_written (hname : name ≠ "outcome") :
    tagged (written tag name version platform text) =
      .ok (tag, .object (header version platform.toJson ++ [(name, .string text)])) := by
  refine tagged_ofTagged ?_
  simp [header, hname]

/-- **The content of a variant is read back.** -/
theorem fields_written (hversion : version < 65536) (hname : name = "job_id" ∨ name = "reason") :
    fields name (.object (header version platform.toJson ++ [(name, .string text)])) =
      .ok (version, platform, text) := by
  obtain ⟨hknown, h₁, h₂⟩ := header_read [name] [(name, .string text)] hversion
    (Platform.fromJson_toJson platform) rfl (by rcases hname with rfl | rfl <;> decide)
  have h₃ : required asString name (header version platform.toJson ++ [(name, .string text)]) =
      .ok text :=
    required_string (by rcases hname with rfl | rfl <;> simp [header])
  simp only [fields, hknown, h₁, h₂, h₃, bind, Except.bind]

end Written

/-- **A written response is read back.** -/
theorem fromJson_toJson {r : ProviderRunnerResponse} (h : r.version < 65536) :
    fromJson r.toJson = .ok r := by
  have hjob : "job_id" ≠ "outcome" := by decide
  have hreason : "reason" ≠ "outcome" := by decide
  cases r with
  | queued v p t => exact readOutcome_queued (tagged_written hjob) (fields_written h (.inl rfl))
  | unavailable v p t =>
    exact readOutcome_unavailable (tagged_written hreason) (fields_written h (.inr rfl))
  | rejected v p t =>
    exact readOutcome_rejected (tagged_written hreason) (fields_written h (.inr rfl))

/-- Takes a response for the expected platform and version, and no blank job id. -/
def intoDispatch (expected : Platform) : ProviderRunnerResponse → Option DispatchOutcome
  | .queued version platform jobId =>
    if version = providerRunnerProtocolVersion ∧ platform = expected ∧ isBlank jobId = false then
      some (.queued jobId)
    else none
  | .unavailable version platform reason =>
    if version = providerRunnerProtocolVersion ∧ platform = expected then
      some (.unavailable reason)
    else none
  | .rejected version platform reason =>
    if version = providerRunnerProtocolVersion ∧ platform = expected then some (.rejected reason)
    else none

end ProviderRunnerResponse

/-! ## 3. Article publication -/

/-- `ARTICLE_RUNNER_PROTOCOL_VERSION`. -/
def articleRunnerProtocolVersion : Nat := 1

structure ArticleRunnerRequest where
  version : Nat
  request : PublishArticleRequest

def ArticleRunnerRequest.toJson (r : ArticleRunnerRequest) : Except DomainError Json := do
  let request ← r.request.toJson
  .ok (.object [("version", .number r.version), ("request", request)])

/-- The response of a local article runner. -/
inductive ArticleRunnerResponse where
  | queued (version : Nat) (platform : ArticlePlatform) (jobId : String)
      (automationAttempted : Bool)
  | unavailable (version : Nat) (platform : ArticlePlatform) (reason : String)
      (automationAttempted : Bool)
  | rejected (version : Nat) (platform : ArticlePlatform) (reason : String)
      (automationAttempted : Bool)
deriving DecidableEq, Repr

namespace ArticleRunnerResponse

/-- A variant with its content: version, platform, the text under its name, and the flag. -/
def written (tag name : String) (version : Nat) (platform : ArticlePlatform) (text : String)
    (attempted : Bool) : Json :=
  ofTagged tag (header version platform.toJson ++
    [(name, .string text), ("automation_attempted", .bool attempted)])

def toJson : ArticleRunnerResponse → Json
  | .queued version platform jobId attempted =>
    written "queued" "job_id" version platform jobId attempted
  | .unavailable version platform reason attempted =>
    written "unavailable" "reason" version platform reason attempted
  | .rejected version platform reason attempted =>
    written "rejected" "reason" version platform reason attempted

def fields (name : String) (content : Json) :
    Except String (Nat × ArticlePlatform × String × Bool) := do
  let fields ← fieldsOf ["version", "platform", name, "automation_attempted"] content
  .ok (← required asU16 "version" fields, ← required ArticlePlatform.fromJson "platform" fields,
    ← required asString name fields, ← required asBool "automation_attempted" fields)

def fromJson : Json → Except String ArticleRunnerResponse :=
  readOutcome fields
    (fun (version, platform, jobId, attempted) => .queued version platform jobId attempted)
    (fun (version, platform, reason, attempted) => .unavailable version platform reason attempted)
    (fun (version, platform, reason, attempted) => .rejected version platform reason attempted)

/-- Takes a response for the expected platform and version: queued only with an attempt and a
    job id, unavailable only without an attempt. -/
def intoDispatch (expected : ArticlePlatform) :
    ArticleRunnerResponse → Option ArticleDispatchOutcome
  | .queued version platform jobId true =>
    if version = articleRunnerProtocolVersion ∧ platform = expected ∧ isBlank jobId = false then
      some (.queued jobId)
    else none
  | .unavailable version platform reason false =>
    if version = articleRunnerProtocolVersion ∧ platform = expected then some (.unavailable reason)
    else none
  | .rejected version platform reason attempted =>
    if version = articleRunnerProtocolVersion ∧ platform = expected then
      some (.rejected reason attempted)
    else none
  | _ => none

/-- `version` of whichever variant. -/
def version : ArticleRunnerResponse → Nat
  | .queued version .. | .unavailable version .. | .rejected version .. => version

section Written
variable {tag name text : String} {platform : ArticlePlatform} {version : Nat} {attempted : Bool}

theorem tagged_written (hname : name ≠ "outcome") :
    tagged (written tag name version platform text attempted) =
      .ok (tag, .object (header version platform.toJson ++
        [(name, .string text), ("automation_attempted", .bool attempted)])) := by
  refine tagged_ofTagged ?_
  simp [header, hname]

/-- **The content of a variant is read back.** -/
theorem fields_written (hversion : version < 65536) (hname : name = "job_id" ∨ name = "reason") :
    fields name (.object (header version platform.toJson ++
      [(name, .string text), ("automation_attempted", .bool attempted)])) =
      .ok (version, platform, text, attempted) := by
  obtain ⟨hknown, h₁, h₂⟩ := header_read [name, "automation_attempted"]
    [(name, .string text), ("automation_attempted", .bool attempted)] hversion
    (show ArticlePlatform.fromJson platform.toJson = .ok platform by cases platform; rfl) rfl
    (by rcases hname with rfl | rfl <;> decide)
  have h₃ : required asString name (header version platform.toJson ++
      [(name, .string text), ("automation_attempted", .bool attempted)]) = .ok text :=
    required_string (by rcases hname with rfl | rfl <;> simp [header])
  have h₄ : required asBool "automation_attempted" (header version platform.toJson ++
      [(name, .string text), ("automation_attempted", .bool attempted)]) = .ok attempted :=
    required_of_values (j := .bool attempted)
      (by rcases hname with rfl | rfl <;> simp [header]) rfl
  simp only [fields, hknown, h₁, h₂, h₃, h₄, bind, Except.bind]

end Written

/-- **A written response is read back.** -/
theorem fromJson_toJson {r : ArticleRunnerResponse} (h : r.version < 65536) :
    fromJson r.toJson = .ok r := by
  have hjob : "job_id" ≠ "outcome" := by decide
  have hreason : "reason" ≠ "outcome" := by decide
  cases r with
  | queued v p t a => exact readOutcome_queued (tagged_written hjob) (fields_written h (.inl rfl))
  | unavailable v p t a =>
    exact readOutcome_unavailable (tagged_written hreason) (fields_written h (.inr rfl))
  | rejected v p t a =>
    exact readOutcome_rejected (tagged_written hreason) (fields_written h (.inr rfl))

end ArticleRunnerResponse

/-! ## 4. Probes of the attached browser -/

/-- `LOGIN_RUNNER_PROTOCOL_VERSION`. -/
def loginRunnerProtocolVersion : Nat := 1

/-- `ACCOUNT_STATUS_RUNNER_PROTOCOL_VERSION`. -/
def accountStatusRunnerProtocolVersion : Nat := 1

/-- `REVIEW_STATUS_RUNNER_PROTOCOL_VERSION`. -/
def reviewStatusRunnerProtocolVersion : Nat := 1

/-- `REVIEW_STATUS_TITLE_QUERY_MAX_BYTES`. -/
def reviewStatusTitleQueryMaxBytes : Nat := 200

/-- The request of a manual login and of a readiness probe. -/
structure ProbeRequest where
  version : Nat
  platform : Platform

def ProbeRequest.toJson (r : ProbeRequest) : Json := .object (header r.version r.platform.toJson)

/-- The response to a manual login. -/
inductive LoginRunnerResponse where
  | opened (version : Nat) (platform : Platform) (manualLoginRequired : Bool)
  | unavailable (version : Nat) (platform : Platform) (reason : String)
  | rejected (version : Nat) (platform : Platform) (reason : String)

inductive ManualLoginOutcome where
  | opened | unavailable | rejected
deriving DecidableEq, Repr

namespace LoginRunnerResponse

def fromJson (j : Json) : Except String LoginRunnerResponse := do
  let (tag, content) ← tagged j
  if tag = "opened" then do
    let fields ← fieldsOf ["version", "platform", "manual_login_required"] content
    .ok (.opened (← required asU16 "version" fields)
      (← required Platform.fromJson "platform" fields)
      (← required asBool "manual_login_required" fields))
  else if tag = "unavailable" then do
    let (version, platform, reason) ← ProviderRunnerResponse.fields "reason" content
    .ok (.unavailable version platform reason)
  else if tag = "rejected" then do
    let (version, platform, reason) ← ProviderRunnerResponse.fields "reason" content
    .ok (.rejected version platform reason)
  else .error ("unknown variant " ++ tag)

/-- Takes a response for the expected platform and version; opened only if a login is left to
    the user. -/
def intoManualLogin (expected : Platform) : LoginRunnerResponse → Option ManualLoginOutcome
  | .opened version platform true =>
    if version = loginRunnerProtocolVersion ∧ platform = expected then some .opened else none
  | .unavailable version platform _ =>
    if version = loginRunnerProtocolVersion ∧ platform = expected then some .unavailable else none
  | .rejected version platform _ =>
    if version = loginRunnerProtocolVersion ∧ platform = expected then some .rejected else none
  | .opened _ _ false => none

end LoginRunnerResponse

inductive AccountReadiness where
  | ready | notReady | unavailable | rejected
deriving DecidableEq, Repr

inductive ReviewStatus where
  | published | underReview | rejected | notFound | unavailable
deriving DecidableEq, Repr

/-- A response that is an outcome for a version and a platform, and nothing else. -/
structure StatusResponse (σ : Type) where
  outcome : σ
  version : Nat
  platform : Platform

/-- The variants of such a response by their tags. -/
def StatusResponse.fromJson {σ : Type} (variants : List (String × σ)) (j : Json) :
    Except String (StatusResponse σ) := do
  let (tag, content) ← tagged j
  match variants.find? fun v => v.1 = tag with
  | none => .error ("unknown variant " ++ tag)
  | some (_, outcome) => do
    let fields ← fieldsOf ["version", "platform"] content
    .ok ⟨outcome, ← required asU16 "version" fields, ← required Platform.fromJson "platform" fields⟩

/-- Takes a response for the expected version and platform. -/
def StatusResponse.into {σ : Type} (version : Nat) (expected : Platform) (r : StatusResponse σ) :
    Option σ :=
  if r.version = version ∧ r.platform = expected then some r.outcome else none

/-- `AccountStatusRunnerResponse`. -/
def accountStatusVariants : List (String × AccountReadiness) :=
  [("ready", .ready), ("not_ready", .notReady), ("unavailable", .unavailable),
    ("rejected", .rejected)]

/-- `ReviewStatusRunnerResponse`. -/
def reviewStatusVariants : List (String × ReviewStatus) :=
  [("published", .published), ("under_review", .underReview), ("rejected", .rejected),
    ("not_found", .notFound), ("unavailable", .unavailable)]

/-- A request for the review status of a video. -/
structure ReviewStatusRunnerRequest where
  version : Nat
  platform : Platform
  titleQuery : String

namespace ReviewStatusRunnerRequest

def toJson (r : ReviewStatusRunnerRequest) : Json :=
  .object (header r.version r.platform.toJson ++ [("title_query", .string r.titleQuery)])

/-- Checks the only permitted platform and the bounded title query. -/
def validate (r : ReviewStatusRunnerRequest) : Bool :=
  r.platform = .fanqieVideo && !isBlank r.titleQuery &&
    r.titleQuery.utf8ByteSize ≤ reviewStatusTitleQueryMaxBytes

end ReviewStatusRunnerRequest

/-- `normalize_review_title_query`. -/
def normalizeReviewTitleQuery (value : String) : String :=
  String.ofList (value.toList.filter fun c => !isWhitespace c)

/-! ## 5. Terminal QR logins -/

/-- `TERMINAL_QR_LOGIN_ATTEMPT_TOKEN_MAX_BYTES`. -/
def terminalQrLoginAttemptTokenMaxBytes : Nat := 128

/-- `TERMINAL_QR_LOGIN_RESPONSE_MAX_BYTES`. -/
def terminalQrLoginResponseMaxBytes : Nat := terminalQrLoginPngBase64MaxBytes + 4096

/-- The platforms with terminal QR flow. -/
def Platform.hasTerminalQr (platform : Platform) : Bool :=
  platform = .douyin || platform = .wechatChannels

/-- `terminal_qr_attempt_token_is_valid`. -/
def terminalQrAttemptTokenIsValid (value : String) : Bool :=
  value ≠ "" && value.utf8ByteSize ≤ terminalQrLoginAttemptTokenMaxBytes &&
    (utf8 value).all fun b => isAsciiAlphanumeric b || b = 45 || b = 95

/-- `terminal_qr_request_matches`. -/
def terminalQrRequestMatches (version : Nat) (platform : Platform) : Bool :=
  version = terminalQrLoginRunnerProtocolVersion && platform.hasTerminalQr

/-- The request of a refresh and of a cancellation. -/
structure TerminalQrAttemptRequest where
  version : Nat
  platform : Platform
  attemptToken : String

namespace TerminalQrAttemptRequest

def toJson (r : TerminalQrAttemptRequest) : Json :=
  .object (header r.version r.platform.toJson ++ [("attempt_token", .string r.attemptToken)])

def validate (r : TerminalQrAttemptRequest) : Bool :=
  terminalQrRequestMatches r.version r.platform && terminalQrAttemptTokenIsValid r.attemptToken

end TerminalQrAttemptRequest

/-- Validated local state of a terminal QR login attempt. -/
inductive TerminalQrLoginOutcome where
  | qrAvailable (attemptToken pngBase64 : String)
  | pending (attemptToken : String)
  | timedOut | cancelled | unavailable | rejected
deriving DecidableEq, Repr

namespace TerminalQrLoginRunnerResponse

def fromJson (j : Json) : Except String TerminalQrLoginRunnerResponse := do
  let (tag, content) ← tagged j
  if tag = "qr_available" then do
    let fields ← fieldsOf ["version", "platform", "attempt_token", "png_base64"] content
    .ok (.qrAvailable (← required asU16 "version" fields)
      (← required Platform.fromJson "platform" fields) (← required asString "attempt_token" fields)
      (← required asString "png_base64" fields))
  else if tag = "pending" then do
    let (version, platform, token) ← ProviderRunnerResponse.fields "attempt_token" content
    .ok (.pending version platform token)
  else do
    let r ← StatusResponse.fromJson [("timed_out", timedOut), ("cancelled", cancelled),
      ("unavailable", unavailable), ("rejected", rejected)] j
    .ok (r.outcome r.version r.platform)

/-- `terminal_qr_response_matches`. -/
def isFor (version : Nat) (platform expected : Platform) : Bool :=
  version = terminalQrLoginRunnerProtocolVersion && platform = expected && platform.hasTerminalQr

/-- Takes a response for the expected platform and version, with a valid token and picture. -/
def intoTerminalQrLogin (expected : Platform) :
    TerminalQrLoginRunnerResponse → Option TerminalQrLoginOutcome
  | .qrAvailable version platform token png =>
    if isFor version platform expected && terminalQrAttemptTokenIsValid token &&
        terminalQrPngBase64IsValid png then
      some (.qrAvailable token png)
    else none
  | .pending version platform token =>
    if isFor version platform expected && terminalQrAttemptTokenIsValid token then
      some (.pending token)
    else none
  | .timedOut version platform => if isFor version platform expected then some .timedOut else none
  | .cancelled version platform => if isFor version platform expected then some .cancelled else none
  | .unavailable version platform =>
    if isFor version platform expected then some .unavailable else none
  | .rejected version platform => if isFor version platform expected then some .rejected else none

end TerminalQrLoginRunnerResponse

end MatriXpost
