/-
  File:      MatriXpost/Daemon/ChangeData.lean
  Subject:   THE changeData ENDPOINT and the config table behind it.

  Sources: `matrixpostd/src/api.rs` (`change_data`, `looks_like_secret`, `contains_secret`) and
  `storage.rs` (`set_config`, `config`, `delete_config`).

  * `containsSecret_iff`: the walk over the item finds a secret-like text at every depth;
  * `ConfigKey`: a file name and an item id the handler lets through. `ConfigKey.text` is the key
    of the table: it is injective, and no term arises where the two parts meet;
  * `changeData_cases`: what one request can do. A rejected one leaves the table as it is;
  * over runs: the values and keys stay free of secret-like texts, and a get answers with what
    the last write of its pair left.
-/
import MatriXpost.Core.Json
import MatriXpost.Dispatch.Classify
import MatriXpost.Lib.Sql
import MatriXpost.Lib.Table
import MatriXpost.Lib.Trace
import MatriXpost.Runner.Config

namespace MatriXpost

/-! ## 1. The config table -/

/-- A row of `config`. The column is a text; here it is known by the value it was written for. -/
structure ConfigRow where
  key : String
  value : Json

abbrev ConfigTable := Table ConfigRow.key

def setConfig (key : String) (value : Json) : Sql DomainError ConfigTable Unit :=
  Sql.execute fun t => ((), t.upsert ⟨key, value⟩ ({ · with value := value }) fun _ => rfl)

def config (key : String) : Sql DomainError ConfigTable (Option Json) :=
  Sql.query fun t => (t.find? key).map (·.value)

def deleteConfig (key : String) : Sql DomainError ConfigTable Bool :=
  Sql.execute fun t =>
    (decide (0 < t.count fun r => r.key = key), t.delete fun r => r.key = key)

/-! ## 2. Secret-like texts -/

def looksLikeSecret (value : String) : Bool :=
  ["cookie", "token", "password", "secret", "session", "authorization", "credential"].any
    fun needle => containsText (toAsciiLowercase value) needle

mutual

def containsSecret : Json → Bool
  | .object items => fieldsContainSecret items
  | .array items => itemsContainSecret items
  | .string value => looksLikeSecret value
  | _ => false

/-- `items.iter().any(contains_secret)`. -/
def itemsContainSecret : List Json → Bool
  | [] => false
  | value :: rest => containsSecret value || itemsContainSecret rest

/-- The `any` over the entries of a map. -/
def fieldsContainSecret : List (String × Json) → Bool
  | [] => false
  | (key, value) :: rest =>
    (looksLikeSecret key || containsSecret value) || fieldsContainSecret rest

end

/-- A term stands in the text, in any ASCII case. -/
def SecretLike (text : String) : Prop :=
  ∃ spelling : String, toAsciiLowercase spelling ∈ credentialLikeTerms ∧
    containsText text spelling = true

/-- A text that is a string or an object key of a value, at any depth. -/
inductive Json.Mentions : Json → String → Prop
  | string (text : String) : Json.Mentions (.string text) text
  | item {items : List Json} {value : Json} {text : String} :
      value ∈ items → Json.Mentions value text → Json.Mentions (.array items) text
  | key {fields : List (String × Json)} {key : String} {value : Json} :
      (key, value) ∈ fields → Json.Mentions (.object fields) key
  | field {fields : List (String × Json)} {key text : String} {value : Json} :
      (key, value) ∈ fields → Json.Mentions value text → Json.Mentions (.object fields) text

theorem looksLikeSecret_iff {text : String} : looksLikeSecret text = true ↔ SecretLike text :=
  containsCredentialLikeTerm_iff

theorem itemsContainSecret_iff {items : List Json} :
    itemsContainSecret items = true ↔ ∃ value ∈ items, containsSecret value = true := by
  induction items with
  | nil => simp [itemsContainSecret]
  | cons value rest ih => simp [itemsContainSecret, ih]

theorem fieldsContainSecret_iff {fields : List (String × Json)} :
    fieldsContainSecret fields = true ↔
      ∃ f ∈ fields, looksLikeSecret f.1 = true ∨ containsSecret f.2 = true := by
  induction fields with
  | nil => simp [fieldsContainSecret]
  | cons f rest ih => simp [fieldsContainSecret, ih]

/-- A secret-like text at any depth is found. -/
theorem containsSecret_of_mentions {value : Json} {text : String} (h : value.Mentions text)
    (hsecret : SecretLike text) : containsSecret value = true := by
  induction h with
  | string text =>
    rw [containsSecret]
    exact looksLikeSecret_iff.mpr hsecret
  | item hmem _ ih =>
    rw [containsSecret, itemsContainSecret_iff]
    exact ⟨_, hmem, ih hsecret⟩
  | key hmem =>
    rw [containsSecret, fieldsContainSecret_iff]
    exact ⟨_, hmem, .inl (looksLikeSecret_iff.mpr hsecret)⟩
  | field hmem _ ih =>
    rw [containsSecret, fieldsContainSecret_iff]
    exact ⟨_, hmem, .inr (ih hsecret)⟩

mutual

/-- What the walk finds is there. -/
theorem mentions_of_containsSecret : ∀ {value : Json}, containsSecret value = true →
    ∃ text, value.Mentions text ∧ SecretLike text
  | .object fields, h => by
    rw [containsSecret] at h
    exact fields_mention_of_containsSecret h
  | .array items, h => by
    rw [containsSecret] at h
    obtain ⟨value, hmem, text, hmentions, hsecret⟩ := items_mention_of_containsSecret h
    exact ⟨text, .item hmem hmentions, hsecret⟩
  | .string text, h => by
    rw [containsSecret] at h
    exact ⟨text, .string text, looksLikeSecret_iff.mp h⟩
  | .null, h | .bool _, h | .number _, h | .float _, h => by simp [containsSecret] at h

theorem items_mention_of_containsSecret : ∀ {items : List Json},
    itemsContainSecret items = true →
      ∃ value ∈ items, ∃ text, value.Mentions text ∧ SecretLike text
  | [], h => by simp [itemsContainSecret] at h
  | value :: rest, h => by
    rw [itemsContainSecret, Bool.or_eq_true] at h
    cases h with
    | inl h => exact ⟨value, List.mem_cons_self, mentions_of_containsSecret h⟩
    | inr h =>
      obtain ⟨value', hmem, hfound⟩ := items_mention_of_containsSecret h
      exact ⟨value', List.mem_cons_of_mem _ hmem, hfound⟩

theorem fields_mention_of_containsSecret : ∀ {fields : List (String × Json)},
    fieldsContainSecret fields = true →
      ∃ text, (Json.object fields).Mentions text ∧ SecretLike text
  | [], h => by simp [fieldsContainSecret] at h
  | (key, value) :: rest, h => by
    rw [fieldsContainSecret, Bool.or_eq_true, Bool.or_eq_true] at h
    rcases h with (h | h) | h
    · exact ⟨key, .key List.mem_cons_self, looksLikeSecret_iff.mp h⟩
    · obtain ⟨text, hmentions, hsecret⟩ := mentions_of_containsSecret h
      exact ⟨text, .field List.mem_cons_self hmentions, hsecret⟩
    · obtain ⟨text, hmentions, hsecret⟩ := fields_mention_of_containsSecret h
      refine ⟨text, ?_, hsecret⟩
      cases hmentions with
      | key hmem => exact .key (List.mem_cons_of_mem _ hmem)
      | field hmem hm => exact .field (List.mem_cons_of_mem _ hmem) hm

end

/-- **The walk finds exactly the values that mention a secret-like text.** -/
theorem containsSecret_iff {value : Json} :
    containsSecret value = true ↔ ∃ text, value.Mentions text ∧ SecretLike text :=
  ⟨mentions_of_containsSecret, fun ⟨_, h, hsecret⟩ => containsSecret_of_mentions h hsecret⟩

example : containsSecret (.array [.object [("nested", .object [("apiTOKEN", .null)])]]) = true := by
  decide

/-! ## 3. The request and its key -/

/-- What the handler reads of a body. -/
structure ChangeRequest where
  action : String
  fileName : String
  item : Json
  itemId : String

def ChangeRequest.ofValue (value : Json) : ChangeRequest :=
  let item := (value.get "item").getD .null
  { action := ((value.get "type").bind Json.asStr).getD ""
    fileName := ((value.get "fileName").bind Json.asStr).getD ""
    item
    itemId := (((item.get "id").bind Json.asStr).or item.asStr).getD "" }

/-- The file names the handler serves. -/
def changeDataFiles : List String :=
  ["account", "pushData", "config", "creative-statements", "platform-options"]

/-- The condition under which the handler refuses a request. -/
def ChangeRequest.refused (r : ChangeRequest) : Bool :=
  !changeDataFiles.contains r.fileName || isBlank r.itemId || containsSecret r.item ||
    looksLikeSecret r.fileName || looksLikeSecret r.itemId

/-- A file name and an item id that passed the handler's checks. -/
structure ConfigKey where
  fileName : String
  itemId : String
  allowed : fileName ∈ changeDataFiles
  named : isBlank itemId = false
  fileNameClean : looksLikeSecret fileName = false
  itemIdClean : looksLikeSecret itemId = false

/-- `format!("{file_name}:{item_id}")`. -/
def ConfigKey.text (k : ConfigKey) : String := k.fileName ++ ":" ++ k.itemId

/-- The pair of a request that is not refused. -/
def ChangeRequest.key? (r : ChangeRequest) : Option ConfigKey :=
  if h : r.refused = false then
    have hparts : ((((r.fileName ∈ changeDataFiles ∧ isBlank r.itemId = false) ∧
        containsSecret r.item = false) ∧ looksLikeSecret r.fileName = false) ∧
        looksLikeSecret r.itemId = false) := by
      simpa [ChangeRequest.refused] using h
    some ⟨r.fileName, r.itemId, hparts.1.1.1.1, hparts.1.1.1.2, hparts.1.2, hparts.2⟩
  else none

theorem ChangeRequest.key?_eq_none {r : ChangeRequest} : r.key? = none ↔ r.refused = true := by
  unfold key?
  split
  · rename_i h
    simp [h]
  · rename_i h
    simpa using h

theorem ChangeRequest.key?_eq_some {r : ChangeRequest} {k : ConfigKey} (h : r.key? = some k) :
    r.refused = false ∧ k.fileName = r.fileName ∧ k.itemId = r.itemId := by
  unfold key? at h
  split at h
  · rename_i hr
    cases h
    exact ⟨hr, rfl, rfl⟩
  · cases h

theorem ChangeRequest.item_clean {r : ChangeRequest} (h : r.refused = false) :
    containsSecret r.item = false := by
  simp only [refused, Bool.or_eq_false_iff] at h
  exact h.1.1.2

/-- The served file names have no colon. -/
theorem colon_notMem_of_changeDataFiles : ∀ name ∈ changeDataFiles, ':' ∉ name.toList := by
  decide

theorem ConfigKey.toList_text (k : ConfigKey) :
    k.text.toList = k.fileName.toList ++ ':' :: k.itemId.toList := by
  simp [text]

/-- **Two pairs under one key are one pair**, whatever the item ids are. -/
theorem ConfigKey.text_injective {k k' : ConfigKey} (h : k.text = k'.text) : k = k' := by
  have hlist : k.fileName.toList ++ ':' :: k.itemId.toList =
      k'.fileName.toList ++ ':' :: k'.itemId.toList := by
    rw [← k.toList_text, ← k'.toList_text, h]
  -- The file names end at the first colon.
  have hname : k.fileName.toList = k'.fileName.toList := by
    have hcut : ∀ k : ConfigKey,
        (k.fileName.toList ++ ':' :: k.itemId.toList).takeWhile (· ≠ ':') = k.fileName.toList := by
      intro k
      rw [List.takeWhile_append_of_pos]
      · simp
      · intro c hc
        have hcolon := colon_notMem_of_changeDataFiles k.fileName k.allowed
        simp only [ne_eq, decide_not, Bool.not_eq_true', decide_eq_false_iff_not]
        intro he
        exact hcolon (he ▸ hc)
    rw [← hcut k, hlist, hcut k']
  have hid : k.itemId.toList = k'.itemId.toList := by
    rw [hname] at hlist
    exact List.cons.inj (List.append_cancel_left hlist) |>.2
  have hname' : k.fileName = k'.fileName := String.toList_inj.mp hname
  have hid' : k.itemId = k'.itemId := String.toList_inj.mp hid
  cases k
  cases k'
  cases hname'
  cases hid'
  rfl

theorem colon_notMem_of_credentialLikeTerms : ∀ term ∈ credentialLikeTerms, ':' ∉ term.toList := by
  decide

/-- **No secret-like text arises where the two parts of a key meet.** -/
theorem ConfigKey.text_clean (k : ConfigKey) : ¬ SecretLike k.text := by
  intro h
  obtain ⟨spelling, hterm, hfound⟩ := h
  -- The colon between the parts is in no spelling of a term.
  have hcolon : ':' ∉ spelling.toList := by
    intro hmem
    have hlower : ':' ∈ (toAsciiLowercase spelling).toList := by
      rw [toAsciiLowercase, String.toList_ofList]
      exact List.mem_map.mpr ⟨':', hmem, by decide⟩
    exact colon_notMem_of_credentialLikeTerms _ hterm hlower
  have hname : containsText k.fileName spelling = false := by
    rw [Bool.eq_false_iff]
    intro hc
    have := looksLikeSecret_iff.mpr ⟨spelling, hterm, hc⟩
    rw [k.fileNameClean] at this
    cases this
  have hid : containsText k.itemId spelling = false := by
    rw [Bool.eq_false_iff]
    intro hc
    have := looksLikeSecret_iff.mpr ⟨spelling, hterm, hc⟩
    rw [k.itemIdClean] at this
    cases this
  simp only [containsText, decide_eq_true_eq, decide_eq_false_iff_not] at hfound hname hid
  rw [k.toList_text, List.infix_append_iff, List.infix_cons_iff] at hfound
  have hempty : spelling.toList ≠ [] := fun he => hname (he ▸ List.nil_infix)
  rcases hfound with h | (h | h) | ⟨l₁, l₂, happend, hsuffix, hprefix⟩
  · exact hname h
  · obtain ⟨c, rest, hs⟩ := List.exists_cons_of_ne_nil hempty
    rw [hs, List.cons_prefix_cons] at h
    exact hcolon (by rw [hs, h.1]; exact List.mem_cons_self)
  · exact hid h
  · cases l₂ with
    | nil =>
      rw [List.append_nil] at happend
      exact hname (happend ▸ hsuffix.isInfix)
    | cons c rest =>
      rw [List.cons_prefix_cons] at hprefix
      exact hcolon (by rw [happend, hprefix.1]; simp)

/-! ## 4. The handler -/

/-- `invalid(message)`. -/
def invalidReply (message : String) : ApiResponse Json := apiResponse 400 "rejected" .null message

section Handler
variable (toText : Json → String)

/-- The `match` on the action. A get answers with the stored text: `toText` is
    `serde_json::to_string`. -/
def ChangeRequest.run (action key : String) (item : Json) : Sql String ConfigTable Json :=
  if action = "add" ∨ action = "update" then do
    (setConfig key item).mapErr DomainError.text
    pure (.object [("key", .string key), ("updated", .bool true)])
  else if action = "delete" then do
    let deleted ← (deleteConfig key).mapErr DomainError.text
    pure (.object [("key", .string key), ("deleted", .bool deleted)])
  else if action = "get" ∨ action = "config" then do
    let value ← (config key).mapErr DomainError.text
    pure (.object [("key", .string key), ("value", Json.ofOption (.string ∘ toText) value)])
  else Sql.fail "changeData type must be add, update, delete, get, or config"

/-- The `match` on the result of the action. -/
def changeReply (result : Except String Json × Db ConfigTable) :
    ApiResponse Json × Db ConfigTable :=
  match result with
  | (.ok data, db) => (apiResponse 200 "ok" data "state updated", db)
  | (.error error, db) => (invalidReply error, db)

/-- `change_data`. A body that is no JSON is the error of its parser. -/
def changeData (body : Except String Json) (db : Db ConfigTable) :
    ApiResponse Json × Db ConfigTable :=
  match body with
  | .error error => (invalidReply ("invalid JSON changeData request: " ++ error), db)
  | .ok value =>
    let r := ChangeRequest.ofValue value
    if r.refused then
      (invalidReply "changeData fileName or item is not an allowed non-secret domain value", db)
    else
      let key := r.fileName ++ ":" ++ r.itemId
      changeReply (ChangeRequest.run toText r.action key r.item db)

variable {toText}

/-- What an answered action did, by the action. -/
theorem ChangeRequest.run_ok {action key : String} {item data : Json} {t t' : ConfigTable}
    (h : Sql.Runs (run toText action key item) t (.ok data) t') :
    ((action = "add" ∨ action = "update") ∧
      t' = t.upsert ⟨key, item⟩ ({ · with value := item }) fun _ => rfl) ∨
    (action = "delete" ∧ t' = t.delete fun r => r.key = key) ∨
    ((action = "get" ∨ action = "config") ∧ t' = t ∧
      data = .object [("key", .string key),
        ("value", Json.ofOption (.string ∘ toText) ((t.find? key).map (·.value)))]) := by
  unfold run at h
  split at h
  · rename_i hwrite
    obtain ⟨_, t₁, hset, hpure⟩ := Sql.runs_bind_ok h
    have hset' := Sql.runs_execute_ok.mp (Sql.runs_mapErr_ok.mp hset)
    have ht := (Sql.runs_pure.mp hpure).2
    exact .inl ⟨hwrite, ht.trans (Prod.mk.inj hset').2.symm⟩
  split at h
  · rename_i hdelete
    obtain ⟨deleted, t₁, hdel, hpure⟩ := Sql.runs_bind_ok h
    have hdel' := Sql.runs_execute_ok.mp (Sql.runs_mapErr_ok.mp hdel)
    have ht := (Sql.runs_pure.mp hpure).2
    exact .inr (.inl ⟨hdelete, ht.trans (Prod.mk.inj hdel').2.symm⟩)
  split at h
  · rename_i hget
    obtain ⟨value, t₁, hquery, hpure⟩ := Sql.runs_bind_ok h
    obtain ⟨hvalue, ht₁⟩ := Sql.runs_query_ok.mp (Sql.runs_mapErr_ok.mp hquery)
    obtain ⟨hdata, ht⟩ := Sql.runs_pure.mp hpure
    refine .inr (.inr ⟨hget, ht.trans ht₁, ?_⟩)
    rw [← hvalue]
    exact Except.ok.inj hdata
  · have hfail := (Sql.runs_fail.mp h).1
    cases hfail

/-- An action that fails has changed nothing. -/
theorem ChangeRequest.run_error {action key error : String} {item : Json} {t t' : ConfigTable}
    (h : Sql.Runs (run toText action key item) t (.error error) t') : t' = t := by
  -- One statement, and an answer that cannot fail.
  have hone : ∀ {α : Type} {f : ConfigTable → Except DomainError (α × ConfigTable)}
      {g : α → Json},
      Sql.Runs ((Sql.statement f).mapErr DomainError.text >>= fun a => pure (g a)) t
        (.error error) t' → t' = t := by
    intro α f g hruns
    rcases Sql.runs_bind_error hruns with hstatement | ⟨a, t₁, _, hpure⟩
    · obtain ⟨e, he⟩ := Sql.runs_mapErr_error hstatement
      exact Sql.runs_statement_error he
    · cases (Sql.runs_pure.mp hpure).1
  unfold run at h
  split at h
  · exact hone h
  split at h
  · exact hone h
  split at h
  · exact hone h
  · exact (Sql.runs_fail.mp h).2

/-- The request of a body that parses. -/
def changeRequest? : Except String Json → Option ChangeRequest
  | .error _ => none
  | .ok value => some (ChangeRequest.ofValue value)

/-- A request whose pair passes the checks runs its action on the key of the pair. -/
theorem changeData_of_key {body : Except String Json} {r : ChangeRequest} {k : ConfigKey}
    (hr : changeRequest? body = some r) (hk : r.key? = some k) (db : Db ConfigTable) :
    changeData toText body db =
      changeReply (ChangeRequest.run toText r.action k.text r.item db) := by
  cases body with
  | error e => cases hr
  | ok value =>
    cases hr
    obtain ⟨hrefused, hname, hid⟩ := ChangeRequest.key?_eq_some hk
    simp [changeData, hrefused, ConfigKey.text, hname, hid]

/-- **What one request can do**: it is rejected and the table stays, or its pair passed the checks
    and its action ran on the key of the pair. -/
theorem changeData_cases {body : Except String Json} {t t' : ConfigTable}
    {faults faults' : List (Option String)} {response : ApiResponse Json}
    (h : changeData toText body ⟨t, faults⟩ = (response, ⟨t', faults'⟩)) :
    (response.ok = false ∧ t' = t) ∨
    ∃ r k data, changeRequest? body = some r ∧ r.key? = some k ∧
      response = apiResponse 200 "ok" data "state updated" ∧
      Sql.Runs (ChangeRequest.run toText r.action k.text r.item) t (.ok data) t' := by
  cases body with
  | error e =>
    cases h
    exact .inl ⟨rfl, rfl⟩
  | ok value =>
    cases hk : (ChangeRequest.ofValue value).key? with
    | none =>
      have hrefused := ChangeRequest.key?_eq_none.mp hk
      simp only [changeData, hrefused, if_true] at h
      cases h
      exact .inl ⟨rfl, rfl⟩
    | some k =>
      rw [changeData_of_key rfl hk] at h
      unfold changeReply at h
      split at h
      · rename_i data db' hrun
        cases h
        exact .inr ⟨_, k, data, rfl, hk, rfl, faults, faults', hrun⟩
      · rename_i error db' hrun
        cases h
        exact .inl ⟨rfl, ChangeRequest.run_error ⟨faults, faults', hrun⟩⟩

end Handler

/-! ## 5. One request, seen by a pair -/

/-- A request as the store meets it: its body, what becomes of the one statement it makes, and
    the reply. -/
structure ChangeEvent where
  body : Except String Json
  fault : Option String
  response : ApiResponse Json

namespace ChangeEvent

/-- The pair the request is about, when it passes the checks. -/
def key? (e : ChangeEvent) : Option ConfigKey := (changeRequest? e.body).bind ChangeRequest.key?

/-- The request is about the pair and has one of the actions. -/
def Asks (e : ChangeEvent) (k : ConfigKey) (actions : List String) (r : ChangeRequest) : Prop :=
  changeRequest? e.body = some r ∧ r.key? = some k ∧ r.action ∈ actions

/-- The store after the request. -/
def Step (toText : Json → String) (t : ConfigTable) (e : ChangeEvent) (t' : ConfigTable) : Prop :=
  ∃ faults', changeData toText e.body ⟨t, [e.fault]⟩ = (e.response, ⟨t', faults'⟩)

variable {toText : Json → String} {t t' : ConfigTable} {e : ChangeEvent} {k : ConfigKey}

theorem Asks.key? {actions : List String} {r : ChangeRequest} (h : e.Asks k actions r) :
    e.key? = some k := by
  rw [ChangeEvent.key?, h.1]
  exact h.2.1

/-- A rejected request leaves the store as it is. -/
theorem Step.rejected (h : Step toText t e t') (hrejected : e.response.ok = false) : t' = t := by
  obtain ⟨faults', h⟩ := h
  rcases changeData_cases h with ⟨-, ht⟩ | ⟨r, k, data, -, -, hresponse, -⟩
  · exact ht
  · rw [hresponse] at hrejected
    cases hrejected

/-- An accepted request ran its action on the key of its pair. -/
theorem Step.accepted (h : Step toText t e t') (hok : e.response.ok = true) :
    ∃ r k data, changeRequest? e.body = some r ∧ r.key? = some k ∧
      e.response = apiResponse 200 "ok" data "state updated" ∧
      Sql.Runs (ChangeRequest.run toText r.action k.text r.item) t (.ok data) t' := by
  obtain ⟨faults', h⟩ := h
  rcases changeData_cases h with ⟨hno, -⟩ | haccepted
  · rw [hno] at hok
    cases hok
  · exact haccepted

/-- The value of a pair moves only when a write or a delete of this pair is accepted. -/
theorem Step.find?_eq (h : Step toText t e t')
    (hkeep : e.response.ok = true → ∀ r, ¬ e.Asks k ["add", "update", "delete"] r) :
    t'.find? k.text = t.find? k.text := by
  cases hok : e.response.ok with
  | false => rw [h.rejected hok]
  | true =>
    obtain ⟨r, k', data, hr, hk, -, hrun⟩ := h.accepted hok
    have hother : r.action ∈ ["add", "update", "delete"] → k'.text ≠ k.text := by
      intro haction he
      cases ConfigKey.text_injective he
      exact hkeep hok r ⟨hr, hk, haction⟩
    rcases ChangeRequest.run_ok hrun with ⟨hwrite, rfl⟩ | ⟨hdelete, rfl⟩ | ⟨-, rfl, -⟩
    · rw [Table.find?_upsert, if_neg (hother (by simp; tauto))]
    · rw [Table.find?_delete, if_neg (hother (by simp [hdelete]))]
    · rfl

/-- An accepted write leaves its item under its pair. -/
theorem Step.find?_write (h : Step toText t e t') (hok : e.response.ok = true) {r : ChangeRequest}
    (hasks : e.Asks k ["add", "update"] r) :
    (t'.find? k.text).map (·.value) = some r.item := by
  obtain ⟨r', k', data, hr, hk, -, hrun⟩ := h.accepted hok
  obtain ⟨hbody, hkey, haction⟩ := hasks
  rw [hbody] at hr
  cases hr
  rw [hkey] at hk
  cases hk
  have hwrite : r.action = "add" ∨ r.action = "update" := by simpa using haction
  rcases ChangeRequest.run_ok hrun with ⟨-, rfl⟩ | ⟨hdelete, -⟩ | ⟨hget, -⟩
  · rw [Table.find?_upsert, if_pos rfl]
    cases t.find? k.text <;> rfl
  · rw [hdelete] at hwrite
    simp at hwrite
  · rcases hget with hget | hget <;> rw [hget] at hwrite <;> simp at hwrite

/-- A get whose query runs answers what the table has under its pair. -/
theorem Step.get (h : Step toText t e t') (hfault : e.fault = none) {r : ChangeRequest}
    (hasks : e.Asks k ["get", "config"] r) :
    e.response = apiResponse 200 "ok" (.object [("key", .string k.text),
      ("value", Json.ofOption (.string ∘ toText) ((t.find? k.text).map (·.value)))])
      "state updated" := by
  obtain ⟨hbody, hkey, haction⟩ := hasks
  obtain ⟨faults', h⟩ := h
  have hread : ChangeRequest.run toText r.action k.text r.item ⟨t, [none]⟩ =
      (.ok (.object [("key", .string k.text),
        ("value", Json.ofOption (.string ∘ toText) ((t.find? k.text).map (·.value)))]),
        ⟨t, []⟩) := by
    have hget : r.action = "get" ∨ r.action = "config" := by simpa using haction
    unfold ChangeRequest.run
    rcases hget with hget | hget <;> rw [hget] <;> rfl
  rw [changeData_of_key hbody hkey, hfault, hread] at h
  exact (Prod.mk.inj h).1.symm

/-- **What a request answers and leaves under its pair depends on what the table has there**, on
    nothing else of it. -/
theorem reads_own_key {body : Except String Json} {r : ChangeRequest}
    (hr : changeRequest? body = some r) (hk : r.key? = some k) {t₁ t₂ : ConfigTable}
    (hsame : t₁.find? k.text = t₂.find? k.text) (faults : List (Option String)) :
    (changeData toText body ⟨t₁, faults⟩).1 = (changeData toText body ⟨t₂, faults⟩).1 := by
  have hreply : ∀ {x y : Except String Json × Db ConfigTable}, x.1 = y.1 →
      (changeReply x).1 = (changeReply y).1 := by
    intro x y h
    obtain ⟨reply, db⟩ := x
    obtain ⟨reply', db'⟩ := y
    cases h
    cases reply <;> rfl
  rw [changeData_of_key hr hk, changeData_of_key hr hk]
  refine hreply ?_
  unfold ChangeRequest.run
  split
  · unfold setConfig
    refine Sql.mapErr_execute_reply ?_ (fun _ => _) faults
    rfl
  split
  · unfold deleteConfig
    refine Sql.mapErr_execute_reply ?_ _ faults
    have hcount : ∀ t : ConfigTable, t.count (fun row => row.key = k.text) =
        ((t.find? k.text).any fun _ => true).toNat := by
      intro t
      rw [← Table.count_key t k.text]
      simp
    simp only [hcount, hsame]
  split
  · have hquery : config k.text = Sql.execute fun t =>
        ((t.find? k.text).map (·.value), t) := rfl
    rw [hquery]
    refine Sql.mapErr_execute_reply ?_ _ faults
    simp only [hsame]
  · rfl

/-! ## 6. Runs -/

/-- No stored value mentions a secret-like text, and no stored key is one. -/
def SecretFree (t : ConfigTable) : Prop :=
  ∀ row ∈ t.rows, (∀ text, row.value.Mentions text → ¬ SecretLike text) ∧ ¬ SecretLike row.key

/-- One request keeps the store free of secrets: what it writes was walked first. -/
theorem Step.secretFree (h : Step toText t e t') (hfree : SecretFree t) : SecretFree t' := by
  cases hok : e.response.ok with
  | false =>
    rw [h.rejected hok]
    exact hfree
  | true =>
    obtain ⟨r, k, data, -, hk, -, hrun⟩ := h.accepted hok
    have hclean := ChangeRequest.item_clean (ChangeRequest.key?_eq_some hk).1
    intro row hrow
    have hfind := Table.find?_of_mem hrow
    rcases ChangeRequest.run_ok hrun with ⟨-, rfl⟩ | ⟨-, rfl⟩ | ⟨-, rfl, -⟩
    · rw [Table.find?_upsert] at hfind
      split at hfind
      · rename_i hkey
        have hvalue : row.value = r.item := by
          rw [← Option.some.inj hfind]
          cases t.find? row.key <;> rfl
        constructor
        · intro text hmentions hsecret
          rw [hvalue] at hmentions
          rw [containsSecret_of_mentions hmentions hsecret] at hclean
          cases hclean
        · rw [← hkey]
          exact k.text_clean
      · exact hfree row (Table.find?_mem hfind)
    · rw [Table.find?_delete] at hfind
      split at hfind
      · cases hfind
      · exact hfree row (Table.find?_mem hfind)
    · exact hfree row hrow

/-- Requests that write or delete other pairs leave the value of a pair. -/
theorem run_find?_eq {events : List ChangeEvent} (h : Trace (Step toText) t events t')
    (hkeep : ∀ e ∈ events, e.response.ok = true →
      ∀ r, ¬ e.Asks k ["add", "update", "delete"] r) :
    t'.find? k.text = t.find? k.text := by
  refine h.invariant_on (I := fun s => s.find? k.text = t.find? k.text) hkeep rfl ?_
  intro s₁ e s₂ he hs₁ hstep
  exact (hstep.find?_eq he).trans hs₁

/-- **A get answers with the text of the item last written under its pair.** -/
theorem run_get {write get : ChangeEvent} {mid : List ChangeEvent} {r r' : ChangeRequest}
    (h : Trace (Step toText) t (write :: mid ++ [get]) t')
    (hwrite : write.Asks k ["add", "update"] r) (hok : write.response.ok = true)
    (hmid : ∀ e ∈ mid, e.response.ok = true → ∀ r, ¬ e.Asks k ["add", "update", "delete"] r)
    (hget : get.Asks k ["get", "config"] r') (hfault : get.fault = none) :
    get.response = apiResponse 200 "ok"
      (.object [("key", .string k.text), ("value", .string (toText r.item))])
      "state updated" := by
  cases h with
  | cons hfirst hrest =>
    obtain ⟨t₂, hbetween, hlast⟩ := hrest.split
    cases hlast with
    | cons hstep _ =>
      have hstored := hfirst.find?_write hok hwrite
      rw [← run_find?_eq hbetween hmid] at hstored
      rw [hstep.get hfault hget, hstored]
      rfl

end ChangeEvent

/-- **The store of changeData is free of secrets and of collisions.** In every run from the empty
    table no secret-like text is stored, in a value at any depth or in a key; two accepted pairs
    have two keys, and a request neither changes nor reads what another pair has; a get answers
    with the text of the last item written; a rejected request changes nothing. -/
theorem changeData_store_secret_free_and_separate (toText : Json → String) :
    (∀ events t, Trace (ChangeEvent.Step toText) Table.empty events t → ChangeEvent.SecretFree t) ∧
    (∀ k k' : ConfigKey, k.text = k'.text → k.fileName = k'.fileName ∧ k.itemId = k'.itemId) ∧
    (∀ t e t' k, ChangeEvent.Step toText t e t' → e.key? ≠ some k →
      t'.find? k.text = t.find? k.text) ∧
    (∀ body r k t₁ t₂ faults, changeRequest? body = some r → r.key? = some k →
      t₁.find? k.text = t₂.find? k.text →
      (changeData toText body ⟨t₁, faults⟩).1 = (changeData toText body ⟨t₂, faults⟩).1) ∧
    (∀ t t' write mid get k r r', Trace (ChangeEvent.Step toText) t (write :: mid ++ [get]) t' →
      write.Asks k ["add", "update"] r → write.response.ok = true →
      (∀ e ∈ mid, e.response.ok = true → ∀ r, ¬ e.Asks k ["add", "update", "delete"] r) →
      get.Asks k ["get", "config"] r' → get.fault = none →
      get.response = apiResponse 200 "ok"
        (.object [("key", .string k.text), ("value", .string (toText r.item))]) "state updated") ∧
    ∀ t e t', ChangeEvent.Step toText t e t' → e.response.ok = false → t' = t := by
  refine ⟨?_, ?_, ?_, ?_, ?_, ?_⟩
  · intro events t h
    refine h.invariant (fun row hrow => absurd hrow List.not_mem_nil) ?_
    intro t₁ e t₂ hfree hstep
    exact hstep.secretFree hfree
  · intro k k' h
    cases ConfigKey.text_injective h
    exact ⟨rfl, rfl⟩
  · intro t e t' k h hother
    exact h.find?_eq fun _ r hasks => hother hasks.key?
  · intro body r k t₁ t₂ faults hr hk hsame
    exact ChangeEvent.reads_own_key hr hk hsame faults
  · intro t t' write mid get k r r' h hwrite hok hmid hget hfault
    exact ChangeEvent.run_get h hwrite hok hmid hget hfault
  · intro t e t' h hrejected
    exact h.rejected hrejected

/-! ## 7. A run with an accepted add and a get -/

/-- A request in a state, with the response to it. -/
def changeEvent (toText : Json → String) (t : ConfigTable) (body : Json) : ChangeEvent :=
  ⟨.ok body, none, (changeData toText (.ok body) ⟨t, [none]⟩).1⟩

/-- The table after it. -/
def afterChange (toText : Json → String) (t : ConfigTable) (body : Json) : ConfigTable :=
  (changeData toText (.ok body) ⟨t, [none]⟩).2.store

theorem changeEvent_step (toText : Json → String) (t : ConfigTable) (body : Json) :
    ChangeEvent.Step toText t (changeEvent toText t body) (afterChange toText t body) := ⟨_, rfl⟩

def themeKey : ConfigKey := ⟨"config", "theme", by decide, by decide, by decide, by decide⟩

def themeItem : Json := .object [("colour", .string "red"), ("id", .string "theme")]

/-- The text the writer gives for it. -/
def themeText : Json → String := fun _ => "\x7b\"colour\":\"red\",\"id\":\"theme\"\x7d"

/-- A body of a request about an item of `config`. -/
def configBody (action : String) (item : Json) : Json :=
  .object [("type", .string action), ("fileName", .string "config"), ("item", item)]

def themeAdded : ConfigTable := afterChange themeText Table.empty (configBody "add" themeItem)

/-- Another pair. -/
def fontBody : Json := configBody "add" (.object [("id", .string "font")])

/-- An item that is refused. -/
def secretBody : Json :=
  configBody "update" (.object [("apiToken", .string "1"), ("id", .string "theme")])

def fontAdded : ConfigTable := afterChange themeText themeAdded fontBody

def themeRun : List ChangeEvent :=
  changeEvent themeText Table.empty (configBody "add" themeItem) ::
    [changeEvent themeText themeAdded fontBody, changeEvent themeText fontAdded secretBody] ++
    [changeEvent themeText (afterChange themeText fontAdded secretBody)
      (configBody "get" (.string "theme"))]

theorem theme_run : ∃ t, Trace (ChangeEvent.Step themeText) Table.empty themeRun t :=
  ⟨_, .cons (changeEvent_step _ _ _) (.cons (changeEvent_step _ _ _)
    (.cons (changeEvent_step _ _ _) (.single (changeEvent_step _ _ _))))⟩

theorem changeData_store_secret_free_and_separate_sample :
    ∃ t, Trace (ChangeEvent.Step themeText) Table.empty themeRun t ∧ ChangeEvent.SecretFree t ∧
      themeRun.map (·.response.ok) = [true, true, false, true] ∧
      themeRun.getLast?.map (·.response) = some (apiResponse 200 "ok"
        (.object [("key", .string "config:theme"),
          ("value", .string "\x7b\"colour\":\"red\",\"id\":\"theme\"\x7d")])
        "state updated") := by
  obtain ⟨t, hrun⟩ := theme_run
  obtain ⟨hfree, -, -, -, hget, -⟩ := changeData_store_secret_free_and_separate themeText
  refine ⟨t, hrun, hfree _ _ hrun, by decide, congrArg some ?_⟩
  refine hget _ _ _ _ _ themeKey (.ofValue (configBody "add" themeItem)) _ hrun
    ⟨rfl, rfl, by decide⟩ (by decide) ?_ ⟨rfl, rfl, by decide⟩ rfl
  intro e he hok r hasks
  simp only [List.mem_cons, List.not_mem_nil, or_false] at he
  rcases he with rfl | rfl
  · have hkey : (changeEvent themeText themeAdded fontBody).key?.map (·.itemId) = some "font" := by
      decide
    rw [hasks.key?] at hkey
    exact absurd hkey (by decide)
  · exact absurd hok (by decide)

end MatriXpost
