/-
  File:      MatriXpost/Lifecycle/Model.lean
  Subject:   BUSINESS OBJECTS, LEDGER ENTRIES, ATTRIBUTIONS AND RELATIONS, and their validation.

  Sources: `lifecycle.rs`, and the `validate_*` functions of `storage/lifecycle.rs`.

  * the statuses and directions are read back from their columns (`fromDb_db`), and so are
    attributes from theirs (`Attributes.fromJson_toJson`);
  * `checkAttributes_ok`: accepted attributes have safe keys and no blank value (`SafeAttribute`);
    `validate_ok` of each record says what else an accepted record satisfies.
-/
import MatriXpost.Core.Json
import MatriXpost.Lib.SortedMap
import MatriXpost.Runner.Config

namespace MatriXpost

/-! ## 1. Statuses and directions -/

namespace BusinessObjectStatus

def db : BusinessObjectStatus → String
  | .draft => "draft"
  | .active => "active"
  | .completed => "completed"
  | .archived => "archived"

def fromDb (value : String) : Except DomainError BusinessObjectStatus :=
  match value with
  | "draft" => .ok .draft
  | "active" => .ok .active
  | "completed" => .ok .completed
  | "archived" => .ok .archived
  | _ => .error (.corruptState ("business object status: " ++ value))

@[simp] theorem fromDb_db (s : BusinessObjectStatus) : fromDb s.db = .ok s := by
  cases s <;> rfl

theorem db_of_fromDb {value : String} {s : BusinessObjectStatus} (h : fromDb value = .ok s) :
    value = s.db := by
  unfold fromDb at h
  split at h <;> cases h <;> rfl

theorem archived_final (next : BusinessObjectStatus) :
    BusinessObjectStatus.archived.canTransitionTo next = false := by
  cases next <;> rfl

end BusinessObjectStatus

namespace ApprovalStatus

def db : ApprovalStatus → String
  | .pending => "pending"
  | .approved => "approved"
  | .rejected => "rejected"

def fromDb (value : String) : Except DomainError ApprovalStatus :=
  match value with
  | "pending" => .ok .pending
  | "approved" => .ok .approved
  | "rejected" => .ok .rejected
  | _ => .error (.corruptState ("approval status: " ++ value))

@[simp] theorem fromDb_db (s : ApprovalStatus) : fromDb s.db = .ok s := by
  cases s <;> rfl

theorem db_of_fromDb {value : String} {s : ApprovalStatus} (h : fromDb value = .ok s) :
    value = s.db := by
  unfold fromDb at h
  split at h <;> cases h <;> rfl

theorem approved_final (next : ApprovalStatus) :
    ApprovalStatus.approved.canTransitionTo next = false := by
  cases next <;> rfl

end ApprovalStatus

/-- Whether a ledger entry represents a cost or income. -/
inductive LedgerDirection where
  | expense | revenue
deriving DecidableEq, Repr

namespace LedgerDirection

def db : LedgerDirection → String
  | .expense => "expense"
  | .revenue => "revenue"

def fromDb (value : String) : Except DomainError LedgerDirection :=
  match value with
  | "expense" => .ok .expense
  | "revenue" => .ok .revenue
  | _ => .error (.corruptState ("ledger direction: " ++ value))

@[simp] theorem fromDb_db (d : LedgerDirection) : fromDb d.db = .ok d := by
  cases d <;> rfl

end LedgerDirection

/-! ## 2. Attributes -/

/-- `BTreeMap<String, String>`. -/
abbrev Attributes := SortedMap String String

namespace Attributes

/-- `json(&attributes)`. -/
def toJson (a : Attributes) : Json := .object (a.entries.map fun e => (e.1, .string e.2))

def readEntry (field : String × Json) : Except String (String × String) := do
  let value ← Json.asString field.2
  .ok (field.1, value)

/-- `from_json(&attributes)`: of two fields with one name the later counts. -/
def fromJson (j : Json) : Except DomainError Attributes := do
  let fields ← (Json.asObject j).mapError .serialization
  let entries ← (fields.mapM readEntry).mapError .serialization
  .ok (SortedMap.ofPairs entries)

/-- **Stored attributes are read back.** -/
theorem fromJson_toJson (a : Attributes) : fromJson a.toJson = .ok a := by
  have hread : (a.entries.map fun (e : String × String) => (e.1, Json.string e.2)).mapM readEntry =
      .ok a.entries := mapM_map_ok fun _ _ => rfl
  unfold fromJson toJson
  simp only [Json.asObject]
  show (do
    let entries ← ((a.entries.map fun (e : String × String) => (e.1, Json.string e.2)).mapM
      readEntry).mapError DomainError.serialization
    Except.ok (SortedMap.ofPairs entries)) = .ok a
  rw [hread]
  exact congrArg Except.ok a.ofPairs_entries

end Attributes

/-! ## 3. Records -/

/-- A business object tracked throughout its lifecycle. -/
structure BusinessObject where
  id : String
  kind : String
  externalId : Option String
  displayName : String
  lifecycleStatus : BusinessObjectStatus
  approvalStatus : ApprovalStatus
  revision : Nat
  attributes : Attributes
  createdAt : DateTime
  updatedAt : DateTime
deriving DecidableEq

/-- An immutable entry of an object's ledger. -/
structure LedgerEntry where
  id : String
  businessObjectId : String
  direction : LedgerDirection
  category : String
  amountMinor : Int
  currency : String
  occurredAt : DateTime
  approvalStatus : ApprovalStatus
  counterparty : Option String
  reference : Option String
  description : Option String
  createdAt : DateTime
deriving DecidableEq

/-- A link from publication history to a business object. -/
structure ContentAttribution where
  businessObjectId : String
  historyId : String
  createdAt : DateTime
deriving DecidableEq

/-- An immutable, directed link between two business objects. -/
structure BusinessRelation where
  id : String
  sourceBusinessObjectId : String
  targetBusinessObjectId : String
  relationType : String
  attributes : Attributes
  createdAt : DateTime
deriving DecidableEq

/-! ## 4. Validation -/

/-- `validate_non_empty`. -/
def validateNonEmpty (field value : String) : Except DomainError Unit :=
  if isBlank value then .error (.emptyLifecycleField field) else .ok ()

/-- `byte.is_ascii_alphanumeric() || matches!(byte, b'_' | b'-' | b'.')`, of the bytes of a
    character: those of a character outside ASCII are none of these. -/
def isAttributeKeyChar (c : Char) : Bool :=
  ('a' ≤ c && c ≤ 'z') || ('A' ≤ c && c ≤ 'Z') || isDigit c || c = '_' || c = '-' || c = '.'

/-- The loop over the attributes of an object or a relation, with the errors of either. -/
def checkAttributes (invalidKey sensitiveKey invalidValue : String → DomainError) :
    List (String × String) → Except DomainError Unit
  | [] => .ok ()
  | (key, value) :: rest =>
    if isBlank key || !key.toList.all isAttributeKeyChar then .error (invalidKey key)
    else if containsCredentialLikeTerm key then .error (sensitiveKey key)
    else if isBlank value then .error (invalidValue key)
    else checkAttributes invalidKey sensitiveKey invalidValue rest

/-- `for (name, value) in [..] { if let Some(value) = value { validate_non_empty(..)?; } }`. -/
def checkOptional : List (String × Option String) → Except DomainError Unit
  | [] => .ok ()
  | (_, none) :: rest => checkOptional rest
  | (name, some value) :: rest => do
    validateNonEmpty name value
    checkOptional rest

def BusinessObject.validate (object : BusinessObject) : Except DomainError Unit := do
  validateNonEmpty "business object id" object.id
  validateNonEmpty "business object kind" object.kind
  validateNonEmpty "business object display name" object.displayName
  if object.revision ≠ 0 then .error (.invalidInitialBusinessObjectRevision object.revision)
  else do
    checkOptional [("business object external id", object.externalId)]
    checkAttributes .invalidBusinessObjectAttributeKey .sensitiveBusinessObjectAttributeKey
      .invalidBusinessObjectAttributeValue object.attributes.entries

/-- `byte.is_ascii_uppercase()`. -/
def isAsciiUppercase (c : Char) : Bool := 'A' ≤ c && c ≤ 'Z'

def LedgerEntry.validate (entry : LedgerEntry) : Except DomainError Unit := do
  validateNonEmpty "ledger entry id" entry.id
  validateNonEmpty "ledger entry business object id" entry.businessObjectId
  validateNonEmpty "ledger entry category" entry.category
  if entry.amountMinor ≤ 0 then .error (.invalidLedgerAmount entry.amountMinor)
  else if entry.currency.utf8ByteSize ≠ 3 || !entry.currency.toList.all isAsciiUppercase then
    .error (.invalidCurrency entry.currency)
  else checkOptional [("ledger counterparty", entry.counterparty),
    ("ledger reference", entry.reference), ("ledger description", entry.description)]

/-- The checks `insert_content_attribution` begins with. -/
def ContentAttribution.validate (attribution : ContentAttribution) : Except DomainError Unit := do
  validateNonEmpty "content attribution business object id" attribution.businessObjectId
  validateNonEmpty "content attribution history id" attribution.historyId

def BusinessRelation.validate (relation : BusinessRelation) : Except DomainError Unit := do
  validateNonEmpty "business relation id" relation.id
  validateNonEmpty "business relation source business object id" relation.sourceBusinessObjectId
  validateNonEmpty "business relation target business object id" relation.targetBusinessObjectId
  validateNonEmpty "business relation type" relation.relationType
  if relation.sourceBusinessObjectId = relation.targetBusinessObjectId then
    .error (.businessRelationSelfReference relation.sourceBusinessObjectId)
  else
    checkAttributes .invalidBusinessRelationAttributeKey .sensitiveBusinessRelationAttributeKey
      .invalidBusinessRelationAttributeValue relation.attributes.entries

/-! ## 5. What an accepted record satisfies -/

/-- The key is written in ASCII alphanumerics, `_`, `-` and `.`, holds no credential-like term in
    any case, and the value is not blank. -/
structure SafeAttribute (key value : String) : Prop where
  keyChars : ∀ c ∈ key.toList, isAttributeKeyChar c = true
  noCredential : ∀ spelling : String, toAsciiLowercase spelling ∈ credentialLikeTerms →
    containsText key spelling = false
  value : isBlank value = false

/-- Three uppercase ASCII letters. -/
def IsCurrencyCode (currency : String) : Prop :=
  ∃ a b c, currency = String.ofList [a, b, c] ∧ isAsciiUppercase a = true ∧
    isAsciiUppercase b = true ∧ isAsciiUppercase c = true

/-- **Accepted attributes are safe.** -/
theorem checkAttributes_ok {invalidKey sensitiveKey invalidValue : String → DomainError}
    {entries : List (String × String)}
    (h : checkAttributes invalidKey sensitiveKey invalidValue entries = .ok ()) :
    ∀ e ∈ entries, SafeAttribute e.1 e.2 := by
  induction entries with
  | nil => exact fun e he => absurd he List.not_mem_nil
  | cons e rest ih =>
    unfold checkAttributes at h
    split at h
    · cases h
    rename_i hkey
    split at h
    · cases h
    rename_i hterm
    split at h
    · cases h
    rename_i hvalue
    intro e' he'
    rcases List.mem_cons.mp he' with rfl | he'
    · refine ⟨?_, fun spelling hmem => ?_, by simpa using hvalue⟩
      · simp only [Bool.or_eq_true, Bool.not_eq_true', not_or, Bool.not_eq_false,
          List.all_eq_true] at hkey
        exact hkey.2
      · rw [Bool.eq_false_iff]
        exact fun hc => hterm (containsCredentialLikeTerm_iff.mpr ⟨spelling, hmem, hc⟩)
    · exact ih h e' he'

theorem utf8ByteSize_of_ascii {cs : List Char} (h : ∀ c ∈ cs, c.val ≤ 127) :
    (String.ofList cs).utf8ByteSize = cs.length := by
  induction cs with
  | nil => rfl
  | cons c cs ih =>
    have hc : c.utf8Size = 1 := Char.utf8Size_eq_one_iff.mpr (h c List.mem_cons_self)
    have happend : String.ofList (c :: cs) = String.singleton c ++ String.ofList cs :=
      String.ext (by simp)
    rw [happend, String.utf8ByteSize_append, String.utf8ByteSize_singleton, hc,
      ih fun c' hc' => h c' (List.mem_cons_of_mem c hc'), List.length_cons, Nat.add_comm]

theorem isCurrencyCode_of_checked {currency : String} (hsize : currency.utf8ByteSize = 3)
    (hall : currency.toList.all isAsciiUppercase = true) : IsCurrencyCode currency := by
  rw [List.all_eq_true] at hall
  have hascii : ∀ c ∈ currency.toList, c.val ≤ 127 := by
    intro c hc
    have hup := hall c hc
    unfold isAsciiUppercase at hup
    simp only [Bool.and_eq_true, decide_eq_true_eq] at hup
    have hle : c.val ≤ 'Z'.val := Char.le_def.mp hup.2
    exact UInt32.le_trans hle (by decide)
  have hlen : currency.toList.length = 3 := by
    rw [← utf8ByteSize_of_ascii hascii, String.ofList_toList, hsize]
  match hcs : currency.toList, hlen with
  | [a, b, c], _ =>
    rw [hcs] at hall
    refine ⟨a, b, c, ?_, hall a (by simp), hall b (by simp), hall c (by simp)⟩
    rw [← hcs, String.ofList_toList]

theorem BusinessObject.validate_ok {object : BusinessObject} (h : object.validate = .ok ()) :
    object.revision = 0 ∧ ∀ e ∈ object.attributes.entries, SafeAttribute e.1 e.2 := by
  obtain ⟨-, -, h⟩ := except_bind_ok.mp h
  obtain ⟨-, -, h⟩ := except_bind_ok.mp h
  obtain ⟨-, -, h⟩ := except_bind_ok.mp h
  split at h
  · cases h
  rename_i hrev
  obtain ⟨-, -, h⟩ := except_bind_ok.mp h
  exact ⟨not_not.mp hrev, checkAttributes_ok h⟩

theorem LedgerEntry.validate_ok {entry : LedgerEntry} (h : entry.validate = .ok ()) :
    0 < entry.amountMinor ∧ IsCurrencyCode entry.currency := by
  obtain ⟨-, -, h⟩ := except_bind_ok.mp h
  obtain ⟨-, -, h⟩ := except_bind_ok.mp h
  obtain ⟨-, -, h⟩ := except_bind_ok.mp h
  split at h
  · cases h
  rename_i hamount
  split at h
  · cases h
  rename_i hcurrency
  simp only [ne_eq, Bool.or_eq_true, decide_eq_true_eq, Bool.not_eq_true', not_or, not_not,
    Bool.not_eq_false] at hcurrency
  exact ⟨not_le.mp hamount, isCurrencyCode_of_checked hcurrency.1 hcurrency.2⟩

theorem BusinessRelation.validate_ok {relation : BusinessRelation}
    (h : relation.validate = .ok ()) :
    relation.sourceBusinessObjectId ≠ relation.targetBusinessObjectId ∧
      ∀ e ∈ relation.attributes.entries, SafeAttribute e.1 e.2 := by
  obtain ⟨-, -, h⟩ := except_bind_ok.mp h
  obtain ⟨-, -, h⟩ := except_bind_ok.mp h
  obtain ⟨-, -, h⟩ := except_bind_ok.mp h
  obtain ⟨-, -, h⟩ := except_bind_ok.mp h
  split at h
  · cases h
  rename_i hself
  exact ⟨hself, checkAttributes_ok h⟩

end MatriXpost
