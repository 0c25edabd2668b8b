/-
  File:      MatriXpost/Lifecycle/Wire.lean
  Subject:   LIFECYCLE RECORDS AS JSON DOCUMENTS, and the bodies the daemon's routes accept.

  Sources: the derives of `lifecycle.rs`, and `parse_lifecycle_json` with the two request types of
  `matrixpostd/src/api.rs`. `serde_json::Value` keeps the fields of an object in a sorted map; of
  two with one name the later counts. The reader of a time in a document, chrono's, is a parameter.

  * `decode_toJson` of each record: what is written is read back, for times of the years 0 to 9999;
  * `parseLifecycleJson_ok`: a body that is accepted is an object, all of its fields are allowed
    ones, and it decodes. So an object that is created has revision zero, whatever the body says
    (`parseBusinessObject_revision`).
-/
import MatriXpost.Daemon.ChangeData
import MatriXpost.Lifecycle.Readable
import MatriXpost.Runner.Staging

namespace MatriXpost

open Json

/-! ## 1. Fields of a document -/

namespace Json

/-- `value.as_object()`: the entries of the map. -/
def members : Json → Option (List (String × Json))
  | .object fields => some (SortedMap.ofPairs fields).entries
  | _ => none

def asMembers (j : Json) : Except String (List (String × Json)) :=
  match j.members with
  | some fields => .ok fields
  | none => .error "invalid type, expected a map"

def asI64 : Decoder Int
  | .number n =>
    if -(i64Max + 1 : Int) ≤ n ∧ n ≤ i64Max then .ok n else .error "invalid value, expected i64"
  | _ => .error "invalid type, expected i64"

def asU64 : Decoder Nat
  | .number n =>
    if 0 ≤ n ∧ n ≤ u64Max then .ok n.toNat else .error "invalid value, expected u64"
  | _ => .error "invalid type, expected u64"

/-- A unit variant: its name, or a map from its name alone to `null`. -/
def asVariant {α : Type} (ofName : String → Option α) (j : Json) : Except String α :=
  match j with
  | .string name => variant name
  | .object _ =>
    match j.members with
    | some [(name, .null)] => variant name
    | some [_] => .error "invalid type, expected unit"
    | _ => .error "invalid value, expected map with a single key"
  | _ => .error "invalid type, expected string or map"
where
  variant (name : String) : Except String α :=
    match ofName name with
    | some a => .ok a
    | none => .error ("unknown variant " ++ name)

/-- Fields with different names have the values they were given. -/
theorem valuesOf_members {fields members : List (String × Json)}
    (h : (fields.map Prod.fst).Nodup) (hm : (Json.object fields).members = some members)
    (name : String) : valuesOf name members = valuesOf name fields := by
  cases hm
  have hperm := SortedMap.ofPairs_perm h
  have hvalues : (valuesOf name (SortedMap.ofPairs fields).entries).Perm (valuesOf name fields) :=
    (hperm.filter _).map _
  have hone : (valuesOf name fields).length ≤ 1 := by
    have hcount : (fields.filter fun f => f.1 = name).length ≤ 1 := by
      rw [← List.countP_eq_length_filter]
      have hle := List.nodup_iff_count_le_one.mp h name
      rw [List.count, List.countP_map] at hle
      exact hle.trans' (List.countP_mono_left fun f _ hf => by simpa using hf)
    rwa [valuesOf, List.length_map]
  rcases hv : valuesOf name fields with _ | ⟨j, _ | ⟨k, rest⟩⟩
  · rw [hv] at hvalues
    exact hvalues.eq_nil
  · rw [hv] at hvalues
    exact List.perm_singleton.mp hvalues
  · rw [hv] at hone
    simp at hone

theorem asVariant_string {α : Type} {ofName : String → Option α} {name : String} {a : α}
    (h : ofName name = some a) : asVariant ofName (.string name) = .ok a := by
  simp [asVariant, asVariant.variant, h]

theorem asI64_number {n : Int} (h : -(i64Max + 1 : Int) ≤ n ∧ n ≤ i64Max) :
    asI64 (.number n) = .ok n := if_pos h

theorem asU64_number {n : Nat} (h : n ≤ u64Max) : asU64 (.number n) = .ok n := by
  have hn : 0 ≤ (n : Int) ∧ (n : Int) ≤ u64Max := by omega
  rw [asU64, if_pos hn, Int.toNat_natCast]

end Json

/-! ## 2. Records -/

def DateTime.toJson (t : DateTime) : Json := .string (DateTime.toIso8601 t)

/-- The fields of the derive, in its order. -/
def BusinessObject.fields (o : BusinessObject) : List (String × Json) :=
  [("id", .string o.id), ("kind", .string o.kind),
    ("external_id", ofOption .string o.externalId), ("display_name", .string o.displayName),
    ("lifecycle_status", .string o.lifecycleStatus.db),
    ("approval_status", .string o.approvalStatus.db), ("revision", .number o.revision),
    ("attributes", o.attributes.toJson), ("created_at", DateTime.toJson o.createdAt),
    ("updated_at", DateTime.toJson o.updatedAt)]

def BusinessObject.toJson (o : BusinessObject) : Json := .object o.fields

def LedgerEntry.fields (e : LedgerEntry) : List (String × Json) :=
  [("id", .string e.id), ("business_object_id", .string e.businessObjectId),
    ("direction", .string e.direction.db), ("category", .string e.category),
    ("amount_minor", .number e.amountMinor), ("currency", .string e.currency),
    ("occurred_at", DateTime.toJson e.occurredAt),
    ("approval_status", .string e.approvalStatus.db),
    ("counterparty", ofOption .string e.counterparty),
    ("reference", ofOption .string e.reference),
    ("description", ofOption .string e.description), ("created_at", DateTime.toJson e.createdAt)]

def LedgerEntry.toJson (e : LedgerEntry) : Json := .object e.fields

def ContentAttribution.fields (a : ContentAttribution) : List (String × Json) :=
  [("business_object_id", .string a.businessObjectId),
    ("history_id", .string a.historyId), ("created_at", DateTime.toJson a.createdAt)]

def ContentAttribution.toJson (a : ContentAttribution) : Json := .object a.fields

def BusinessRelation.fields (b : BusinessRelation) : List (String × Json) :=
  [("id", .string b.id), ("source_business_object_id", .string b.sourceBusinessObjectId),
    ("target_business_object_id", .string b.targetBusinessObjectId),
    ("relation_type", .string b.relationType), ("attributes", b.attributes.toJson),
    ("created_at", DateTime.toJson b.createdAt)]

def BusinessRelation.toJson (b : BusinessRelation) : Json := .object b.fields

/-- `BTreeMap<String, String>` out of a document. -/
def Attributes.decode (j : Json) : Except String Attributes := do
  let fields ← asMembers j
  let entries ← fields.mapM Attributes.readEntry
  .ok (SortedMap.ofPairs entries)

def BusinessObjectStatus.decode : Decoder BusinessObjectStatus :=
  asVariant fun name => (BusinessObjectStatus.fromDb name).toOption

def ApprovalStatus.decode : Decoder ApprovalStatus :=
  asVariant fun name => (ApprovalStatus.fromDb name).toOption

def LedgerDirection.decode : Decoder LedgerDirection :=
  asVariant fun name => (LedgerDirection.fromDb name).toOption

section Decode
variable (readTime : String → Option DateTime)

/-- `DateTime<Utc>` out of a document. -/
def decodeTime (j : Json) : Except String DateTime := do
  let text ← asString j
  match readTime text with
  | some t => .ok t
  | none => .error "input contains invalid characters"

/-- The reader derived for `BusinessObject`; only the revision may be absent. -/
def BusinessObject.decode (j : Json) : Except String BusinessObject := do
  let fields ← asMembers j
  let id ← required asString "id" fields
  let kind ← required asString "kind" fields
  let externalId ← optional asString "external_id" fields
  let displayName ← required asString "display_name" fields
  let lifecycleStatus ← required BusinessObjectStatus.decode "lifecycle_status" fields
  let approvalStatus ← required ApprovalStatus.decode "approval_status" fields
  let revision ← defaulted asU64 0 "revision" fields
  let attributes ← required Attributes.decode "attributes" fields
  let createdAt ← required (decodeTime readTime) "created_at" fields
  let updatedAt ← required (decodeTime readTime) "updated_at" fields
  .ok ⟨id, kind, externalId, displayName, lifecycleStatus, approvalStatus, revision, attributes,
    createdAt, updatedAt⟩

def LedgerEntry.decode (j : Json) : Except String LedgerEntry := do
  let fields ← asMembers j
  let id ← required asString "id" fields
  let businessObjectId ← required asString "business_object_id" fields
  let direction ← required LedgerDirection.decode "direction" fields
  let category ← required asString "category" fields
  let amountMinor ← required asI64 "amount_minor" fields
  let currency ← required asString "currency" fields
  let occurredAt ← required (decodeTime readTime) "occurred_at" fields
  let approvalStatus ← required ApprovalStatus.decode "approval_status" fields
  let counterparty ← optional asString "counterparty" fields
  let reference ← optional asString "reference" fields
  let description ← optional asString "description" fields
  let createdAt ← required (decodeTime readTime) "created_at" fields
  .ok ⟨id, businessObjectId, direction, category, amountMinor, currency, occurredAt,
    approvalStatus, counterparty, reference, description, createdAt⟩

def ContentAttribution.decode (j : Json) : Except String ContentAttribution := do
  let fields ← asMembers j
  let businessObjectId ← required asString "business_object_id" fields
  let historyId ← required asString "history_id" fields
  let createdAt ← required (decodeTime readTime) "created_at" fields
  .ok ⟨businessObjectId, historyId, createdAt⟩

def BusinessRelation.decode (j : Json) : Except String BusinessRelation := do
  let fields ← asMembers j
  let id ← required asString "id" fields
  let sourceBusinessObjectId ← required asString "source_business_object_id" fields
  let targetBusinessObjectId ← required asString "target_business_object_id" fields
  let relationType ← required asString "relation_type" fields
  let attributes ← required Attributes.decode "attributes" fields
  let createdAt ← required (decodeTime readTime) "created_at" fields
  .ok ⟨id, sourceBusinessObjectId, targetBusinessObjectId, relationType, attributes, createdAt⟩

end Decode

/-! ## 3. What is written is read back -/

@[simp] theorem BusinessObjectStatus.decode_db (s : BusinessObjectStatus) :
    BusinessObjectStatus.decode (.string s.db) = .ok s :=
  asVariant_string (by rw [BusinessObjectStatus.fromDb_db]; rfl)

@[simp] theorem ApprovalStatus.decode_db (s : ApprovalStatus) :
    ApprovalStatus.decode (.string s.db) = .ok s :=
  asVariant_string (by rw [ApprovalStatus.fromDb_db]; rfl)

@[simp] theorem LedgerDirection.decode_db (d : LedgerDirection) :
    LedgerDirection.decode (.string d.db) = .ok d :=
  asVariant_string (by rw [LedgerDirection.fromDb_db]; rfl)

/-- A sorted map of texts is the map of its own document. -/
theorem Attributes.members_toJson (a : Attributes) :
    a.toJson.members = some (a.entries.map fun e => (e.1, Json.string e.2)) := by
  have hsorted : (a.entries.map fun (e : String × String) => (e.1, Json.string e.2)).Pairwise
      fun x y => x.1 < y.1 := List.pairwise_map.mpr a.sorted
  have hmap := SortedMap.ofPairs_entries ⟨_, hsorted⟩
  exact congrArg (fun m => some m.entries) hmap

@[simp] theorem Attributes.decode_toJson (a : Attributes) : Attributes.decode a.toJson = .ok a := by
  have hread : (a.entries.map fun (e : String × String) => (e.1, Json.string e.2)).mapM
      Attributes.readEntry = .ok a.entries := mapM_map_ok fun _ _ => rfl
  have hentries := a.ofPairs_entries
  unfold Attributes.decode asMembers
  rw [Attributes.members_toJson]
  change (do
    let entries ← (a.entries.map fun (e : String × String) => (e.1, Json.string e.2)).mapM
      Attributes.readEntry
    Except.ok (SortedMap.ofPairs entries)) = .ok a
  rw [hread]
  exact congrArg Except.ok hentries

/-- The reader reads RFC 3339. -/
def ReadsRfc3339 (readTime : String → Option DateTime) : Prop :=
  ∀ text t, DateTime.parseFromRfc3339 text = some t → readTime text = some t

/-- The values a document can carry: times of the years 0 to 9999, and the widths of integers. -/
def LifecycleRecord.Writable (record : LifecycleRecord) : Prop :=
  record.FourDigitYears ∧
    match record with
    | .object o => o.revision ≤ u64Max
    | .ledgerEntry e => -(i64Max + 1 : Int) ≤ e.amountMinor ∧ e.amountMinor ≤ i64Max
    | _ => True

/-- Fields with different names, as the map of their object holds them. -/
theorem asMembers_object {fields : List (String × Json)} (h : (fields.map Prod.fst).Nodup) :
    ∃ members, asMembers (.object fields) = .ok members ∧
      ∀ name, valuesOf name members = valuesOf name fields :=
  ⟨_, rfl, valuesOf_members h rfl⟩

section RoundTrip
variable {readTime : String → Option DateTime}

theorem decodeTime_toJson (hreads : ReadsRfc3339 readTime) {t : DateTime} (hy : t.FourDigitYear) :
    decodeTime readTime (DateTime.toJson t) = .ok t := by
  have hread := hreads _ _ (parse_toIso8601 hy)
  change (match readTime (DateTime.toIso8601 t) with
    | some t => Except.ok t
    | none => .error _) = _
  rw [hread]

/-- A written time is read back out of its field. -/
theorem required_time (hreads : ReadsRfc3339 readTime) {t : DateTime} (hy : t.FourDigitYear)
    {name : String} {fields : List (String × Json)}
    (h : valuesOf name fields = [DateTime.toJson t]) :
    required (decodeTime readTime) name fields = .ok t :=
  required_of_values h (decodeTime_toJson hreads hy)

/-- **A written object is read back.** -/
theorem BusinessObject.decode_toJson (hreads : ReadsRfc3339 readTime) {o : BusinessObject}
    (h : (LifecycleRecord.object o).Writable) :
    BusinessObject.decode readTime o.toJson = .ok o := by
  obtain ⟨⟨hcreated, hupdated⟩, hrevision⟩ := h
  have hnames : (o.fields.map Prod.fst).Nodup := by simp [BusinessObject.fields]
  obtain ⟨fields, hfields, hvalues⟩ := asMembers_object hnames
  have h₁ : required asString "id" fields = .ok o.id :=
    required_string (by simp [hvalues, BusinessObject.fields])
  have h₂ : required asString "kind" fields = .ok o.kind :=
    required_string (by simp [hvalues, BusinessObject.fields])
  have h₃ : optional asString "external_id" fields = .ok o.externalId :=
    optional_nullable_string (by simp [hvalues, BusinessObject.fields])
  have h₄ : required asString "display_name" fields = .ok o.displayName :=
    required_string (by simp [hvalues, BusinessObject.fields])
  have h₅ : required BusinessObjectStatus.decode "lifecycle_status" fields =
      .ok o.lifecycleStatus :=
    required_of_values (by simp [hvalues, BusinessObject.fields])
      (BusinessObjectStatus.decode_db _)
  have h₆ : required ApprovalStatus.decode "approval_status" fields = .ok o.approvalStatus :=
    required_of_values (by simp [hvalues, BusinessObject.fields]) (ApprovalStatus.decode_db _)
  have h₇ : defaulted asU64 0 "revision" fields = .ok o.revision :=
    defaulted_of_values (by simp [hvalues, BusinessObject.fields]) (asU64_number hrevision)
  have h₈ : required Attributes.decode "attributes" fields = .ok o.attributes :=
    required_of_values (by simp [hvalues, BusinessObject.fields]) (Attributes.decode_toJson _)
  have h₉ : required (decodeTime readTime) "created_at" fields = .ok o.createdAt :=
    required_time hreads hcreated (by simp [hvalues, BusinessObject.fields])
  have h₁₀ : required (decodeTime readTime) "updated_at" fields = .ok o.updatedAt :=
    required_time hreads hupdated (by simp [hvalues, BusinessObject.fields])
  unfold BusinessObject.decode BusinessObject.toJson
  rw [hfields]
  show (do
    let id ← required asString "id" fields
    _) = _
  simp only [h₁, h₂, h₃, h₄, h₅, h₆, h₇, h₈, h₉, h₁₀]
  rfl

/-- **A written ledger entry is read back.** -/
theorem LedgerEntry.decode_toJson (hreads : ReadsRfc3339 readTime) {e : LedgerEntry}
    (h : (LifecycleRecord.ledgerEntry e).Writable) :
    LedgerEntry.decode readTime e.toJson = .ok e := by
  obtain ⟨⟨hoccurred, hcreated⟩, hamount⟩ := h
  have hnames : (e.fields.map Prod.fst).Nodup := by simp [LedgerEntry.fields]
  obtain ⟨fields, hfields, hvalues⟩ := asMembers_object hnames
  have h₁ : required asString "id" fields = .ok e.id :=
    required_string (by simp [hvalues, LedgerEntry.fields])
  have h₂ : required asString "business_object_id" fields = .ok e.businessObjectId :=
    required_string (by simp [hvalues, LedgerEntry.fields])
  have h₃ : required LedgerDirection.decode "direction" fields = .ok e.direction :=
    required_of_values (by simp [hvalues, LedgerEntry.fields]) (LedgerDirection.decode_db _)
  have h₄ : required asString "category" fields = .ok e.category :=
    required_string (by simp [hvalues, LedgerEntry.fields])
  have h₅ : required asI64 "amount_minor" fields = .ok e.amountMinor :=
    required_of_values (by simp [hvalues, LedgerEntry.fields]) (asI64_number hamount)
  have h₆ : required asString "currency" fields = .ok e.currency :=
    required_string (by simp [hvalues, LedgerEntry.fields])
  have h₇ : required (decodeTime readTime) "occurred_at" fields = .ok e.occurredAt :=
    required_time hreads hoccurred (by simp [hvalues, LedgerEntry.fields])
  have h₈ : required ApprovalStatus.decode "approval_status" fields = .ok e.approvalStatus :=
    required_of_values (by simp [hvalues, LedgerEntry.fields]) (ApprovalStatus.decode_db _)
  have h₉ : optional asString "counterparty" fields = .ok e.counterparty :=
    optional_nullable_string (by simp [hvalues, LedgerEntry.fields])
  have h₁₀ : optional asString "reference" fields = .ok e.reference :=
    optional_nullable_string (by simp [hvalues, LedgerEntry.fields])
  have h₁₁ : optional asString "description" fields = .ok e.description :=
    optional_nullable_string (by simp [hvalues, LedgerEntry.fields])
  have h₁₂ : required (decodeTime readTime) "created_at" fields = .ok e.createdAt :=
    required_time hreads hcreated (by simp [hvalues, LedgerEntry.fields])
  unfold LedgerEntry.decode LedgerEntry.toJson
  rw [hfields]
  show (do
    let id ← required asString "id" fields
    _) = _
  simp only [h₁, h₂, h₃, h₄, h₅, h₆, h₇, h₈, h₉, h₁₀, h₁₁, h₁₂]
  rfl

/-- **A written attribution is read back.** -/
theorem ContentAttribution.decode_toJson (hreads : ReadsRfc3339 readTime) {a : ContentAttribution}
    (h : (LifecycleRecord.attribution a).Writable) :
    ContentAttribution.decode readTime a.toJson = .ok a := by
  have hcreated : a.createdAt.FourDigitYear := h.1
  have hnames : (a.fields.map Prod.fst).Nodup := by simp [ContentAttribution.fields]
  obtain ⟨fields, hfields, hvalues⟩ := asMembers_object hnames
  have h₁ : required asString "business_object_id" fields = .ok a.businessObjectId :=
    required_string (by simp [hvalues, ContentAttribution.fields])
  have h₂ : required asString "history_id" fields = .ok a.historyId :=
    required_string (by simp [hvalues, ContentAttribution.fields])
  have h₃ : required (decodeTime readTime) "created_at" fields = .ok a.createdAt :=
    required_time hreads hcreated (by simp [hvalues, ContentAttribution.fields])
  unfold ContentAttribution.decode ContentAttribution.toJson
  rw [hfields]
  show (do
    let businessObjectId ← required asString "business_object_id" fields
    _) = _
  simp only [h₁, h₂, h₃]
  rfl

/-- **A written relation is read back.** -/
theorem BusinessRelation.decode_toJson (hreads : ReadsRfc3339 readTime) {b : BusinessRelation}
    (h : (LifecycleRecord.relation b).Writable) :
    BusinessRelation.decode readTime b.toJson = .ok b := by
  have hcreated : b.createdAt.FourDigitYear := h.1
  have hnames : (b.fields.map Prod.fst).Nodup := by simp [BusinessRelation.fields]
  obtain ⟨fields, hfields, hvalues⟩ := asMembers_object hnames
  have h₁ : required asString "id" fields = .ok b.id :=
    required_string (by simp [hvalues, BusinessRelation.fields])
  have h₂ : required asString "source_business_object_id" fields =
      .ok b.sourceBusinessObjectId :=
    required_string (by simp [hvalues, BusinessRelation.fields])
  have h₃ : required asString "target_business_object_id" fields =
      .ok b.targetBusinessObjectId :=
    required_string (by simp [hvalues, BusinessRelation.fields])
  have h₄ : required asString "relation_type" fields = .ok b.relationType :=
    required_string (by simp [hvalues, BusinessRelation.fields])
  have h₅ : required Attributes.decode "attributes" fields = .ok b.attributes :=
    required_of_values (by simp [hvalues, BusinessRelation.fields]) (Attributes.decode_toJson _)
  have h₆ : required (decodeTime readTime) "created_at" fields = .ok b.createdAt :=
    required_time hreads hcreated (by simp [hvalues, BusinessRelation.fields])
  unfold BusinessRelation.decode BusinessRelation.toJson
  rw [hfields]
  show (do
    let id ← required asString "id" fields
    _) = _
  simp only [h₁, h₂, h₃, h₄, h₅, h₆]
  rfl

end RoundTrip

/-! ## 4. The bodies of the daemon's routes -/

/-- `TransitionBusinessObjectRequest`. -/
structure TransitionBusinessObjectRequest where
  expectedRevision : Nat
  lifecycleStatus : BusinessObjectStatus
  approvalStatus : ApprovalStatus
  updatedAt : DateTime

/-- `CreateBusinessRelationRequest`. -/
structure CreateBusinessRelationRequest where
  id : String
  sourceBusinessObjectId : String
  targetBusinessObjectId : String
  relationType : String
  attributes : Attributes
  createdAt : Option DateTime

section Bodies
variable (readTime : String → Option DateTime)

def TransitionBusinessObjectRequest.decode (j : Json) :
    Except String TransitionBusinessObjectRequest := do
  let fields ← asMembers j
  let expectedRevision ← required asU64 "expected_revision" fields
  let lifecycleStatus ← required BusinessObjectStatus.decode "lifecycle_status" fields
  let approvalStatus ← required ApprovalStatus.decode "approval_status" fields
  let updatedAt ← required (decodeTime readTime) "updated_at" fields
  .ok ⟨expectedRevision, lifecycleStatus, approvalStatus, updatedAt⟩

def CreateBusinessRelationRequest.decode (j : Json) :
    Except String CreateBusinessRelationRequest := do
  let fields ← asMembers j
  denyUnknown ["id", "sourceBusinessObjectId", "targetBusinessObjectId", "relationType",
    "attributes", "createdAt"] fields
  let id ← required asString "id" fields
  let sourceBusinessObjectId ← required asString "sourceBusinessObjectId" fields
  let targetBusinessObjectId ← required asString "targetBusinessObjectId" fields
  let relationType ← required asString "relationType" fields
  let attributes ← defaulted Attributes.decode default "attributes" fields
  let createdAt ← optional (decodeTime readTime) "createdAt" fields
  .ok ⟨id, sourceBusinessObjectId, targetBusinessObjectId, relationType, attributes, createdAt⟩

/-- A body as the JSON reader found it: a document, or why it is none. -/
abbrev Body := Except String Json

/-- `parse_lifecycle_json`. -/
def parseLifecycleJson {α : Type} (decode : Json → Except String α) (body : Body)
    (allowedFields : List String) (resource : String) : Except (ApiResponse Json) α :=
  match body with
  | .error error => .error (invalidReply ("invalid JSON " ++ resource ++ " request: " ++ error))
  | .ok value =>
    match value.members with
    | none => .error (invalidReply (resource ++ " request must be a JSON object"))
    | some fields =>
      match fields.find? fun f => !allowedFields.contains f.1 with
      | some f => .error (invalidReply ("unknown " ++ resource ++ " field: " ++ f.1))
      | none =>
        (decode value).mapError fun error =>
          invalidReply ("invalid JSON " ++ resource ++ " request: " ++ error)

def parseBusinessObject (body : Body) : Except (ApiResponse Json) BusinessObject :=
  parseLifecycleJson (BusinessObject.decode readTime) body
    ["id", "kind", "external_id", "display_name", "lifecycle_status", "approval_status",
      "attributes", "created_at", "updated_at"] "business object"

def parseTransition (body : Body) : Except (ApiResponse Json) TransitionBusinessObjectRequest :=
  parseLifecycleJson (TransitionBusinessObjectRequest.decode readTime) body
    ["expected_revision", "lifecycle_status", "approval_status", "updated_at"]
    "business object transition"

def parseLedgerEntry (body : Body) : Except (ApiResponse Json) LedgerEntry :=
  parseLifecycleJson (LedgerEntry.decode readTime) body
    ["id", "business_object_id", "direction", "category", "amount_minor", "currency",
      "occurred_at", "approval_status", "counterparty", "reference", "description", "created_at"]
    "ledger entry"

def parseContentAttribution (body : Body) : Except (ApiResponse Json) ContentAttribution :=
  parseLifecycleJson (ContentAttribution.decode readTime) body
    ["business_object_id", "history_id", "created_at"] "content attribution"

def parseBusinessRelation (body : Body) :
    Except (ApiResponse Json) CreateBusinessRelationRequest :=
  parseLifecycleJson (CreateBusinessRelationRequest.decode readTime) body
    ["id", "sourceBusinessObjectId", "targetBusinessObjectId", "relationType", "attributes",
      "createdAt"] "business relation"

end Bodies

/-- **A body that is accepted is an object with allowed fields only, and decodes.** -/
theorem parseLifecycleJson_ok {α : Type} {decode : Json → Except String α} {body : Body}
    {allowedFields : List String} {resource : String} {a : α}
    (h : parseLifecycleJson decode body allowedFields resource = .ok a) :
    ∃ value fields, body = .ok value ∧ value.members = some fields ∧
      (∀ f ∈ fields, f.1 ∈ allowedFields) ∧ decode value = .ok a := by
  unfold parseLifecycleJson at h
  split at h
  · cases h
  rename_i value
  split at h
  · cases h
  rename_i fields hfields
  split at h
  · cases h
  rename_i hknown
  refine ⟨value, fields, rfl, hfields, fun f hf => ?_, ?_⟩
  · have hallowed := List.find?_eq_none.mp hknown f hf
    simpa using hallowed
  · cases hdecode : decode value with
    | ok b =>
      rw [hdecode] at h
      exact congrArg _ (Except.ok.inj h)
    | error e =>
      rw [hdecode] at h
      cases h

/-- **A body that is refused is answered with status 400 and no data.** -/
theorem parseLifecycleJson_error {α : Type} {decode : Json → Except String α} {body : Body}
    {allowedFields : List String} {resource : String} {response : ApiResponse Json}
    (h : parseLifecycleJson decode body allowedFields resource = .error response) :
    ∃ message, response = invalidReply message := by
  unfold parseLifecycleJson at h
  split at h
  · exact ⟨_, (Except.error.inj h).symm⟩
  rename_i value
  split at h
  · exact ⟨_, (Except.error.inj h).symm⟩
  split at h
  · exact ⟨_, (Except.error.inj h).symm⟩
  cases hdecode : decode value with
  | ok b =>
    rw [hdecode] at h
    cases h
  | error e =>
    rw [hdecode] at h
    exact ⟨_, (Except.error.inj h).symm⟩

/-- A field no entry has is absent. -/
theorem valuesOf_eq_nil {name : String} {fields : List (String × Json)}
    (h : ∀ f ∈ fields, f.1 ≠ name) : valuesOf name fields = [] := by
  unfold valuesOf
  rw [List.filter_eq_nil_iff.mpr fun f hf => by simpa using h f hf, List.map_nil]

/-- **An object that is created has revision zero**: the daemon does not read one. -/
theorem parseBusinessObject_revision {readTime : String → Option DateTime} {body : Body}
    {o : BusinessObject} (h : parseBusinessObject readTime body = .ok o) : o.revision = 0 := by
  obtain ⟨value, fields, -, hfields, hallowed, hdecode⟩ := parseLifecycleJson_ok h
  have habsent : defaulted asU64 0 "revision" fields = .ok 0 := by
    have hnone : valuesOf "revision" fields = [] := by
      refine valuesOf_eq_nil fun f hf he => ?_
      have hmem := hallowed f hf
      rw [he] at hmem
      simp at hmem
    unfold defaulted
    rw [fieldOf_of_values (o := none) hnone]
    rfl
  unfold BusinessObject.decode asMembers at hdecode
  rw [hfields] at hdecode
  obtain ⟨_, he, hdecode⟩ := except_bind_ok.mp hdecode
  cases he
  obtain ⟨id, -, hdecode⟩ := except_bind_ok.mp hdecode
  obtain ⟨kind, -, hdecode⟩ := except_bind_ok.mp hdecode
  obtain ⟨externalId, -, hdecode⟩ := except_bind_ok.mp hdecode
  obtain ⟨displayName, -, hdecode⟩ := except_bind_ok.mp hdecode
  obtain ⟨lifecycleStatus, -, hdecode⟩ := except_bind_ok.mp hdecode
  obtain ⟨approvalStatus, -, hdecode⟩ := except_bind_ok.mp hdecode
  obtain ⟨revision, hrevision, hdecode⟩ := except_bind_ok.mp hdecode
  obtain ⟨attributes, -, hdecode⟩ := except_bind_ok.mp hdecode
  obtain ⟨createdAt, -, hdecode⟩ := except_bind_ok.mp hdecode
  obtain ⟨updatedAt, -, hdecode⟩ := except_bind_ok.mp hdecode
  rw [habsent] at hrevision
  cases hdecode
  exact (Except.ok.inj hrevision).symm

end MatriXpost
