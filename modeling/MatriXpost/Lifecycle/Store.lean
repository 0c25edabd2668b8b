/-
  File:      MatriXpost/Lifecycle/Store.lean
  Subject:   THE LIFECYCLE TABLES AND THEIR OPERATIONS.

  Source: `storage/lifecycle.rs`, and the batches of versions five and six of `migrate` for the
  constraints. Primary keys are the keys of the tables; the unique index on (kind, external id),
  the unique triple of a relation and the foreign keys are checked by the INSERT statements
  (`PRAGMA foreign_keys=ON` is the first statement of every connection).

  * an insert operation is its checks and one INSERT (`LifecycleRecord.insert`), all of them
    auto-committed; `LifecycleRecord.check_ok` and `insertRow_ok` say what each half required;
  * `transitionBusinessObject` is one transaction: load, revision, both transition graphs, guarded
    UPDATE. `transitionBusinessObject_ok` says what a success required and wrote;
  * a failed operation leaves everything as it was (`LifecycleRecord.insert_error`,
    `transitionBusinessObject_error`).
-/
import MatriXpost.Lifecycle.Model
import MatriXpost.Store.Jobs

namespace MatriXpost

/-! ## 1. Rows and tables -/

/-- A row of `business_objects`. -/
structure BusinessObjectRow where
  id : String
  kind : String
  externalId : Option String
  displayName : String
  lifecycleStatus : String
  approvalStatus : String
  revision : Nat
  attributesJson : Json
  createdAt : String
  updatedAt : String

/-- A row of `ledger_entries`. -/
structure LedgerEntryRow where
  id : String
  businessObjectId : String
  direction : String
  category : String
  amountMinor : Int
  currency : String
  occurredAt : String
  approvalStatus : String
  counterparty : Option String
  reference : Option String
  description : Option String
  createdAt : String

/-- A row of `content_attributions`. -/
structure ContentAttributionRow where
  businessObjectId : String
  historyId : String
  createdAt : String

/-- `PRIMARY KEY(business_object_id, history_id)`. -/
def ContentAttributionRow.key (row : ContentAttributionRow) : String × String :=
  (row.businessObjectId, row.historyId)

/-- A row of `business_relations`. -/
structure BusinessRelationRow where
  id : String
  sourceBusinessObjectId : String
  targetBusinessObjectId : String
  relationType : String
  attributesJson : Json
  createdAt : String

/-- The lifecycle tables beside those of the queues. -/
structure BusinessStore where
  publication : Store
  businessObjects : Table BusinessObjectRow.id
  ledgerEntries : Table LedgerEntryRow.id
  contentAttributions : Table ContentAttributionRow.key
  businessRelations : Table BusinessRelationRow.id

def BusinessStore.initial : BusinessStore := ⟨.initial, .empty, .empty, .empty, .empty⟩

def BusinessStore.setBusinessObjects (s : BusinessStore) (t : Table BusinessObjectRow.id) :
    BusinessStore := { s with businessObjects := t }

def BusinessObject.toRow (object : BusinessObject) : BusinessObjectRow where
  id := object.id
  kind := object.kind
  externalId := object.externalId
  displayName := object.displayName
  lifecycleStatus := object.lifecycleStatus.db
  approvalStatus := object.approvalStatus.db
  revision := object.revision
  attributesJson := object.attributes.toJson
  createdAt := DateTime.toRfc3339 object.createdAt
  updatedAt := DateTime.toRfc3339 object.updatedAt

def LedgerEntry.toRow (entry : LedgerEntry) : LedgerEntryRow where
  id := entry.id
  businessObjectId := entry.businessObjectId
  direction := entry.direction.db
  category := entry.category
  amountMinor := entry.amountMinor
  currency := entry.currency
  occurredAt := DateTime.toRfc3339 entry.occurredAt
  approvalStatus := entry.approvalStatus.db
  counterparty := entry.counterparty
  reference := entry.reference
  description := entry.description
  createdAt := DateTime.toRfc3339 entry.createdAt

def ContentAttribution.toRow (attribution : ContentAttribution) : ContentAttributionRow where
  businessObjectId := attribution.businessObjectId
  historyId := attribution.historyId
  createdAt := DateTime.toRfc3339 attribution.createdAt

def BusinessRelation.toRow (relation : BusinessRelation) : BusinessRelationRow where
  id := relation.id
  sourceBusinessObjectId := relation.sourceBusinessObjectId
  targetBusinessObjectId := relation.targetBusinessObjectId
  relationType := relation.relationType
  attributesJson := relation.attributes.toJson
  createdAt := DateTime.toRfc3339 relation.createdAt

/-! ## 2. Reading rows back -/

open QueueTable (parseTime)

/-- `row_to_business_object`. -/
def rowToBusinessObject (row : BusinessObjectRow) : Except DomainError BusinessObject := do
  let lifecycleStatus ← BusinessObjectStatus.fromDb row.lifecycleStatus
  let approvalStatus ← ApprovalStatus.fromDb row.approvalStatus
  let attributes ← Attributes.fromJson row.attributesJson
  let createdAt ← parseTime row.createdAt
  let updatedAt ← parseTime row.updatedAt
  .ok ⟨row.id, row.kind, row.externalId, row.displayName, lifecycleStatus, approvalStatus,
    row.revision, attributes, createdAt, updatedAt⟩

/-- `row_to_ledger_entry`. -/
def rowToLedgerEntry (row : LedgerEntryRow) : Except DomainError LedgerEntry := do
  let direction ← LedgerDirection.fromDb row.direction
  let occurredAt ← parseTime row.occurredAt
  let approvalStatus ← ApprovalStatus.fromDb row.approvalStatus
  let createdAt ← parseTime row.createdAt
  .ok ⟨row.id, row.businessObjectId, direction, row.category, row.amountMinor, row.currency,
    occurredAt, approvalStatus, row.counterparty, row.reference, row.description, createdAt⟩

/-- `row_to_content_attribution`. -/
def rowToContentAttribution (row : ContentAttributionRow) :
    Except DomainError ContentAttribution := do
  let createdAt ← parseTime row.createdAt
  .ok ⟨row.businessObjectId, row.historyId, createdAt⟩

/-- `row_to_business_relation`. -/
def rowToBusinessRelation (row : BusinessRelationRow) : Except DomainError BusinessRelation := do
  let attributes ← Attributes.fromJson row.attributesJson
  let createdAt ← parseTime row.createdAt
  .ok ⟨row.id, row.sourceBusinessObjectId, row.targetBusinessObjectId, row.relationType,
    attributes, createdAt⟩

/-- `load_business_object` and `load_business_object_tx`. -/
def businessObject (id : String) : Sql DomainError BusinessStore (Option BusinessObject) := do
  match ← Sql.query fun s => s.businessObjects.find? id with
  | none => pure none
  | some row => do
    let object ← Sql.lift (rowToBusinessObject row)
    pure (some object)

/-- `business_object_exists`. -/
def businessObjectExists (id : String) : Sql DomainError BusinessStore Bool :=
  Sql.query fun s => (s.businessObjects.find? id).isSome

/-- `if !business_object_exists(..)? { return Err(UnknownBusinessObject(..)) }`. -/
def requireBusinessObject (id : String) : Sql DomainError BusinessStore Unit := do
  let known ← businessObjectExists id
  if known then pure () else Sql.fail (.unknownBusinessObject id)

/-- `business_objects`: `ORDER BY created_at, id`. -/
def businessObjects : Sql DomainError BusinessStore (List BusinessObject) := do
  let rows ← Sql.query fun s => orderBy (fun _ => true)
    (fun row : BusinessObjectRow => toLex (row.createdAt, row.id)) s.businessObjects.rows
  Sql.lift (rows.mapM rowToBusinessObject)

/-- `ledger_entries`: `ORDER BY occurred_at, id`. -/
def ledgerEntries (businessObjectId : String) :
    Sql DomainError BusinessStore (List LedgerEntry) := do
  requireBusinessObject businessObjectId
  let rows ← Sql.query fun s => orderBy (fun row => row.businessObjectId = businessObjectId)
    (fun row : LedgerEntryRow => toLex (row.occurredAt, row.id)) s.ledgerEntries.rows
  Sql.lift (rows.mapM rowToLedgerEntry)

/-- `content_attributions`: `ORDER BY created_at, history_id`. -/
def contentAttributions (businessObjectId : String) :
    Sql DomainError BusinessStore (List ContentAttribution) := do
  requireBusinessObject businessObjectId
  let rows ← Sql.query fun s => orderBy (fun row => row.businessObjectId = businessObjectId)
    (fun row : ContentAttributionRow => toLex (row.createdAt, row.historyId))
    s.contentAttributions.rows
  Sql.lift (rows.mapM rowToContentAttribution)

/-- `business_relations`: incoming and outgoing, `ORDER BY created_at, id`. -/
def businessRelations (businessObjectId : String) :
    Sql DomainError BusinessStore (List BusinessRelation) := do
  requireBusinessObject businessObjectId
  let rows ← Sql.query fun s => orderBy
    (fun row => row.sourceBusinessObjectId = businessObjectId ||
      row.targetBusinessObjectId = businessObjectId)
    (fun row : BusinessRelationRow => toLex (row.createdAt, row.id)) s.businessRelations.rows
  Sql.lift (rows.mapM rowToBusinessRelation)

/-! ## 3. Inserting -/

/-- A violated foreign key. -/
def foreignKeyViolation : DomainError := .database "FOREIGN KEY constraint failed"

/-- `if duplicate { return Err(error) }`, on an `EXISTS` query. -/
def refuseIf (found : BusinessStore → Bool) (error : DomainError) :
    Sql DomainError BusinessStore Unit := do
  let duplicate ← Sql.query found
  if duplicate then Sql.fail error else pure ()

/-- The row with a kind and an external id. -/
def hasExternalId (kind externalId : String) (row : BusinessObjectRow) : Bool :=
  row.kind = kind && row.externalId = some externalId

/-- What `insert_business_object` does before its INSERT. -/
def checkBusinessObject (object : BusinessObject) : Sql DomainError BusinessStore Unit := do
  Sql.lift object.validate
  refuseIf (fun s => (s.businessObjects.find? object.id).isSome)
    (.duplicateBusinessObjectId object.id)
  match object.externalId with
  | none => pure ()
  | some externalId =>
    refuseIf (fun s => s.businessObjects.rows.any (hasExternalId object.kind externalId))
      (.duplicateBusinessObjectExternalId object.kind externalId)

/-- `INSERT INTO business_objects`, with `business_objects_kind_external_id_unique`. -/
def insertBusinessObjectRow (row : BusinessObjectRow) (s : BusinessStore) :
    Except DomainError (Unit × BusinessStore) :=
  if row.externalId.any fun externalId =>
      s.businessObjects.rows.any (hasExternalId row.kind externalId) then
    .error (uniqueViolation "business_objects.kind, business_objects.external_id")
  else
    match s.businessObjects.insert row with
    | some businessObjects => .ok ((), { s with businessObjects := businessObjects })
    | none => .error (uniqueViolation "business_objects.id")

/-- `insert_business_object`. -/
def insertBusinessObject (object : BusinessObject) : Sql DomainError BusinessStore Unit := do
  checkBusinessObject object
  Sql.statement (insertBusinessObjectRow object.toRow)

/-- What `insert_ledger_entry` does before its INSERT. -/
def checkLedgerEntry (entry : LedgerEntry) : Sql DomainError BusinessStore Unit := do
  Sql.lift entry.validate
  requireBusinessObject entry.businessObjectId
  refuseIf (fun s => (s.ledgerEntries.find? entry.id).isSome) (.duplicateLedgerEntryId entry.id)

/-- `INSERT INTO ledger_entries`. -/
def insertLedgerEntryRow (row : LedgerEntryRow) (s : BusinessStore) :
    Except DomainError (Unit × BusinessStore) :=
  if (s.businessObjects.find? row.businessObjectId).isNone then .error foreignKeyViolation
  else
    match s.ledgerEntries.insert row with
    | some ledgerEntries => .ok ((), { s with ledgerEntries := ledgerEntries })
    | none => .error (uniqueViolation "ledger_entries.id")

/-- `insert_ledger_entry`. -/
def insertLedgerEntry (entry : LedgerEntry) : Sql DomainError BusinessStore Unit := do
  checkLedgerEntry entry
  Sql.statement (insertLedgerEntryRow entry.toRow)

/-- What `insert_content_attribution` does before its INSERT. -/
def checkContentAttribution (attribution : ContentAttribution) :
    Sql DomainError BusinessStore Unit := do
  Sql.lift attribution.validate
  requireBusinessObject attribution.businessObjectId
  let historyExists ← Sql.query fun s =>
    (s.publication.history.find? attribution.historyId).isSome
  if historyExists then
    refuseIf (fun s => (s.contentAttributions.find? attribution.toRow.key).isSome)
      (.duplicateContentAttribution attribution.businessObjectId attribution.historyId)
  else Sql.fail (.unknownHistoryRecord attribution.historyId)

/-- `INSERT INTO content_attributions`. -/
def insertContentAttributionRow (row : ContentAttributionRow) (s : BusinessStore) :
    Except DomainError (Unit × BusinessStore) :=
  if (s.businessObjects.find? row.businessObjectId).isNone ||
      (s.publication.history.find? row.historyId).isNone then .error foreignKeyViolation
  else
    match s.contentAttributions.insert row with
    | some contentAttributions => .ok ((), { s with contentAttributions := contentAttributions })
    | none => .error (uniqueViolation
        "content_attributions.business_object_id, content_attributions.history_id")

/-- `insert_content_attribution`. -/
def insertContentAttribution (attribution : ContentAttribution) :
    Sql DomainError BusinessStore Unit := do
  checkContentAttribution attribution
  Sql.statement (insertContentAttributionRow attribution.toRow)

/-- Source, target and type of a relation. -/
def BusinessRelationRow.triple (row : BusinessRelationRow) : String × String × String :=
  (row.sourceBusinessObjectId, row.targetBusinessObjectId, row.relationType)

/-- What `insert_business_relation` does before its INSERT. -/
def checkBusinessRelation (relation : BusinessRelation) : Sql DomainError BusinessStore Unit := do
  Sql.lift relation.validate
  requireBusinessObject relation.sourceBusinessObjectId
  requireBusinessObject relation.targetBusinessObjectId
  refuseIf (fun s => (s.businessRelations.find? relation.id).isSome)
    (.duplicateBusinessRelationId relation.id)
  refuseIf (fun s => s.businessRelations.rows.any fun row => row.triple = relation.toRow.triple)
    (.duplicateBusinessRelation relation.sourceBusinessObjectId relation.targetBusinessObjectId
      relation.relationType)

/-- `INSERT INTO business_relations`, with its UNIQUE triple. -/
def insertBusinessRelationRow (row : BusinessRelationRow) (s : BusinessStore) :
    Except DomainError (Unit × BusinessStore) :=
  if (s.businessObjects.find? row.sourceBusinessObjectId).isNone ||
      (s.businessObjects.find? row.targetBusinessObjectId).isNone then .error foreignKeyViolation
  else if s.businessRelations.rows.any fun other => other.triple = row.triple then
    .error (uniqueViolation ("business_relations.source_business_object_id, " ++
      "business_relations.target_business_object_id, business_relations.relation_type"))
  else
    match s.businessRelations.insert row with
    | some businessRelations => .ok ((), { s with businessRelations := businessRelations })
    | none => .error (uniqueViolation "business_relations.id")

/-- `insert_business_relation`. -/
def insertBusinessRelation (relation : BusinessRelation) :
    Sql DomainError BusinessStore Unit := do
  checkBusinessRelation relation
  Sql.statement (insertBusinessRelationRow relation.toRow)

/-! ## 4. Transition -/

/-- The largest `u64`. -/
def u64Max : Nat := 18446744073709551615

/-- `expected_revision.checked_add(1)`, and the binding of the sum to an INTEGER parameter. -/
def nextRevision (id : String) (expected : Nat) : Except DomainError Nat :=
  if u64Max < expected + 1 then .error (.businessObjectRevisionOverflow id)
  else if i64Max < expected + 1 then
    .error (.database "out of range integral type conversion attempted")
  else .ok (expected + 1)

/-- The guards of a transition, in their order. -/
def checkTransition (current : BusinessObject) (id : String) (expected : Nat)
    (nextLifecycle : BusinessObjectStatus) (nextApproval : ApprovalStatus) :
    Except DomainError Unit :=
  if current.revision ≠ expected then
    .error (.staleBusinessObjectRevision id expected current.revision)
  else if current.lifecycleStatus = nextLifecycle ∧ current.approvalStatus = nextApproval then
    .error (.businessObjectTransitionNoop id)
  else if current.lifecycleStatus ≠ nextLifecycle ∧
      !current.lifecycleStatus.canTransitionTo nextLifecycle then
    .error (.invalidBusinessObjectLifecycleTransition current.lifecycleStatus nextLifecycle)
  else if current.approvalStatus ≠ nextApproval ∧
      !current.approvalStatus.canTransitionTo nextApproval then
    .error (.invalidBusinessObjectApprovalTransition current.approvalStatus nextApproval)
  else .ok ()

/-- `SET lifecycle_status, approval_status, revision, updated_at`. -/
def BusinessObjectRow.assign (nextLifecycle : BusinessObjectStatus) (nextApproval : ApprovalStatus)
    (revision : Nat) (updatedAt : DateTime) (row : BusinessObjectRow) : BusinessObjectRow :=
  { row with
    lifecycleStatus := nextLifecycle.db
    approvalStatus := nextApproval.db
    revision := revision
    updatedAt := DateTime.toRfc3339 updatedAt }

theorem BusinessObjectRow.assign_id (nextLifecycle : BusinessObjectStatus)
    (nextApproval : ApprovalStatus) (revision : Nat) (updatedAt : DateTime)
    (row : BusinessObjectRow) :
    (row.assign nextLifecycle nextApproval revision updatedAt).id = row.id := rfl

/-- `WHERE id = id AND revision = expected`. -/
def BusinessObjectRow.guarded (id : String) (expected : Nat) (row : BusinessObjectRow) : Bool :=
  decide (row.id = id) && decide (row.revision = expected)

/-- The guarded UPDATE, and the number of rows it changed. -/
def updateBusinessObject (id : String) (expected : Nat) (nextLifecycle : BusinessObjectStatus)
    (nextApproval : ApprovalStatus) (revision : Nat) (updatedAt : DateTime) (s : BusinessStore) :
    Nat × BusinessStore :=
  (s.businessObjects.count (BusinessObjectRow.guarded id expected),
    s.setBusinessObjects (s.businessObjects.update (BusinessObjectRow.guarded id expected)
      (BusinessObjectRow.assign nextLifecycle nextApproval revision updatedAt)
      (BusinessObjectRow.assign_id nextLifecycle nextApproval revision updatedAt)))

/-- `transition_business_object`. -/
def transitionBusinessObject (id : String) (expected : Nat) (nextLifecycle : BusinessObjectStatus)
    (nextApproval : ApprovalStatus) (updatedAt : DateTime) :
    Sql DomainError BusinessStore BusinessObject :=
  Sql.transaction do
    match ← businessObject id with
    | none => Sql.fail (.unknownBusinessObject id)
    | some current => do
      Sql.lift (checkTransition current id expected nextLifecycle nextApproval)
      let revision ← Sql.lift (nextRevision id expected)
      let changed ← Sql.execute
        (updateBusinessObject id expected nextLifecycle nextApproval revision updatedAt)
      if changed ≠ 1 then Sql.fail (.concurrentBusinessObjectUpdate id)
      else pure { current with
        lifecycleStatus := nextLifecycle
        approvalStatus := nextApproval
        revision := revision
        updatedAt := updatedAt }

/-! ## 5. The four inserts as one -/

/-- What the lifecycle tables hold. -/
inductive LifecycleRecord where
  | object (object : BusinessObject)
  | ledgerEntry (entry : LedgerEntry)
  | attribution (attribution : ContentAttribution)
  | relation (relation : BusinessRelation)
deriving DecidableEq

namespace LifecycleRecord

def validate : LifecycleRecord → Except DomainError Unit
  | object o => o.validate
  | ledgerEntry e => e.validate
  | attribution a => a.validate
  | relation r => r.validate

/-- What an insert does before its INSERT. -/
def check : LifecycleRecord → Sql DomainError BusinessStore Unit
  | object o => checkBusinessObject o
  | ledgerEntry e => checkLedgerEntry e
  | attribution a => checkContentAttribution a
  | relation r => checkBusinessRelation r

/-- Its INSERT. -/
def insertRow : LifecycleRecord → BusinessStore → Except DomainError (Unit × BusinessStore)
  | object o => insertBusinessObjectRow o.toRow
  | ledgerEntry e => insertLedgerEntryRow e.toRow
  | attribution a => insertContentAttributionRow a.toRow
  | relation r => insertBusinessRelationRow r.toRow

/-- The operation. -/
def insert : LifecycleRecord → Sql DomainError BusinessStore Unit
  | object o => insertBusinessObject o
  | ledgerEntry e => insertLedgerEntry e
  | attribution a => insertContentAttribution a
  | relation r => insertBusinessRelation r

/-- An insert is its checks and one statement. -/
theorem insert_eq (record : LifecycleRecord) :
    record.insert = (do record.check; Sql.statement record.insertRow) := by
  cases record <;> rfl

end LifecycleRecord

/-! ## 6. What the operations require and write -/

theorem readOnly_requireBusinessObject (id : String) :
    Sql.ReadOnly (requireBusinessObject id) := by
  refine (Sql.readOnly_query _).bind fun known => ?_
  cases known with
  | true => exact Sql.readOnly_pure ()
  | false => exact Sql.readOnly_fail _

theorem readOnly_refuseIf (found : BusinessStore → Bool) (error : DomainError) :
    Sql.ReadOnly (refuseIf found error) := by
  refine (Sql.readOnly_query _).bind fun duplicate => ?_
  cases duplicate with
  | true => exact Sql.readOnly_fail _
  | false => exact Sql.readOnly_pure ()

theorem readOnly_businessObject (id : String) : Sql.ReadOnly (businessObject id) := by
  refine (Sql.readOnly_query _).bind fun row => ?_
  cases row with
  | none => exact Sql.readOnly_pure none
  | some row => exact (Sql.readOnly_lift _).bind fun object => Sql.readOnly_pure _

namespace LifecycleRecord

/-- The checks only read. -/
theorem readOnly_check (record : LifecycleRecord) : Sql.ReadOnly record.check := by
  cases record with
  | object o =>
    refine (Sql.readOnly_lift _).bind fun _ => (readOnly_refuseIf _ _).bind fun _ => ?_
    cases o.externalId with
    | none => exact Sql.readOnly_pure ()
    | some externalId => exact readOnly_refuseIf _ _
  | ledgerEntry e =>
    exact (Sql.readOnly_lift _).bind fun _ => (readOnly_requireBusinessObject _).bind fun _ =>
      readOnly_refuseIf _ _
  | attribution a =>
    refine (Sql.readOnly_lift _).bind fun _ => (readOnly_requireBusinessObject _).bind fun _ =>
      (Sql.readOnly_query _).bind fun historyExists => ?_
    cases historyExists with
    | true => exact readOnly_refuseIf _ _
    | false => exact Sql.readOnly_fail _
  | relation r =>
    exact (Sql.readOnly_lift _).bind fun _ => (readOnly_requireBusinessObject _).bind fun _ =>
      (readOnly_requireBusinessObject _).bind fun _ => (readOnly_refuseIf _ _).bind fun _ =>
      readOnly_refuseIf _ _

section Specs
variable {record : LifecycleRecord} {s s' : BusinessStore} {u : Unit} {e : DomainError}

/-- What passes the checks is valid. -/
theorem check_ok (h : Sql.Runs record.check s (.ok u) s') : record.validate = .ok () := by
  cases record <;>
    exact (Sql.runs_lift.mp (Sql.runs_bind_ok h).choose_spec.choose_spec.1).1.symm

/-- **A refused insert leaves everything as it was.** -/
theorem insert_error (h : Sql.Runs record.insert s (.error e) s') : s' = s := by
  rw [insert_eq] at h
  rcases Sql.runs_bind_error h with h | ⟨_, s₁, hcheck, h⟩
  · exact readOnly_check record _ _ _ h
  · rw [Sql.runs_statement_error h, readOnly_check record _ _ _ hcheck]

end Specs

end LifecycleRecord

section Rows
variable {s s' : BusinessStore} {u : Unit}

/-- An object is inserted under a new id, and under a new external id of its kind if it has one. -/
theorem insertBusinessObjectRow_ok {row : BusinessObjectRow}
    (h : insertBusinessObjectRow row s = .ok (u, s')) :
    ∃ businessObjects, s.businessObjects.insert row = some businessObjects ∧
      s' = { s with businessObjects := businessObjects } ∧
      ∀ externalId, row.externalId = some externalId →
        ∀ other ∈ s.businessObjects.rows, other.kind = row.kind →
          other.externalId ≠ some externalId := by
  unfold insertBusinessObjectRow at h
  split at h
  · cases h
  rename_i hunique
  split at h
  · rename_i businessObjects hinsert
    cases h
    refine ⟨businessObjects, hinsert, rfl, fun externalId hexternal other hother hkind hsame => ?_⟩
    refine hunique ?_
    rw [hexternal, Option.any_some, List.any_eq_true]
    exact ⟨other, hother, by simp [hasExternalId, hkind, hsame]⟩
  · cases h

/-- An entry is inserted under a new id, for an object that exists. -/
theorem insertLedgerEntryRow_ok {row : LedgerEntryRow}
    (h : insertLedgerEntryRow row s = .ok (u, s')) :
    ∃ object ledgerEntries, s.businessObjects.find? row.businessObjectId = some object ∧
      s.ledgerEntries.insert row = some ledgerEntries ∧
      s' = { s with ledgerEntries := ledgerEntries } := by
  unfold insertLedgerEntryRow at h
  split at h
  · cases h
  rename_i hknown
  obtain ⟨object, hobject⟩ := Option.ne_none_iff_exists'.mp (by simpa using hknown)
  split at h
  · rename_i ledgerEntries hinsert
    cases h
    exact ⟨object, ledgerEntries, hobject, hinsert, rfl⟩
  · cases h

/-- An attribution is inserted for a new pair of an object and a history record that exist. -/
theorem insertContentAttributionRow_ok {row : ContentAttributionRow}
    (h : insertContentAttributionRow row s = .ok (u, s')) :
    ∃ object record contentAttributions,
      s.businessObjects.find? row.businessObjectId = some object ∧
      s.publication.history.find? row.historyId = some record ∧
      s.contentAttributions.insert row = some contentAttributions ∧
      s' = { s with contentAttributions := contentAttributions } := by
  unfold insertContentAttributionRow at h
  split at h
  · cases h
  rename_i hknown
  simp only [Bool.or_eq_true, Option.isNone_iff_eq_none, not_or] at hknown
  obtain ⟨object, hobject⟩ := Option.ne_none_iff_exists'.mp hknown.1
  obtain ⟨record, hrecord⟩ := Option.ne_none_iff_exists'.mp hknown.2
  split at h
  · rename_i contentAttributions hinsert
    cases h
    exact ⟨object, record, contentAttributions, hobject, hrecord, hinsert, rfl⟩
  · cases h

/-- A relation is inserted under a new id and a new triple, between objects that exist. -/
theorem insertBusinessRelationRow_ok {row : BusinessRelationRow}
    (h : insertBusinessRelationRow row s = .ok (u, s')) :
    ∃ source target businessRelations,
      s.businessObjects.find? row.sourceBusinessObjectId = some source ∧
      s.businessObjects.find? row.targetBusinessObjectId = some target ∧
      (∀ other ∈ s.businessRelations.rows, other.triple ≠ row.triple) ∧
      s.businessRelations.insert row = some businessRelations ∧
      s' = { s with businessRelations := businessRelations } := by
  unfold insertBusinessRelationRow at h
  split at h
  · cases h
  rename_i hknown
  simp only [Bool.or_eq_true, Option.isNone_iff_eq_none, not_or] at hknown
  obtain ⟨source, hsource⟩ := Option.ne_none_iff_exists'.mp hknown.1
  obtain ⟨target, htarget⟩ := Option.ne_none_iff_exists'.mp hknown.2
  split at h
  · cases h
  rename_i hunique
  split at h
  · rename_i businessRelations hinsert
    cases h
    refine ⟨source, target, businessRelations, hsource, htarget, fun other hother he => ?_,
      hinsert, rfl⟩
    exact hunique (List.any_eq_true.mpr ⟨other, hother, by simp [he]⟩)
  · cases h

/-- What an INSERT does: one row in the table of its record, under the table's constraints, and
    nothing in the others. -/
structure RowInserted (record : LifecycleRecord) (s s' : BusinessStore) : Prop where
  publication : s'.publication = s.publication
  objects : s'.businessObjects = s.businessObjects ∨ ∃ object, record = .object object ∧
    s.businessObjects.insert object.toRow = some s'.businessObjects ∧
    ∀ externalId, object.externalId = some externalId → ∀ other ∈ s.businessObjects.rows,
      other.kind = object.kind → other.externalId ≠ some externalId
  ledger : s'.ledgerEntries = s.ledgerEntries ∨ ∃ entry, record = .ledgerEntry entry ∧
    (∃ object, s.businessObjects.find? entry.businessObjectId = some object) ∧
    s.ledgerEntries.insert entry.toRow = some s'.ledgerEntries
  attributions : s'.contentAttributions = s.contentAttributions ∨
    ∃ attribution, record = .attribution attribution ∧
      (∃ object, s.businessObjects.find? attribution.businessObjectId = some object) ∧
      (∃ history, s.publication.history.find? attribution.historyId = some history) ∧
      s.contentAttributions.insert attribution.toRow = some s'.contentAttributions
  relations : s'.businessRelations = s.businessRelations ∨
    ∃ relation, record = .relation relation ∧
      (∃ source, s.businessObjects.find? relation.sourceBusinessObjectId = some source) ∧
      (∃ target, s.businessObjects.find? relation.targetBusinessObjectId = some target) ∧
      (∀ other ∈ s.businessRelations.rows, other.triple ≠ relation.toRow.triple) ∧
      s.businessRelations.insert relation.toRow = some s'.businessRelations

theorem insertRow_ok {record : LifecycleRecord} (h : record.insertRow s = .ok (u, s')) :
    RowInserted record s s' := by
  cases record with
  | object o =>
    obtain ⟨t, hinsert, rfl, hunique⟩ := insertBusinessObjectRow_ok h
    exact ⟨rfl, .inr ⟨o, rfl, hinsert, hunique⟩, .inl rfl, .inl rfl, .inl rfl⟩
  | ledgerEntry e =>
    obtain ⟨object, t, hobject, hinsert, rfl⟩ := insertLedgerEntryRow_ok h
    exact ⟨rfl, .inl rfl, .inr ⟨e, rfl, ⟨object, hobject⟩, hinsert⟩, .inl rfl, .inl rfl⟩
  | attribution a =>
    obtain ⟨object, history, t, hobject, hhistory, hinsert, rfl⟩ :=
      insertContentAttributionRow_ok h
    exact ⟨rfl, .inl rfl, .inl rfl,
      .inr ⟨a, rfl, ⟨object, hobject⟩, ⟨history, hhistory⟩, hinsert⟩, .inl rfl⟩
  | relation r =>
    obtain ⟨source, target, t, hsource, htarget, hunique, hinsert, rfl⟩ :=
      insertBusinessRelationRow_ok h
    exact ⟨rfl, .inl rfl, .inl rfl, .inl rfl,
      .inr ⟨r, rfl, ⟨source, hsource⟩, ⟨target, htarget⟩, hunique, hinsert⟩⟩

/-- The row of a record is in the table of its kind. -/
def LifecycleRecord.InTable (s : BusinessStore) : LifecycleRecord → Prop
  | .object o => o.toRow ∈ s.businessObjects.rows
  | .ledgerEntry e => e.toRow ∈ s.ledgerEntries.rows
  | .attribution a => a.toRow ∈ s.contentAttributions.rows
  | .relation r => r.toRow ∈ s.businessRelations.rows

/-- **An accepted INSERT puts the row of its record.** -/
theorem inTable_of_insertRow {record : LifecycleRecord} (h : record.insertRow s = .ok (u, s')) :
    record.InTable s' := by
  cases record with
  | object o =>
    obtain ⟨t, hinsert, rfl, -⟩ := insertBusinessObjectRow_ok h
    exact Table.mem_of_insert hinsert
  | ledgerEntry e =>
    obtain ⟨object, t, -, hinsert, rfl⟩ := insertLedgerEntryRow_ok h
    exact Table.mem_of_insert hinsert
  | attribution a =>
    obtain ⟨object, history, t, -, -, hinsert, rfl⟩ := insertContentAttributionRow_ok h
    exact Table.mem_of_insert hinsert
  | relation r =>
    obtain ⟨source, target, t, -, -, -, hinsert, rfl⟩ := insertBusinessRelationRow_ok h
    exact Table.mem_of_insert hinsert

end Rows

/-! ## 7. Transitions -/

/-- At least one status changes, and each that does follows an edge of its graph. -/
structure LegalTransition (lifecycle nextLifecycle : BusinessObjectStatus)
    (approval nextApproval : ApprovalStatus) : Prop where
  changes : lifecycle ≠ nextLifecycle ∨ approval ≠ nextApproval
  lifecycle : lifecycle ≠ nextLifecycle → lifecycle.canTransitionTo nextLifecycle = true
  approval : approval ≠ nextApproval → approval.canTransitionTo nextApproval = true

theorem checkTransition_ok {current : BusinessObject} {id : String} {expected : Nat}
    {nextLifecycle : BusinessObjectStatus} {nextApproval : ApprovalStatus}
    (h : checkTransition current id expected nextLifecycle nextApproval = .ok ()) :
    current.revision = expected ∧
      LegalTransition current.lifecycleStatus nextLifecycle current.approvalStatus
        nextApproval := by
  unfold checkTransition at h
  split at h
  · cases h
  rename_i hrev
  split at h
  · cases h
  rename_i hnoop
  split at h
  · cases h
  rename_i hlifecycle
  split at h
  · cases h
  rename_i happroval
  refine ⟨not_not.mp hrev, by tauto, fun hne => ?_, fun hne => ?_⟩
  · by_contra hedge
    exact hlifecycle ⟨hne, by simpa using hedge⟩
  · by_contra hedge
    exact happroval ⟨hne, by simpa using hedge⟩

/-- A row after a successful transition. -/
def BusinessObjectRow.advanced (nextLifecycle : BusinessObjectStatus)
    (nextApproval : ApprovalStatus) (updatedAt : DateTime) (row : BusinessObjectRow) :
    BusinessObjectRow := row.assign nextLifecycle nextApproval (row.revision + 1) updatedAt

theorem BusinessObjectRow.advanced_id (nextLifecycle : BusinessObjectStatus)
    (nextApproval : ApprovalStatus) (updatedAt : DateTime) (row : BusinessObjectRow) :
    (row.advanced nextLifecycle nextApproval updatedAt).id = row.id := rfl

/-- The store with one object advanced. -/
def BusinessStore.advance (s : BusinessStore) (id : String) (nextLifecycle : BusinessObjectStatus)
    (nextApproval : ApprovalStatus) (updatedAt : DateTime) : BusinessStore :=
  s.setBusinessObjects (s.businessObjects.update (fun row => decide (row.id = id))
    (BusinessObjectRow.advanced nextLifecycle nextApproval updatedAt)
    (BusinessObjectRow.advanced_id nextLifecycle nextApproval updatedAt))

section Transition
variable {s s' : BusinessStore} {id : String} {expected : Nat}
  {nextLifecycle : BusinessObjectStatus} {nextApproval : ApprovalStatus} {updatedAt : DateTime}
  {object : BusinessObject} {row : BusinessObjectRow}

theorem rowToBusinessObject_ok (h : rowToBusinessObject row = .ok object) :
    object.id = row.id ∧ object.revision = row.revision ∧
      row.lifecycleStatus = object.lifecycleStatus.db ∧
      row.approvalStatus = object.approvalStatus.db := by
  obtain ⟨lifecycle, hlifecycle, h⟩ := except_bind_ok.mp h
  obtain ⟨approval, happroval, h⟩ := except_bind_ok.mp h
  obtain ⟨attributes, -, h⟩ := except_bind_ok.mp h
  obtain ⟨createdAt, -, h⟩ := except_bind_ok.mp h
  obtain ⟨updatedAt, -, h⟩ := except_bind_ok.mp h
  cases h
  exact ⟨rfl, rfl, BusinessObjectStatus.db_of_fromDb hlifecycle,
    ApprovalStatus.db_of_fromDb happroval⟩

theorem businessObject_ok {reply : Option BusinessObject}
    (h : Sql.Runs (businessObject id) s (.ok reply) s') :
    (s.businessObjects.find? id = none ∧ reply = none) ∨
      ∃ row object, s.businessObjects.find? id = some row ∧
        rowToBusinessObject row = .ok object ∧ reply = some object := by
  obtain ⟨found, s₁, hquery, h₁⟩ := Sql.runs_bind_ok h
  obtain ⟨rfl, rfl⟩ := Sql.runs_query_ok.mp hquery
  cases hfind : s₁.businessObjects.find? id with
  | none =>
    rw [hfind] at h₁
    exact .inl ⟨rfl, Except.ok.inj (Sql.runs_pure.mp h₁).1⟩
  | some row =>
    rw [hfind] at h₁
    obtain ⟨object, s₂, hlift, h₂⟩ := Sql.runs_bind_ok h₁
    exact .inr ⟨row, object, rfl, (Sql.runs_lift.mp hlift).1.symm,
      Except.ok.inj (Sql.runs_pure.mp h₂).1⟩

/-- The guarded UPDATE of the row that stands at the revision is the advance of that row. -/
theorem updateBusinessObject_eq (hrow : s.businessObjects.find? id = some row) :
    updateBusinessObject id row.revision nextLifecycle nextApproval (row.revision + 1) updatedAt
      s = (1, s.advance id nextLifecycle nextApproval updatedAt) := by
  have hcount : s.businessObjects.count (BusinessObjectRow.guarded id row.revision) = 1 :=
    Table.count_key_eq_one.mpr ⟨row, hrow, by simp⟩
  unfold updateBusinessObject BusinessStore.advance
  rw [hcount]
  refine Prod.ext rfl ?_
  have htable : s.businessObjects.update (BusinessObjectRow.guarded id row.revision)
      (BusinessObjectRow.assign nextLifecycle nextApproval (row.revision + 1) updatedAt)
      (BusinessObjectRow.assign_id nextLifecycle nextApproval (row.revision + 1) updatedAt) =
      s.businessObjects.update (fun row => decide (row.id = id))
        (BusinessObjectRow.advanced nextLifecycle nextApproval updatedAt)
        (BusinessObjectRow.advanced_id nextLifecycle nextApproval updatedAt) := by
    refine Table.update_congr fun r hr => ?_
    by_cases hid : r.id = id
    · have he : r = row := Table.eq_of_key hr (Table.find?_mem hrow)
        (hid.trans (Table.find?_key hrow).symm)
      subst he
      simp [BusinessObjectRow.guarded, BusinessObjectRow.advanced, hid]
    · simp [BusinessObjectRow.guarded, hid]
  exact congrArg s.setBusinessObjects htable

theorem nextRevision_ok {n : Nat} (h : nextRevision id expected = .ok n) : n = expected + 1 := by
  unfold nextRevision at h
  split at h
  · cases h
  split at h
  · cases h
  · cases h
    rfl

/-- **A successful transition found its object at the revision presented, changed at least one
    status along the graphs, and wrote that row only.** -/
theorem transitionBusinessObject_ok
    (h : Sql.Runs (transitionBusinessObject id expected nextLifecycle nextApproval updatedAt) s
      (.ok object) s') :
    ∃ row current, s.businessObjects.find? id = some row ∧
      rowToBusinessObject row = .ok current ∧ row.revision = expected ∧
      LegalTransition current.lifecycleStatus nextLifecycle current.approvalStatus nextApproval ∧
      s' = s.advance id nextLifecycle nextApproval updatedAt ∧
      object = { current with
        lifecycleStatus := nextLifecycle, approvalStatus := nextApproval,
        revision := expected + 1, updatedAt := updatedAt } := by
  obtain ⟨found, s₁, hload, h₁⟩ := Sql.runs_bind_ok (Sql.runs_transaction_ok h)
  obtain rfl := readOnly_businessObject id _ _ _ hload
  rcases businessObject_ok hload with ⟨-, rfl⟩ | ⟨row, current, hrow, hread, rfl⟩
  · exact absurd (Sql.runs_fail.mp h₁).1 (by simp)
  obtain ⟨_, s₂, hcheck, h₂⟩ := Sql.runs_bind_ok h₁
  obtain ⟨hguards, rfl⟩ := Sql.runs_lift.mp hcheck
  obtain ⟨hrev, hlegal⟩ := checkTransition_ok hguards.symm
  obtain ⟨revision, s₃, hlift, h₃⟩ := Sql.runs_bind_ok h₂
  obtain ⟨hnext, rfl⟩ := Sql.runs_lift.mp hlift
  obtain rfl := nextRevision_ok hnext.symm
  obtain rfl : row.revision = expected := (rowToBusinessObject_ok hread).2.1.symm.trans hrev
  obtain ⟨changed, s₄, hexec, h₄⟩ := Sql.runs_bind_ok h₃
  rw [Sql.runs_execute_ok, updateBusinessObject_eq hrow] at hexec
  obtain ⟨rfl, rfl⟩ := Prod.mk.inj hexec
  rw [if_neg (by simp)] at h₄
  obtain ⟨he, rfl⟩ := Sql.runs_pure.mp h₄
  exact ⟨row, current, hrow, hread, rfl, hlegal, rfl, Except.ok.inj he⟩

/-- **A transition that fails leaves everything as it was.** -/
theorem transitionBusinessObject_error {e : DomainError}
    (h : Sql.Runs (transitionBusinessObject id expected nextLifecycle nextApproval updatedAt) s
      (.error e) s') : s' = s := Sql.runs_transaction_error h

/-- What a point query reads after an advance: that row advanced, every other as it was. -/
theorem find?_advance (k : String) :
    (s.advance id nextLifecycle nextApproval updatedAt).businessObjects.find? k =
      (s.businessObjects.find? k).map fun row =>
        if k = id then row.advanced nextLifecycle nextApproval updatedAt else row := by
  unfold BusinessStore.advance BusinessStore.setBusinessObjects
  rw [Table.find?_update]
  cases h : s.businessObjects.find? k with
  | none => rfl
  | some row =>
    have hk := Table.find?_key h
    simp [hk]

end Transition

end MatriXpost
