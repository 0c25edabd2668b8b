/-
  File:      MatriXpost/Lifecycle/Register.lean
  Subject:   WHAT THE LIFECYCLE STORE IS FOR: a register of records. Its operations are functions
             on plain lists of records, with the error each answers when it refuses.

  The store keeps its records as rows: statuses and times as texts, attributes as JSON, keys and
  references as constraints. Here none of that is left.

  * `Register.answer` is what a call answers on a register, and the register after it;
  * `HoldsRegister s r`: the tables of `s` hold the records of `r`, of years the columns can write;
  * **`call_exact`**: without faults every call answers on the store what it answers on the
    register, error by error, and the two stay together. `call_step`: and whatever it answers
    under faults it answers so, or it fails and changes nothing.
-/
import MatriXpost.Lifecycle.Readable
import MatriXpost.Process.Calls

namespace MatriXpost

/-! ## 1. The register -/

/-- The records accepted so far, and the ids of the publication history. -/
structure Register where
  accepted : Accepted
  history : List String

/-- `if found { return Err(error) }`. -/
def refuse (found : Bool) (error : DomainError) : Except DomainError Unit :=
  if found then .error error else .ok ()

namespace Register

def empty : Register := ⟨.empty, []⟩

def object? (r : Register) (id : String) : Option BusinessObject :=
  r.accepted.objects.find? fun o => o.id = id

def hasHistory (r : Register) (id : String) : Bool := r.history.any fun other => other = id

def hasExternalId (r : Register) (kind externalId : String) : Bool :=
  r.accepted.objects.any fun o => o.kind = kind && o.externalId = some externalId

def requireObject (r : Register) (id : String) : Except DomainError Unit :=
  if (r.object? id).isSome then .ok () else .error (.unknownBusinessObject id)

/-- What a record is refused for. -/
def check (r : Register) : LifecycleRecord → Except DomainError Unit
  | .object o => do
    o.validate
    refuse (r.object? o.id).isSome (.duplicateBusinessObjectId o.id)
    match o.externalId with
    | none => .ok ()
    | some externalId =>
      refuse (r.hasExternalId o.kind externalId)
        (.duplicateBusinessObjectExternalId o.kind externalId)
  | .ledgerEntry e => do
    e.validate
    r.requireObject e.businessObjectId
    refuse (r.accepted.entries.any fun other => other.id = e.id) (.duplicateLedgerEntryId e.id)
  | .attribution a => do
    a.validate
    r.requireObject a.businessObjectId
    if r.hasHistory a.historyId then
      refuse (r.accepted.attributions.any fun other =>
          (other.businessObjectId, other.historyId) = (a.businessObjectId, a.historyId))
        (.duplicateContentAttribution a.businessObjectId a.historyId)
    else .error (.unknownHistoryRecord a.historyId)
  | .relation b => do
    b.validate
    r.requireObject b.sourceBusinessObjectId
    r.requireObject b.targetBusinessObjectId
    refuse (r.accepted.relations.any fun other => other.id = b.id)
      (.duplicateBusinessRelationId b.id)
    refuse (r.accepted.relations.any fun other =>
        (other.sourceBusinessObjectId, other.targetBusinessObjectId, other.relationType) =
          (b.sourceBusinessObjectId, b.targetBusinessObjectId, b.relationType))
      (.duplicateBusinessRelation b.sourceBusinessObjectId b.targetBusinessObjectId b.relationType)

/-- The constraint a record breaks that comes after its checks: another client was faster. -/
def conflict (r : Register) : LifecycleRecord → Except DomainError Unit
  | .object o => do
    refuse (o.externalId.any fun externalId => r.hasExternalId o.kind externalId)
      (uniqueViolation "business_objects.kind, business_objects.external_id")
    refuse (r.object? o.id).isSome (uniqueViolation "business_objects.id")
  | .ledgerEntry e => do
    refuse (r.object? e.businessObjectId).isNone foreignKeyViolation
    refuse (r.accepted.entries.any fun other => other.id = e.id)
      (uniqueViolation "ledger_entries.id")
  | .attribution a => do
    refuse ((r.object? a.businessObjectId).isNone || !r.hasHistory a.historyId)
      foreignKeyViolation
    refuse (r.accepted.attributions.any fun other =>
        (other.businessObjectId, other.historyId) = (a.businessObjectId, a.historyId))
      (uniqueViolation
        "content_attributions.business_object_id, content_attributions.history_id")
  | .relation b => do
    refuse ((r.object? b.sourceBusinessObjectId).isNone ||
      (r.object? b.targetBusinessObjectId).isNone) foreignKeyViolation
    refuse (r.accepted.relations.any fun other =>
        (other.sourceBusinessObjectId, other.targetBusinessObjectId, other.relationType) =
          (b.sourceBusinessObjectId, b.targetBusinessObjectId, b.relationType))
      (uniqueViolation ("business_relations.source_business_object_id, " ++
        "business_relations.target_business_object_id, business_relations.relation_type"))
    refuse (r.accepted.relations.any fun other => other.id = b.id)
      (uniqueViolation "business_relations.id")

def add (r : Register) (record : LifecycleRecord) : Register :=
  { r with accepted := r.accepted.add record }

/-- The object a transition answers. -/
def transition (r : Register) (id : String) (expected : Nat)
    (nextLifecycle : BusinessObjectStatus) (nextApproval : ApprovalStatus) (updatedAt : DateTime) :
    Except DomainError BusinessObject :=
  match r.object? id with
  | none => .error (.unknownBusinessObject id)
  | some current => do
    checkTransition current id expected nextLifecycle nextApproval
    let revision ← nextRevision id expected
    .ok { current with
      lifecycleStatus := nextLifecycle
      approvalStatus := nextApproval
      revision := revision
      updatedAt := updatedAt }

/-- The object takes the place of the one with its id. -/
def set (r : Register) (object : BusinessObject) : Register :=
  { r with accepted := { r.accepted with
      objects := r.accepted.objects.map fun o => if o.id = object.id then object else o } }

/-- All objects by the time of their creation. -/
def objects (r : Register) : List BusinessObject :=
  orderBy (fun _ => true) (fun o : BusinessObject => toLex (o.createdAt, o.id)) r.accepted.objects

/-- The ledger of an object by the time of its entries. -/
def ledgerEntries (r : Register) (id : String) : Except DomainError (List LedgerEntry) := do
  r.requireObject id
  .ok (orderBy (fun e => e.businessObjectId = id)
    (fun e : LedgerEntry => toLex (e.occurredAt, e.id)) r.accepted.entries)

def contentAttributions (r : Register) (id : String) :
    Except DomainError (List ContentAttribution) := do
  r.requireObject id
  .ok (orderBy (fun a => a.businessObjectId = id)
    (fun a : ContentAttribution => toLex (a.createdAt, a.historyId)) r.accepted.attributions)

/-- The relations an object is the source or the target of. -/
def businessRelations (r : Register) (id : String) :
    Except DomainError (List BusinessRelation) := do
  r.requireObject id
  .ok (orderBy (fun b => b.sourceBusinessObjectId = id || b.targetBusinessObjectId = id)
    (fun b : BusinessRelation => toLex (b.createdAt, b.id)) r.accepted.relations)

end Register

/-! ## 2. The calls -/

/-- An operation of the lifecycle repository; an insert is its checks and its INSERT. -/
inductive BusinessCall where
  | check (record : LifecycleRecord)
  | insert (record : LifecycleRecord)
  | transition (id : String) (expected : Nat) (nextLifecycle : BusinessObjectStatus)
      (nextApproval : ApprovalStatus) (updatedAt : DateTime)
  | object (id : String)
  | objects
  | ledgerEntries (businessObjectId : String)
  | contentAttributions (businessObjectId : String)
  | businessRelations (businessObjectId : String)

namespace BusinessCall

/-- What a call answers with when it answers. -/
def Value : BusinessCall → Type
  | check _ => Unit
  | insert _ => Unit
  | transition _ _ _ _ _ => BusinessObject
  | object _ => Option BusinessObject
  | objects => List BusinessObject
  | ledgerEntries _ => List LedgerEntry
  | contentAttributions _ => List ContentAttribution
  | businessRelations _ => List BusinessRelation

def Reply (c : BusinessCall) : Type := Except DomainError c.Value

/-- The operation of the store. -/
def operation : (c : BusinessCall) → Sql DomainError BusinessStore c.Value
  | check record => record.check
  | insert record => Sql.statement record.insertRow
  | transition id expected nextLifecycle nextApproval updatedAt =>
    transitionBusinessObject id expected nextLifecycle nextApproval updatedAt
  | object id => MatriXpost.businessObject id
  | objects => MatriXpost.businessObjects
  | ledgerEntries id => MatriXpost.ledgerEntries id
  | contentAttributions id => MatriXpost.contentAttributions id
  | businessRelations id => MatriXpost.businessRelations id

/-- The times the call would write have years of four digits. -/
def FourDigitYears : BusinessCall → Prop
  | insert record => record.FourDigitYears
  | transition _ _ _ _ updatedAt => updatedAt.FourDigitYear
  | _ => True

end BusinessCall

/-- What a call answers on a register. -/
def Register.reply (r : Register) : (c : BusinessCall) → c.Reply
  | .check record => r.check record
  | .insert record => r.conflict record
  | .transition id expected nextLifecycle nextApproval updatedAt =>
    r.transition id expected nextLifecycle nextApproval updatedAt
  | .object id => .ok (r.object? id)
  | .objects => .ok r.objects
  | .ledgerEntries id => r.ledgerEntries id
  | .contentAttributions id => r.contentAttributions id
  | .businessRelations id => r.businessRelations id

/-- The register after a call that answered. -/
def Register.after (r : Register) : (c : BusinessCall) → c.Reply → Register
  | .insert record, .ok _ => r.add record
  | .transition _ _ _ _ _, .ok object => r.set object
  | _, _ => r

/-- What a call answers, and the register after it. -/
def Register.answer (r : Register) (c : BusinessCall) : c.Reply × Register :=
  (r.reply c, r.after c (r.reply c))

/-! ## 3. Store and register -/

/-- The tables hold the records of the register, all of years their columns can write, and the
    history its ids. -/
structure HoldsRegister (s : BusinessStore) (r : Register) : Prop where
  rows : HoldsRows s r.accepted
  history : s.publication.history.rows.map (·.id) = r.history
  years : r.accepted.FourDigitYears

theorem held_initial : HoldsRegister .initial .empty := by
  refine ⟨⟨rfl, rfl, rfl, rfl⟩, rfl, ?_⟩
  exact ⟨fun _ h => absurd h List.not_mem_nil, fun _ h => absurd h List.not_mem_nil,
    fun _ h => absurd h List.not_mem_nil, fun _ h => absurd h List.not_mem_nil⟩

/-- A key is in a table of these rows if one of the values has it. -/
theorem Table.find?_isSome_of_rows {ρ κ α : Type} [DecidableEq κ] {key : ρ → κ} {t : Table key}
    {write : α → ρ} {values : List α} (h : t.rows = values.map write) (k : κ) :
    (t.find? k).isSome = values.any fun a => key (write a) = k := by
  unfold Table.find?
  rw [h, List.isSome_find?, List.any_map]
  rfl

section HoldsRegister
variable {s s' : BusinessStore} {r : Register} {id : String} {record : LifecycleRecord}

theorem held_object (h : HoldsRegister s r) (id : String) :
    s.businessObjects.find? id = (r.object? id).map BusinessObject.toRow := find?_rows h.rows id

theorem held_object_isSome (h : HoldsRegister s r) (id : String) :
    (s.businessObjects.find? id).isSome = (r.object? id).isSome := by
  rw [held_object h, Option.isSome_map]

theorem held_object_isNone (h : HoldsRegister s r) (id : String) :
    (s.businessObjects.find? id).isNone = (r.object? id).isNone := by
  rw [held_object h, Option.isNone_map]

theorem held_history (h : HoldsRegister s r) (id : String) :
    (s.publication.history.find? id).isSome = r.hasHistory id := by
  unfold Register.hasHistory Table.find?
  rw [← h.history, List.any_map, List.isSome_find?]
  rfl

theorem held_externalId (h : HoldsRegister s r) (kind externalId : String) :
    s.businessObjects.rows.any (hasExternalId kind externalId) =
      r.hasExternalId kind externalId := by
  rw [h.rows.objects, List.any_map]
  rfl

theorem held_triple (h : HoldsRegister s r) (row : BusinessRelationRow) :
    (s.businessRelations.rows.any fun other => other.triple = row.triple) =
      r.accepted.relations.any fun other =>
        (other.sourceBusinessObjectId, other.targetBusinessObjectId, other.relationType) =
          (row.sourceBusinessObjectId, row.targetBusinessObjectId, row.relationType) := by
  rw [h.rows.relations, List.any_map]
  rfl

/-! ## 4. Checks and inserts -/

theorem clean_refuseIf (found : BusinessStore → Bool) (error : DomainError) (s : BusinessStore) :
    Sql.Clean (refuseIf found error) s (refuse (found s) error) s := by
  refine (Sql.clean_query found s).bind ?_
  unfold refuse
  cases found s with
  | true => exact Sql.clean_lift _ s
  | false => exact Sql.clean_pure () s

theorem clean_require (h : HoldsRegister s r) (id : String) :
    Sql.Clean (requireBusinessObject id) s (r.requireObject id) s := by
  refine (Sql.clean_query _ s).bind ?_
  unfold Register.requireObject
  rw [held_object_isSome h]
  split
  · exact Sql.clean_pure () s
  · exact Sql.clean_lift _ s

/-- **The checks refuse on the store what they refuse on the register.** -/
theorem check_exact (h : HoldsRegister s r) (record : LifecycleRecord) :
    Sql.Clean record.check s (r.check record) s := by
  cases record with
  | object o =>
    refine Sql.clean_bind_answers (Sql.clean_lift _ s) fun _ _ =>
      Sql.clean_bind_answers ?_ fun _ _ => ?_
    · rw [← held_object_isSome h]
      exact clean_refuseIf _ _ s
    · cases o.externalId with
      | none => exact Sql.clean_pure () s
      | some externalId =>
        dsimp only
        rw [← held_externalId h]
        exact clean_refuseIf _ _ s
  | ledgerEntry e =>
    refine Sql.clean_bind_answers (Sql.clean_lift _ s) fun _ _ =>
      Sql.clean_bind_answers (clean_require h _) fun _ _ => ?_
    have hfound := Table.find?_isSome_of_rows h.rows.entries e.id
    change Sql.Clean _ s (refuse (r.accepted.entries.any fun other => other.toRow.id = e.id) _) s
    rw [← hfound]
    exact clean_refuseIf _ _ s
  | attribution a =>
    refine Sql.clean_bind_answers (Sql.clean_lift _ s) fun _ _ =>
      Sql.clean_bind_answers (clean_require h _) fun _ _ =>
        (Sql.clean_query _ s).bind ?_
    rw [held_history h]
    split
    · have hfound := Table.find?_isSome_of_rows h.rows.attributions a.toRow.key
      change Sql.Clean _ s
        (refuse (r.accepted.attributions.any fun other => other.toRow.key = a.toRow.key) _) s
      rw [← hfound]
      exact clean_refuseIf _ _ s
    · exact Sql.clean_lift _ s
  | relation b =>
    refine Sql.clean_bind_answers (Sql.clean_lift _ s) fun _ _ =>
      Sql.clean_bind_answers (clean_require h _) fun _ _ =>
        Sql.clean_bind_answers (clean_require h _) fun _ _ =>
          Sql.clean_bind_answers ?_ fun _ _ => ?_
    · have hfound := Table.find?_isSome_of_rows h.rows.relations b.id
      change Sql.Clean _ s (refuse (r.accepted.relations.any fun other => other.toRow.id = b.id) _)
        s
      rw [← hfound]
      exact clean_refuseIf _ _ s
    · have hfound := held_triple h b.toRow
      change Sql.Clean _ s (refuse (r.accepted.relations.any fun other =>
        (other.sourceBusinessObjectId, other.targetBusinessObjectId, other.relationType) =
          (b.toRow.sourceBusinessObjectId, b.toRow.targetBusinessObjectId, b.toRow.relationType))
        _) s
      rw [← hfound]
      exact clean_refuseIf _ _ s

/-- What a keyed INSERT answers. -/
theorem insert_reply {ρ κ α : Type} [DecidableEq κ] {key : ρ → κ} {t : Table key} (row : ρ)
    {error : DomainError} {reply : Except DomainError (Unit × α)}
    (hsome : ∀ t', t.insert row = some t' → reply.map Prod.fst = .ok ())
    (hnone : t.insert row = none → reply.map Prod.fst = .error error) :
    reply.map Prod.fst = refuse (t.find? (key row)).isSome error := by
  cases hfind : t.find? (key row) with
  | none =>
    obtain ⟨t', hinsert⟩ := Table.insert_of_find?_none hfind
    exact hsome t' hinsert
  | some old => exact hnone (Table.insert_eq_none.mpr ⟨old, hfind⟩)

/-- An INSERT refused by an earlier constraint, or else by what comes next. -/
theorem refuse_then {α : Type} {found found' : Bool} {error : DomainError}
    {rest : Except DomainError (Unit × α)} {next : Except DomainError Unit}
    (hfound : found = found') (hrest : rest.map Prod.fst = next) :
    (if found = true then .error error else rest).map Prod.fst =
      (do refuse found' error; next) := by
  rw [← hfound, ← hrest]
  cases found <;> rfl

/-- **The constraints refuse on the store what they refuse on the register.** -/
theorem insertRow_reply (h : HoldsRegister s r) (record : LifecycleRecord) :
    (record.insertRow s).map Prod.fst = r.conflict record := by
  cases record with
  | object o =>
    have hexternal : (o.externalId.any fun externalId =>
        s.businessObjects.rows.any (hasExternalId o.kind externalId)) =
        o.externalId.any fun externalId => r.hasExternalId o.kind externalId :=
      congrArg o.externalId.any (funext fun x => held_externalId h o.kind x)
    refine refuse_then hexternal ?_
    rw [← held_object_isSome h]
    exact insert_reply o.toRow (fun t ht => by rw [ht]; rfl) (fun ht => by rw [ht]; rfl)
  | ledgerEntry e =>
    refine refuse_then (held_object_isNone h _) ?_
    refine (insert_reply e.toRow (fun t ht => by rw [ht]; rfl)
      (fun ht => by rw [ht]; rfl)).trans ?_
    rw [Table.find?_isSome_of_rows h.rows.entries]
    rfl
  | attribution a =>
    have hnone : (s.publication.history.find? a.historyId).isNone = !r.hasHistory a.historyId := by
      rw [← held_history h, Option.not_isSome]
    have hreferences : ((s.businessObjects.find? a.businessObjectId).isNone ||
        (s.publication.history.find? a.historyId).isNone) =
        ((r.object? a.businessObjectId).isNone || !r.hasHistory a.historyId) := by
      rw [held_object_isNone h, hnone]
    refine refuse_then hreferences ?_
    refine (insert_reply a.toRow (fun t ht => by rw [ht]; rfl)
      (fun ht => by rw [ht]; rfl)).trans ?_
    rw [Table.find?_isSome_of_rows h.rows.attributions]
    rfl
  | relation b =>
    have hreferences : ((s.businessObjects.find? b.sourceBusinessObjectId).isNone ||
        (s.businessObjects.find? b.targetBusinessObjectId).isNone) =
        ((r.object? b.sourceBusinessObjectId).isNone ||
          (r.object? b.targetBusinessObjectId).isNone) := by
      rw [held_object_isNone h, held_object_isNone h]
    refine refuse_then hreferences (refuse_then (held_triple h b.toRow) ?_)
    refine (insert_reply b.toRow (fun t ht => by rw [ht]; rfl)
      (fun ht => by rw [ht]; rfl)).trans ?_
    rw [Table.find?_isSome_of_rows h.rows.relations]
    rfl

/-- What is accepted is held. -/
theorem held_add (h : HoldsRegister s r) (hyears : record.FourDigitYears)
    (hins : record.insertRow s = .ok ((), s')) : HoldsRegister s' (r.add record) := by
  refine ⟨holdsRows_add h.rows hins, ?_, fourDigitYears_add h.years hyears⟩
  rw [(insertRow_ok hins).publication]
  exact h.history

theorem insert_exact (h : HoldsRegister s r) (record : LifecycleRecord) :
    ∃ s', Sql.Clean (Sql.statement record.insertRow) s (r.conflict record) s' ∧
      (record.FourDigitYears →
        HoldsRegister s' (r.after (.insert record) (r.conflict record))) := by
  rw [← insertRow_reply h record]
  cases hins : record.insertRow s with
  | error e => exact ⟨s, Sql.clean_statement_error hins, fun _ => h⟩
  | ok pair => exact ⟨pair.2, Sql.clean_statement hins, fun hyears => held_add h hyears hins⟩

/-! ## 5. Transitions -/

/-- The object of the id is the one found. -/
theorem object?_unique (h : HoldsRegister s r) {current : BusinessObject}
    (hcurrent : r.object? id = some current) :
    ∀ o ∈ r.accepted.objects, o.id = id → o = current := by
  intro o ho hid
  have hboth := (held_object h id).symm.trans (hid ▸ find?_toRow h.rows ho)
  rw [hcurrent] at hboth
  have hrows : current.toRow = o.toRow := Option.some.inj hboth
  have hread := rowToBusinessObject_toRow (h.years.objects o ho)
  rw [← hrows, rowToBusinessObject_toRow (h.years.objects current
    (List.mem_of_find?_eq_some hcurrent))] at hread
  exact (Except.ok.inj hread).symm

/-- What a transition writes is held. -/
theorem held_set (h : HoldsRegister s r) {current : BusinessObject}
    {nextLifecycle : BusinessObjectStatus} {nextApproval : ApprovalStatus} {updatedAt : DateTime}
    (hcurrent : r.object? id = some current) (hyear : updatedAt.FourDigitYear) :
    HoldsRegister (s.advance id nextLifecycle nextApproval updatedAt) (r.set { current with
      lifecycleStatus := nextLifecycle, approvalStatus := nextApproval,
      revision := current.revision + 1, updatedAt := updatedAt }) := by
  have hmem := List.mem_of_find?_eq_some hcurrent
  have hid : current.id = id := by simpa using List.find?_some hcurrent
  have hrow : s.businessObjects.find? id = some current.toRow := by
    rw [held_object h, hcurrent, Option.map_some]
  have hobjects : (r.accepted.objects.map fun o => if o.id = id then
      Accepted.changed current.revision nextLifecycle nextApproval updatedAt o else o) =
      r.accepted.objects.map fun o => if o.id = current.id then
        Accepted.changed current.revision nextLifecycle nextApproval updatedAt current else o := by
    refine List.map_congr_left fun o ho => ?_
    rw [hid]
    by_cases hsame : o.id = id
    · rw [if_pos hsame, if_pos hsame, object?_unique h hcurrent o ho hsame]
    · rw [if_neg hsame, if_neg hsame]
  refine ⟨⟨?_, h.rows.entries, h.rows.attributions, h.rows.relations⟩, h.history,
    ⟨?_, h.years.entries, h.years.attributions, h.years.relations⟩⟩
  · have hheld : (s.advance id nextLifecycle nextApproval updatedAt).businessObjects.rows = _ :=
      holdsRows_advance h.rows hrow
    exact hheld.trans (congrArg (List.map BusinessObject.toRow) hobjects)
  · intro o ho
    obtain ⟨old, hold, rfl⟩ := List.mem_map.mp ho
    split
    · exact ⟨(h.years.objects current hmem).1, hyear⟩
    · exact h.years.objects old hold

/-- **A transition answers on the store what it answers on the register.** -/
theorem transition_exact (h : HoldsRegister s r) (id : String) (expected : Nat)
    (nextLifecycle : BusinessObjectStatus) (nextApproval : ApprovalStatus)
    (updatedAt : DateTime) :
    ∃ s', Sql.Clean (transitionBusinessObject id expected nextLifecycle nextApproval updatedAt) s
        (r.transition id expected nextLifecycle nextApproval updatedAt) s' ∧
      (updatedAt.FourDigitYear →
        HoldsRegister s' (r.after (.transition id expected nextLifecycle nextApproval updatedAt)
          (r.transition id expected nextLifecycle nextApproval updatedAt))) := by
  have hread := clean_businessObject h.rows h.years.objects id
  unfold Register.transition
  change Sql.Clean _ s (.ok (r.object? id)) s at hread
  cases hcurrent : r.object? id with
  | none =>
    rw [hcurrent] at hread
    exact ⟨s, Sql.clean_transaction_error (hread.bind (Sql.clean_lift _ s)), fun _ => h⟩
  | some current =>
    rw [hcurrent] at hread
    dsimp only
    cases hcheck : checkTransition current id expected nextLifecycle nextApproval with
    | error e =>
      refine ⟨s, Sql.clean_transaction_error (m := s) (hread.bind (Sql.clean_bind_error ?_)),
        fun _ => h⟩
      rw [hcheck]
      exact Sql.clean_lift _ s
    | ok u =>
      obtain ⟨hrevision, -⟩ := checkTransition_ok hcheck
      cases hnext : nextRevision id expected with
      | error e =>
        refine ⟨s, Sql.clean_transaction_error (m := s) (hread.bind ?_), fun _ => h⟩
        dsimp only
        rw [hcheck, hnext]
        exact (Sql.clean_lift _ s).bind (Sql.clean_bind_error (Sql.clean_lift _ s))
      | ok revision =>
        obtain rfl := nextRevision_ok hnext
        obtain rfl := hrevision
        have hrow : s.businessObjects.find? id = some current.toRow := by
          rw [held_object h, hcurrent, Option.map_some]
        refine ⟨s.advance id nextLifecycle nextApproval updatedAt,
          Sql.Clean.transaction (hread.bind ?_), held_set h hcurrent⟩
        dsimp only
        rw [hcheck, hnext]
        refine (Sql.clean_lift _ s).bind ((Sql.clean_lift _ s).bind ?_)
        refine (Sql.clean_execute_of (updateBusinessObject_eq hrow)).bind ?_
        rw [if_neg (by simp)]
        exact Sql.clean_pure _ _

/-! ## 6. Listings -/

/-- Columns sort records as their times and keys do. -/
theorem stamp_le {a b : DateTime} {i j : String} (ha : a.FourDigitYear) (hb : b.FourDigitYear) :
    (toLex (DateTime.toRfc3339 a, i) : String ×ₗ String) ≤ toLex (DateTime.toRfc3339 b, j) ↔
      (toLex (a, i) : DateTime ×ₗ String) ≤ toLex (b, j) := by
  simp only [Prod.Lex.toLex_le_toLex, toRfc3339_lt ha hb, toRfc3339_inj ha hb]

/-- A listing that asks first for its object. -/
theorem listing_exact {α ρ κ κ' : Type} [LinearOrder κ] [LinearOrder κ'] {toRow : α → ρ}
    {read : ρ → Except DomainError α} {p : ρ → Bool} {key : ρ → κ} {key' : α → κ'}
    {items : List α} {rows : BusinessStore → List ρ} {checks : Sql DomainError BusinessStore Unit}
    {first : Except DomainError Unit} (hchecks : Sql.Clean checks s first s)
    (hrows : rows s = items.map toRow) (hread : ∀ a ∈ items, read (toRow a) = .ok a)
    (hkey : ∀ a ∈ items, ∀ b ∈ items, key (toRow a) ≤ key (toRow b) ↔ key' a ≤ key' b) :
    Sql.Clean (do checks
                  let found ← Sql.query fun s => orderBy p key (rows s)
                  Sql.lift (found.mapM read)) s
      (do first; .ok (orderBy (fun a => p (toRow a)) key' items)) s := by
  refine Sql.clean_bind_answers hchecks fun _ _ => (Sql.clean_query _ s).bind ?_
  rw [hrows, orderBy_read hread hkey]
  exact Sql.clean_lift _ s

theorem objects_exact (h : HoldsRegister s r) : Sql.Clean businessObjects s (.ok r.objects) s :=
  listing_exact (p := fun _ => true) (Sql.clean_pure () s) h.rows.objects
    (fun o ho => rowToBusinessObject_toRow (h.years.objects o ho))
    fun a ha b hb => stamp_le (h.years.objects a ha).1 (h.years.objects b hb).1

theorem ledgerEntries_exact (h : HoldsRegister s r) (id : String) :
    Sql.Clean (ledgerEntries id) s (r.ledgerEntries id) s :=
  listing_exact (p := fun row : LedgerEntryRow => row.businessObjectId = id) (clean_require h id)
    h.rows.entries (fun e he => rowToLedgerEntry_toRow (h.years.entries e he))
    fun a ha b hb => stamp_le (h.years.entries a ha).1 (h.years.entries b hb).1

theorem contentAttributions_exact (h : HoldsRegister s r) (id : String) :
    Sql.Clean (contentAttributions id) s (r.contentAttributions id) s :=
  listing_exact (p := fun row : ContentAttributionRow => row.businessObjectId = id)
    (clean_require h id) h.rows.attributions
    (fun a ha => rowToContentAttribution_toRow (h.years.attributions a ha))
    fun a ha b hb => stamp_le (h.years.attributions a ha) (h.years.attributions b hb)

theorem businessRelations_exact (h : HoldsRegister s r) (id : String) :
    Sql.Clean (businessRelations id) s (r.businessRelations id) s :=
  listing_exact (p := fun row : BusinessRelationRow =>
      row.sourceBusinessObjectId = id || row.targetBusinessObjectId = id)
    (clean_require h id) h.rows.relations
    (fun b hb => rowToBusinessRelation_toRow (h.years.relations b hb))
    fun a ha b hb => stamp_le (h.years.relations a ha) (h.years.relations b hb)

/-! ## 7. Every call -/

/-- **Without faults the store answers what the register answers**, and keeps holding it where the
    times have four-digit years. -/
theorem call_exact (h : HoldsRegister s r) (c : BusinessCall) :
    ∃ s', Sql.Clean c.operation s (r.answer c).1 s' ∧
      (c.FourDigitYears → HoldsRegister s' (r.answer c).2) := by
  cases c with
  | check record => exact ⟨s, check_exact h record, fun _ => h⟩
  | insert record => exact insert_exact h record
  | transition id expected nextLifecycle nextApproval updatedAt =>
    exact transition_exact h id expected nextLifecycle nextApproval updatedAt
  | object id => exact ⟨s, clean_businessObject h.rows h.years.objects id, fun _ => h⟩
  | objects => exact ⟨s, objects_exact h, fun _ => h⟩
  | ledgerEntries id => exact ⟨s, ledgerEntries_exact h id, fun _ => h⟩
  | contentAttributions id => exact ⟨s, contentAttributions_exact h id, fun _ => h⟩
  | businessRelations id => exact ⟨s, businessRelations_exact h id, fun _ => h⟩

end HoldsRegister

section Steady

theorem steady_requireBusinessObject (id : String) : Sql.Steady (requireBusinessObject id) := by
  refine (Sql.steady_query _).bind fun known => ?_
  cases known with
  | true => exact Sql.steady_pure ()
  | false => exact Sql.steady_fail _

theorem steady_refuseIf (found : BusinessStore → Bool) (error : DomainError) :
    Sql.Steady (refuseIf found error) := by
  refine (Sql.steady_query _).bind fun duplicate => ?_
  cases duplicate with
  | true => exact Sql.steady_fail _
  | false => exact Sql.steady_pure ()

theorem steady_businessObject (id : String) : Sql.Steady (businessObject id) := by
  refine (Sql.steady_query _).bind fun row => ?_
  cases row with
  | none => exact Sql.steady_pure none
  | some row => exact (Sql.steady_lift _).bind fun _ => Sql.steady_pure _

theorem steady_check (record : LifecycleRecord) : Sql.Steady record.check := by
  cases record with
  | object o =>
    refine (Sql.steady_lift _).bind fun _ => (steady_refuseIf _ _).bind fun _ => ?_
    cases o.externalId with
    | none => exact Sql.steady_pure ()
    | some externalId => exact steady_refuseIf _ _
  | ledgerEntry e =>
    exact (Sql.steady_lift _).bind fun _ => (steady_requireBusinessObject _).bind fun _ =>
      steady_refuseIf _ _
  | attribution a =>
    refine (Sql.steady_lift _).bind fun _ => (steady_requireBusinessObject _).bind fun _ =>
      (Sql.steady_query _).bind fun historyExists => ?_
    cases historyExists with
    | true => exact steady_refuseIf _ _
    | false => exact Sql.steady_fail _
  | relation b =>
    exact (Sql.steady_lift _).bind fun _ => (steady_requireBusinessObject _).bind fun _ =>
      (steady_requireBusinessObject _).bind fun _ => (steady_refuseIf _ _).bind fun _ =>
        steady_refuseIf _ _

theorem steady_transition (id : String) (expected : Nat) (nextLifecycle : BusinessObjectStatus)
    (nextApproval : ApprovalStatus) (updatedAt : DateTime) :
    Sql.Steady (transitionBusinessObject id expected nextLifecycle nextApproval updatedAt) := by
  refine Sql.Steady.transaction ((steady_businessObject id).bind fun found => ?_)
  cases found with
  | none => exact Sql.steady_fail _
  | some current =>
    refine (Sql.steady_lift _).bind fun _ => (Sql.steady_lift _).bind fun revision =>
      (Sql.steady_execute _).bind fun changed => ?_
    split
    · exact Sql.steady_fail _
    · exact Sql.steady_pure _

theorem steady_operation (c : BusinessCall) : Sql.Steady c.operation := by
  cases c with
  | check record => exact steady_check record
  | insert record => exact Sql.steady_statement _
  | transition id expected nextLifecycle nextApproval updatedAt =>
    exact steady_transition id expected nextLifecycle nextApproval updatedAt
  | object id => exact steady_businessObject id
  | objects => exact (Sql.steady_query _).bind fun _ => Sql.steady_lift _
  | ledgerEntries id | contentAttributions id | businessRelations id =>
    exact (steady_requireBusinessObject _).bind fun _ =>
      (Sql.steady_query _).bind fun _ => Sql.steady_lift _

theorem readOnly_listing {α ρ : Type} {checks : Sql DomainError BusinessStore Unit}
    (hchecks : Sql.ReadOnly checks) (rows : BusinessStore → List ρ)
    (read : List ρ → Except DomainError α) :
    Sql.ReadOnly (do checks
                     let found ← Sql.query rows
                     Sql.lift (read found)) :=
  hchecks.bind fun _ => (Sql.readOnly_query _).bind fun _ => Sql.readOnly_lift _

/-- **A call that fails leaves everything as it was.** -/
theorem operation_error {c : BusinessCall} {s s' : BusinessStore} {e : DomainError}
    (h : Sql.Runs c.operation s (.error e) s') : s' = s := by
  cases c with
  | check record => exact record.readOnly_check _ _ _ h
  | insert record => exact Sql.runs_statement_error h
  | transition id expected nextLifecycle nextApproval updatedAt =>
    exact transitionBusinessObject_error h
  | object id => exact readOnly_businessObject id _ _ _ h
  | objects =>
    have hread : Sql.ReadOnly businessObjects :=
      (Sql.readOnly_query _).bind fun _ => Sql.readOnly_lift _
    exact hread _ _ _ h
  | ledgerEntries id | contentAttributions id | businessRelations id =>
    exact readOnly_listing (readOnly_requireBusinessObject id) _ _ _ _ _ h

end Steady

/-- A call answers what the register answers, or passes on the message of a fault and changes
    nothing. -/
inductive RegisterStep (r : Register) (c : BusinessCall) : c.Reply → Register → Prop
  | answered : RegisterStep r c (r.answer c).1 (r.answer c).2
  | failed (message : String) : RegisterStep r c (.error (.database message)) r

theorem Register.after_error (r : Register) (c : BusinessCall) (e : DomainError) :
    r.after c (.error e) = r := by
  cases c <;> rfl

/-- **Whatever a call answers under faults is a step of the register**, which the store goes on to
    hold where the times of what it accepts have four-digit years. -/
theorem call_step {s s' : BusinessStore} {r : Register} {c : BusinessCall} {reply : c.Reply}
    (h : HoldsRegister s r) (hrun : Sql.Runs c.operation s reply s')
    (hyears : ∀ a, reply = .ok a → c.FourDigitYears) :
    ∃ r', RegisterStep r c reply r' ∧ HoldsRegister s' r' := by
  rcases steady_operation c s reply s' hrun with hclean | ⟨message, he⟩
  · obtain ⟨m, hexact, hheld⟩ := call_exact h c
    obtain ⟨rfl, rfl⟩ := hexact.unique hclean
    refine ⟨_, .answered, ?_⟩
    cases hreply : (r.answer c).1 with
    | ok a => exact hheld (hyears a hreply)
    | error e =>
      have hsame : (r.answer c).2 = r := by
        change r.after c (r.answer c).1 = r
        rw [hreply, Register.after_error]
      rw [hreply] at hrun
      rw [hsame, operation_error hrun]
      exact h
  · subst he
    rw [operation_error hrun]
    exact ⟨r, .failed message, h⟩

end MatriXpost
