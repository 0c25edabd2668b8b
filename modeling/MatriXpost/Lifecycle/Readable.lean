/-
  File:      MatriXpost/Lifecycle/Readable.lean
  Subject:   WHAT THE LIFECYCLE STORE ACCEPTED READS BACK, for timestamps of the years 0 to 9999.

  The times of a record are any UTC times. Their texts are read back exactly for four-digit years,
  and a numeric offset carries a date of the year 9999 or 0 out of these.

  * `Accepted` is the abstract store, the records accepted so far with their current fields;
    `accepted_rows`: the tables hold exactly its rows, in every run;
  * `ReadsExactly`: every read and listing succeeds and returns these records. It holds of a
    reachable store if and only if all their times have four-digit years (`readsExactly_iff`);
  * **`lifecycle_reads_exact`**: it holds after every run whose accepted writes are given such
    times. `lifecycle_poisoned`: one accepted entry outside them, and the ledger of its object
    cannot be listed.
-/
import MatriXpost.Lifecycle.Invariant
import MatriXpost.Queue.Readable

namespace MatriXpost

open QueueTable (parseTime_toRfc3339 fourDigitYear_of_parseTime)

/-! ## 1. The abstract store -/

/-- The records accepted so far, in the order of their acceptance. -/
structure Accepted where
  objects : List BusinessObject
  entries : List LedgerEntry
  attributions : List ContentAttribution
  relations : List BusinessRelation

namespace Accepted

def empty : Accepted := ⟨[], [], [], []⟩

/-- One more record. -/
def add (a : Accepted) : LifecycleRecord → Accepted
  | .object o => { a with objects := a.objects ++ [o] }
  | .ledgerEntry e => { a with entries := a.entries ++ [e] }
  | .attribution t => { a with attributions := a.attributions ++ [t] }
  | .relation r => { a with relations := a.relations ++ [r] }

/-- The statuses, the revision and the time of change a transition gives an object. -/
def changed (expected : Nat) (nextLifecycle : BusinessObjectStatus) (nextApproval : ApprovalStatus)
    (updatedAt : DateTime) (o : BusinessObject) : BusinessObject :=
  { o with
    lifecycleStatus := nextLifecycle
    approvalStatus := nextApproval
    revision := expected + 1
    updatedAt := updatedAt }

/-- What an event of the run adds or changes. -/
def apply (a : Accepted) : LifecycleEvent → Accepted
  | .insert record (.ok _) => a.add record
  | .transition id expected nextLifecycle nextApproval updatedAt (.ok _) =>
    { a with objects := a.objects.map fun o =>
        if o.id = id then changed expected nextLifecycle nextApproval updatedAt o else o }
  | _ => a

end Accepted

/-- The records a run has accepted, with their current fields. -/
def accepted (events : List (Nat × LifecycleEvent)) : Accepted :=
  events.foldl (fun a e => a.apply e.2) .empty

/-- The tables hold the rows of these records and no others. -/
structure HoldsRows (s : BusinessStore) (a : Accepted) : Prop where
  objects : s.businessObjects.rows = a.objects.map BusinessObject.toRow
  entries : s.ledgerEntries.rows = a.entries.map LedgerEntry.toRow
  attributions : s.contentAttributions.rows = a.attributions.map ContentAttribution.toRow
  relations : s.businessRelations.rows = a.relations.map BusinessRelation.toRow

/-! ## 2. The tables hold what was accepted -/

/-- An INSERT adds the row of its record. -/
theorem holdsRows_add {record : LifecycleRecord} {s s' : BusinessStore} {a : Accepted}
    (hI : HoldsRows s a) (h : record.insertRow s = .ok ((), s')) :
    HoldsRows s' (a.add record) := by
  cases record with
  | object o =>
    obtain ⟨t, hinsert, rfl, -⟩ := insertBusinessObjectRow_ok h
    refine ⟨?_, hI.entries, hI.attributions, hI.relations⟩
    show t.rows = (a.objects ++ [o]).map _
    rw [(Table.insert_eq_some hinsert).2, hI.objects, List.map_append, List.map_singleton]
  | ledgerEntry e =>
    obtain ⟨object, t, -, hinsert, rfl⟩ := insertLedgerEntryRow_ok h
    refine ⟨hI.objects, ?_, hI.attributions, hI.relations⟩
    show t.rows = (a.entries ++ [e]).map _
    rw [(Table.insert_eq_some hinsert).2, hI.entries, List.map_append, List.map_singleton]
  | attribution c =>
    obtain ⟨object, history, t, -, -, hinsert, rfl⟩ := insertContentAttributionRow_ok h
    refine ⟨hI.objects, hI.entries, ?_, hI.relations⟩
    show t.rows = (a.attributions ++ [c]).map _
    rw [(Table.insert_eq_some hinsert).2, hI.attributions, List.map_append, List.map_singleton]
  | relation r =>
    obtain ⟨source, target, t, -, -, -, hinsert, rfl⟩ := insertBusinessRelationRow_ok h
    refine ⟨hI.objects, hI.entries, hI.attributions, ?_⟩
    show t.rows = (a.relations ++ [r]).map _
    rw [(Table.insert_eq_some hinsert).2, hI.relations, List.map_append, List.map_singleton]

/-- A transition rewrites the row of its object. -/
theorem holdsRows_advance {s : BusinessStore} {a : Accepted} {id : String}
    {row : BusinessObjectRow} {nextLifecycle : BusinessObjectStatus}
    {nextApproval : ApprovalStatus} {updatedAt : DateTime} (hI : HoldsRows s a)
    (hrow : s.businessObjects.find? id = some row) :
    (s.advance id nextLifecycle nextApproval updatedAt).businessObjects.rows =
      (a.objects.map fun o => if o.id = id then
        Accepted.changed row.revision nextLifecycle nextApproval updatedAt o else o).map
        BusinessObject.toRow := by
  show (s.businessObjects.update _ (BusinessObjectRow.advanced nextLifecycle nextApproval updatedAt)
    (BusinessObjectRow.advanced_id nextLifecycle nextApproval updatedAt)).rows = _
  rw [Table.update_rows, hI.objects, List.map_map, List.map_map]
  refine List.map_congr_left fun o ho => ?_
  simp only [Function.comp_apply, decide_eq_true_eq]
  have hmem : o.toRow ∈ s.businessObjects.rows := by
    rw [hI.objects]
    exact List.mem_map_of_mem ho
  by_cases hid : o.id = id
  · have hsame : o.toRow = row :=
      Table.eq_of_key hmem (Table.find?_mem hrow) (hid.trans (Table.find?_key hrow).symm)
    rw [if_pos (show o.toRow.id = id from hid), if_pos hid, ← hsame]
    rfl
  · rw [if_neg (show ¬ o.toRow.id = id from hid), if_neg hid]

theorem holdsRows_step {w w' : LifecycleWorld} {e : Nat × LifecycleEvent} {a : Accepted}
    (hI : HoldsRows w.store a) (h : LifecycleStep w e w') :
    HoldsRows w'.store (a.apply e.2) := by
  have hquiet : a.apply e.2 = a → w'.store.businessObjects = w.store.businessObjects →
      w'.store.ledgerEntries = w.store.ledgerEntries →
      w'.store.contentAttributions = w.store.contentAttributions →
      w'.store.businessRelations = w.store.businessRelations →
      HoldsRows w'.store (a.apply e.2) := by
    intro ha h₁ h₂ h₃ h₄
    rw [ha]
    exact ⟨h₁ ▸ hI.objects, h₂ ▸ hI.entries, h₃ ▸ hI.attributions, h₄ ▸ hI.relations⟩
  cases lifecycleStep_cases h with
  | same hwins haccepted hs =>
    refine hquiet ?_ (by rw [hs]) (by rw [hs]) (by rw [hs]) (by rw [hs])
    obtain ⟨n, event⟩ := e
    cases event with
    | insert record reply =>
      cases reply with
      | ok u => cases haccepted
      | error e => rfl
    | transition id expected nextLifecycle nextApproval updatedAt reply =>
      cases reply with
      | ok object => cases hwins
      | error e => rfl
    | check record reply => rfl
    | read id reply => rfl
    | publication event => rfl
  | inserted record he _ hins =>
    rw [he]
    exact holdsRows_add hI hins
  | advanced k nextLifecycle nextApproval updatedAt object row current he hrow _ _ hs =>
    rw [he, hs]
    exact ⟨holdsRows_advance hI hrow, hI.entries, hI.attributions, hI.relations⟩
  | publication event p rows he _ hs =>
    exact hquiet (by rw [he]; rfl) (by rw [hs]) (by rw [hs]) (by rw [hs]) (by rw [hs])

theorem accepted_append (es : List (Nat × LifecycleEvent)) (e : Nat × LifecycleEvent) :
    accepted (es ++ [e]) = (accepted es).apply e.2 := by
  simp [accepted, List.foldl_append]

/-- **The tables hold exactly what a run has accepted.** -/
theorem accepted_rows {events : List (Nat × LifecycleEvent)} {w : LifecycleWorld}
    (h : Trace LifecycleStep .initial events w) : HoldsRows w.store (accepted events) :=
  h.invariant_events (I := fun es w => HoldsRows w.store (accepted es)) ⟨rfl, rfl, rfl, rfl⟩
    fun es _ e _ _ hI hstep => (accepted_append es e).symm ▸ holdsRows_step hI hstep

/-! ## 3. Rows read back -/

/-- The year of a UTC time is one a four-digit text can write, for every time of the record. -/
def LifecycleRecord.FourDigitYears : LifecycleRecord → Prop
  | .object o => o.createdAt.FourDigitYear ∧ o.updatedAt.FourDigitYear
  | .ledgerEntry e => e.occurredAt.FourDigitYear ∧ e.createdAt.FourDigitYear
  | .attribution a => a.createdAt.FourDigitYear
  | .relation r => r.createdAt.FourDigitYear

theorem rowToBusinessObject_toRow {o : BusinessObject}
    (h : (LifecycleRecord.object o).FourDigitYears) : rowToBusinessObject o.toRow = .ok o := by
  unfold rowToBusinessObject BusinessObject.toRow
  simp only [BusinessObjectStatus.fromDb_db, ApprovalStatus.fromDb_db, Attributes.fromJson_toJson,
    parseTime_toRfc3339 h.1, parseTime_toRfc3339 h.2]
  rfl

theorem fourDigitYears_of_rowToBusinessObject {o o' : BusinessObject}
    (h : rowToBusinessObject o.toRow = .ok o') : (LifecycleRecord.object o).FourDigitYears := by
  obtain ⟨lifecycle, -, h⟩ := except_bind_ok.mp h
  obtain ⟨approval, -, h⟩ := except_bind_ok.mp h
  obtain ⟨attributes, -, h⟩ := except_bind_ok.mp h
  obtain ⟨createdAt, hcreated, h⟩ := except_bind_ok.mp h
  obtain ⟨updatedAt, hupdated, h⟩ := except_bind_ok.mp h
  exact ⟨fourDigitYear_of_parseTime hcreated, fourDigitYear_of_parseTime hupdated⟩

theorem rowToLedgerEntry_toRow {e : LedgerEntry}
    (h : (LifecycleRecord.ledgerEntry e).FourDigitYears) : rowToLedgerEntry e.toRow = .ok e := by
  unfold rowToLedgerEntry LedgerEntry.toRow
  simp only [LedgerDirection.fromDb_db, ApprovalStatus.fromDb_db, parseTime_toRfc3339 h.1,
    parseTime_toRfc3339 h.2]
  rfl

theorem fourDigitYears_of_rowToLedgerEntry {e e' : LedgerEntry}
    (h : rowToLedgerEntry e.toRow = .ok e') : (LifecycleRecord.ledgerEntry e).FourDigitYears := by
  obtain ⟨direction, -, h⟩ := except_bind_ok.mp h
  obtain ⟨occurredAt, hoccurred, h⟩ := except_bind_ok.mp h
  obtain ⟨approval, -, h⟩ := except_bind_ok.mp h
  obtain ⟨createdAt, hcreated, h⟩ := except_bind_ok.mp h
  exact ⟨fourDigitYear_of_parseTime hoccurred, fourDigitYear_of_parseTime hcreated⟩

theorem rowToContentAttribution_toRow {a : ContentAttribution}
    (h : (LifecycleRecord.attribution a).FourDigitYears) :
    rowToContentAttribution a.toRow = .ok a := by
  unfold rowToContentAttribution ContentAttribution.toRow
  simp only [parseTime_toRfc3339 h]
  rfl

theorem fourDigitYears_of_rowToContentAttribution {a a' : ContentAttribution}
    (h : rowToContentAttribution a.toRow = .ok a') :
    (LifecycleRecord.attribution a).FourDigitYears := by
  obtain ⟨createdAt, hcreated, h⟩ := except_bind_ok.mp h
  exact fourDigitYear_of_parseTime hcreated

theorem rowToBusinessRelation_toRow {r : BusinessRelation}
    (h : (LifecycleRecord.relation r).FourDigitYears) : rowToBusinessRelation r.toRow = .ok r := by
  unfold rowToBusinessRelation BusinessRelation.toRow
  simp only [Attributes.fromJson_toJson, parseTime_toRfc3339 h]
  rfl

theorem fourDigitYears_of_rowToBusinessRelation {r r' : BusinessRelation}
    (h : rowToBusinessRelation r.toRow = .ok r') :
    (LifecycleRecord.relation r).FourDigitYears := by
  obtain ⟨attributes, -, h⟩ := except_bind_ok.mp h
  obtain ⟨createdAt, hcreated, h⟩ := except_bind_ok.mp h
  exact fourDigitYear_of_parseTime hcreated

/-! ## 4. Listings -/

/-- Without faults the program answers these items, in some order, and changes nothing. -/
def Lists {α : Type} (x : Sql DomainError BusinessStore (List α)) (s : BusinessStore)
    (items : List α) : Prop := ∃ list, Sql.Clean x s (.ok list) s ∧ list.Perm items

section Listing
variable {α ρ κ : Type} [LinearOrder κ] {toRow : α → ρ} {read : ρ → Except DomainError α}
  {good : α → Prop} {p : ρ → Bool} {key : ρ → κ} {items : List α}

/-- Rows that read back are listed, all of them and nothing else. -/
theorem listing_ok (hread : ∀ a, good a → read (toRow a) = .ok a)
    (hgood : ∀ a ∈ items, p (toRow a) = true → good a) :
    ∃ list, (orderBy p key (items.map toRow)).mapM read = .ok list ∧
      list.Perm (items.filter fun a => p (toRow a)) := by
  have hsort : orderBy p key (items.map toRow) =
      ((items.filter fun a => p (toRow a)).insertionSort fun a b =>
        key (toRow a) ≤ key (toRow b)).map toRow := by
    rw [List.map_insertionSort (s := fun a b => key a ≤ key b) _ _ _ fun _ _ _ _ => Iff.rfl,
      orderBy, List.filter_map]
    rfl
  rw [hsort]
  refine ⟨_, mapM_map_ok fun a ha => hread a ?_, List.perm_insertionSort _ _⟩
  obtain ⟨hmem, hp⟩ := List.mem_filter.mp ((List.perm_insertionSort _ _).mem_iff.mp ha)
  exact hgood a hmem hp

/-- **A listing that succeeds has read every row it selects.** -/
theorem listing_good (hbad : ∀ a b, read (toRow a) = .ok b → good a) {list : List α}
    (h : (orderBy p key (items.map toRow)).mapM read = .ok list) :
    ∀ a ∈ items, p (toRow a) = true → good a := by
  intro a ha hp
  have hmem : toRow a ∈ orderBy p key (items.map toRow) :=
    (orderBy_perm p key _).mem_iff.mpr (List.mem_filter.mpr ⟨List.mem_map_of_mem ha, hp⟩)
  obtain ⟨b, hb⟩ := mapM_ok_mem h hmem
  exact hbad a b hb

end Listing

/-! ## 5. Every read is exact -/

/-- Every time of every record has a four-digit year. -/
structure Accepted.FourDigitYears (a : Accepted) : Prop where
  objects : ∀ o ∈ a.objects, (LifecycleRecord.object o).FourDigitYears
  entries : ∀ e ∈ a.entries, (LifecycleRecord.ledgerEntry e).FourDigitYears
  attributions : ∀ t ∈ a.attributions, (LifecycleRecord.attribution t).FourDigitYears
  relations : ∀ r ∈ a.relations, (LifecycleRecord.relation r).FourDigitYears

/-- Every read and every listing of an object that exists succeeds and returns exactly these
    records. -/
structure ReadsExactly (s : BusinessStore) (a : Accepted) : Prop where
  object : ∀ id, Sql.Clean (businessObject id) s (.ok (a.objects.find? fun o => o.id = id)) s
  objects : Lists businessObjects s a.objects
  ledger : ∀ o ∈ a.objects, Lists (ledgerEntries o.id) s
    (a.entries.filter fun e => e.businessObjectId = o.id)
  attributions : ∀ o ∈ a.objects, Lists (contentAttributions o.id) s
    (a.attributions.filter fun t => t.businessObjectId = o.id)
  relations : ∀ o ∈ a.objects, Lists (businessRelations o.id) s
    (a.relations.filter fun r =>
      r.sourceBusinessObjectId = o.id || r.targetBusinessObjectId = o.id)

section Exact
variable {s : BusinessStore} {a : Accepted}

/-- An accepted object is found. -/
theorem find?_toRow (hI : HoldsRows s a) {o : BusinessObject} (ho : o ∈ a.objects) :
    s.businessObjects.find? o.id = some o.toRow :=
  Table.find?_of_mem (r := o.toRow) (by rw [hI.objects]; exact List.mem_map_of_mem ho)

theorem find?_rows (hI : HoldsRows s a) (id : String) :
    s.businessObjects.find? id = (a.objects.find? fun o => o.id = id).map BusinessObject.toRow := by
  unfold Table.find?
  rw [hI.objects, List.find?_map]
  rfl

theorem clean_requireBusinessObject (hI : HoldsRows s a) {o : BusinessObject}
    (ho : o ∈ a.objects) : Sql.Clean (requireBusinessObject o.id) s (.ok ()) s := by
  refine (Sql.clean_query _ s).bind ?_
  rw [find?_toRow hI ho]
  exact Sql.clean_pure () s

theorem clean_businessObject (hI : HoldsRows s a)
    (hyears : ∀ o ∈ a.objects, (LifecycleRecord.object o).FourDigitYears) (id : String) :
    Sql.Clean (businessObject id) s (.ok (a.objects.find? fun o => o.id = id)) s := by
  refine (Sql.clean_query _ s).bind ?_
  rw [find?_rows hI]
  cases hfind : a.objects.find? fun o => o.id = id with
  | none => exact Sql.clean_pure none s
  | some o =>
    have hread := rowToBusinessObject_toRow (hyears o (List.mem_of_find?_eq_some hfind))
    rw [Option.map_some]
    refine Sql.Clean.bind (a := o) ?_ (Sql.clean_pure (some o) s)
    rw [hread]
    exact Sql.clean_lift _ s

/-- The listing part of a read, on rows that read back. -/
theorem lists_of_rows {α ρ κ : Type} [LinearOrder κ] {toRow : α → ρ}
    {read : ρ → Except DomainError α} {good : α → Prop} {p : ρ → Bool} {key : ρ → κ}
    {items : List α} {rows : BusinessStore → List ρ} {checks : Sql DomainError BusinessStore Unit}
    (hchecks : Sql.Clean checks s (.ok ()) s) (hrows : rows s = items.map toRow)
    (hread : ∀ a, good a → read (toRow a) = .ok a) (hgood : ∀ a ∈ items, good a) :
    Lists (do checks
              let found ← Sql.query fun s => orderBy p key (rows s)
              Sql.lift (found.mapM read)) s (items.filter fun a => p (toRow a)) := by
  obtain ⟨list, hlist, hperm⟩ : ∃ list, (orderBy p key (items.map toRow)).mapM read = .ok list ∧
      list.Perm (items.filter fun a => p (toRow a)) :=
    listing_ok hread fun a ha _ => hgood a ha
  refine ⟨list, hchecks.bind ((Sql.clean_query _ s).bind ?_), hperm⟩
  rw [hrows, hlist]
  exact Sql.clean_lift _ s

/-- What a listing that succeeds has read. -/
theorem good_of_lists {α ρ κ : Type} [LinearOrder κ] {toRow : α → ρ}
    {read : ρ → Except DomainError α} {good : α → Prop} {p : ρ → Bool} {key : ρ → κ}
    {items others : List α} {rows : BusinessStore → List ρ}
    {checks : Sql DomainError BusinessStore Unit} (hchecks : Sql.ReadOnly checks)
    (hrows : rows s = items.map toRow) (hbad : ∀ a b, read (toRow a) = .ok b → good a)
    (h : Lists (do checks
                   let found ← Sql.query fun s => orderBy p key (rows s)
                   Sql.lift (found.mapM read)) s others) :
    ∀ a ∈ items, p (toRow a) = true → good a := by
  obtain ⟨list, hclean, -⟩ := h
  obtain ⟨_, s₁, hfirst, h₁⟩ := Sql.runs_bind_ok hclean.runs
  obtain rfl := hchecks _ _ _ hfirst
  obtain ⟨found, s₂, hquery, h₂⟩ := Sql.runs_bind_ok h₁
  obtain ⟨rfl, rfl⟩ := Sql.runs_query_ok.mp hquery
  have hlist := (Sql.runs_lift.mp h₂).1.symm
  rw [hrows] at hlist
  exact listing_good hbad hlist

/-- **Reads are exact if and only if every time of every record has a four-digit year.** -/
theorem readsExactly_iff (hI : HoldsRows s a) (hinv : LifecycleInvariant s) :
    ReadsExactly s a ↔ a.FourDigitYears := by
  constructor
  · intro h
    have hobjects : ∀ o ∈ a.objects, (LifecycleRecord.object o).FourDigitYears := by
      have hall : ∀ o ∈ a.objects, true = true → (LifecycleRecord.object o).FourDigitYears :=
        good_of_lists (p := fun _ => true) (Sql.readOnly_pure ()) hI.objects
          (fun _ _ => fourDigitYears_of_rowToBusinessObject) h.objects
      exact fun o ho => hall o ho rfl
    have hknown : ∀ id, s.HasObject id → ∃ o ∈ a.objects, o.id = id := by
      rintro id ⟨row, hrow, rfl⟩
      rw [hI.objects] at hrow
      obtain ⟨o, ho, rfl⟩ := List.mem_map.mp hrow
      exact ⟨o, ho, rfl⟩
    refine ⟨hobjects, fun e he => ?_, fun t ht => ?_, fun r hr => ?_⟩
    · have hmem : e.toRow ∈ s.ledgerEntries.rows := hI.entries ▸ List.mem_map_of_mem he
      obtain ⟨o, ho, hid⟩ := hknown _ (hinv.ledgerObjects _ hmem)
      have hall : ∀ e ∈ a.entries, decide (e.businessObjectId = o.id) = true →
          (LifecycleRecord.ledgerEntry e).FourDigitYears :=
        good_of_lists (p := fun row : LedgerEntryRow => row.businessObjectId = o.id)
          (readOnly_requireBusinessObject o.id) hI.entries
          (fun _ _ => fourDigitYears_of_rowToLedgerEntry) (h.ledger o ho)
      exact hall e he (decide_eq_true hid.symm)
    · have hmem : t.toRow ∈ s.contentAttributions.rows :=
        hI.attributions ▸ List.mem_map_of_mem ht
      obtain ⟨o, ho, hid⟩ := hknown _ (hinv.attributionReferences _ hmem).1
      have hall : ∀ t ∈ a.attributions, decide (t.businessObjectId = o.id) = true →
          (LifecycleRecord.attribution t).FourDigitYears :=
        good_of_lists (p := fun row : ContentAttributionRow => row.businessObjectId = o.id)
          (readOnly_requireBusinessObject o.id) hI.attributions
          (fun _ _ => fourDigitYears_of_rowToContentAttribution) (h.attributions o ho)
      exact hall t ht (decide_eq_true hid.symm)
    · have hmem : r.toRow ∈ s.businessRelations.rows := hI.relations ▸ List.mem_map_of_mem hr
      obtain ⟨o, ho, hid⟩ := hknown _ (hinv.relationObjects _ hmem).1
      have hall : ∀ r ∈ a.relations, (decide (r.sourceBusinessObjectId = o.id) ||
          decide (r.targetBusinessObjectId = o.id)) = true →
          (LifecycleRecord.relation r).FourDigitYears :=
        good_of_lists (p := fun row : BusinessRelationRow =>
            row.sourceBusinessObjectId = o.id || row.targetBusinessObjectId = o.id)
          (readOnly_requireBusinessObject o.id) hI.relations
          (fun _ _ => fourDigitYears_of_rowToBusinessRelation) (h.relations o ho)
      exact hall r hr (by rw [Bool.or_eq_true]; exact .inl (decide_eq_true hid.symm))
  · intro h
    refine ⟨clean_businessObject hI h.objects, ?_, fun o ho => ?_, fun o ho => ?_, fun o ho => ?_⟩
    · have hlists : Lists businessObjects s (a.objects.filter fun _ => true) :=
        lists_of_rows (p := fun _ => true) (Sql.clean_pure () s) hI.objects
          (fun _ => rowToBusinessObject_toRow) h.objects
      rwa [List.filter_true] at hlists
    · exact lists_of_rows (clean_requireBusinessObject hI ho) hI.entries
        (fun _ => rowToLedgerEntry_toRow) h.entries
    · exact lists_of_rows (clean_requireBusinessObject hI ho) hI.attributions
        (fun _ => rowToContentAttribution_toRow) h.attributions
    · exact lists_of_rows (clean_requireBusinessObject hI ho) hI.relations
        (fun _ => rowToBusinessRelation_toRow) h.relations

end Exact

/-! ## 6. Runs -/

/-- The times an accepted write brings have four-digit years. -/
def LifecycleEvent.FourDigitYears : LifecycleEvent → Prop
  | .insert record (.ok _) => record.FourDigitYears
  | .transition _ _ _ _ updatedAt (.ok _) => updatedAt.FourDigitYear
  | _ => True

theorem fourDigitYears_add {a : Accepted} (h : a.FourDigitYears) {record : LifecycleRecord}
    (hrecord : record.FourDigitYears) : (a.add record).FourDigitYears := by
  have happend {α : Type} {list : List α} {x : α} {good : α → Prop}
      (hlist : ∀ y ∈ list, good y) (hx : good x) : ∀ y ∈ list ++ [x], good y := by
    intro y hy
    rcases List.mem_append.mp hy with hy | hy
    · exact hlist y hy
    · exact (List.mem_singleton.mp hy) ▸ hx
  cases record with
  | object o => exact ⟨happend h.objects hrecord, h.entries, h.attributions, h.relations⟩
  | ledgerEntry e => exact ⟨h.objects, happend h.entries hrecord, h.attributions, h.relations⟩
  | attribution t => exact ⟨h.objects, h.entries, happend h.attributions hrecord, h.relations⟩
  | relation r => exact ⟨h.objects, h.entries, h.attributions, happend h.relations hrecord⟩

/-- **An event within the years keeps the records within them.** -/
theorem fourDigitYears_apply {a : Accepted} (h : a.FourDigitYears) {e : LifecycleEvent}
    (he : e.FourDigitYears) : (a.apply e).FourDigitYears := by
  cases e with
  | insert record reply =>
    cases reply with
    | ok u => exact fourDigitYears_add h he
    | error e => exact h
  | transition id expected nextLifecycle nextApproval updatedAt reply =>
    cases reply with
    | error e => exact h
    | ok object =>
      refine ⟨fun o ho => ?_, h.entries, h.attributions, h.relations⟩
      obtain ⟨old, hold, rfl⟩ := List.mem_map.mp ho
      have hyears := h.objects old hold
      split
      · exact ⟨hyears.1, he⟩
      · exact hyears
  | check record reply => exact h
  | read id reply => exact h
  | publication event => exact h

theorem accepted_fourDigitYears {events : List (Nat × LifecycleEvent)}
    (h : ∀ e ∈ events, e.2.FourDigitYears) : (accepted events).FourDigitYears := by
  induction events using List.reverseRecOn with
  | nil =>
    exact ⟨fun _ ho => absurd ho List.not_mem_nil, fun _ he => absurd he List.not_mem_nil,
      fun _ ht => absurd ht List.not_mem_nil, fun _ hr => absurd hr List.not_mem_nil⟩
  | append_singleton es e ih =>
    rw [accepted_append]
    exact fourDigitYears_apply (ih fun e' he' => h e' (List.mem_append_left _ he'))
      (h e (List.mem_append_right _ (List.mem_singleton_self e)))

/-- **Reads after a run are exact if and only if the accepted times have four-digit years**, in
    every run from an empty database of any clients, in any order and beside any steps of the
    publication queue. So they are exact in every state of a run whose accepted writes bring such
    times. -/
theorem lifecycle_reads_exact {events : List (Nat × LifecycleEvent)} {w : LifecycleWorld}
    (h : Trace LifecycleStep .initial events w) :
    (ReadsExactly w.store (accepted events) ↔ (accepted events).FourDigitYears) ∧
    ((∀ e ∈ events, e.2.FourDigitYears) → ReadsExactly w.store (accepted events)) := by
  have hiff := readsExactly_iff (accepted_rows h) (lifecycleInvariant_run h)
  exact ⟨hiff, fun hyears => hiff.mpr (accepted_fourDigitYears hyears)⟩

theorem lifecycle_reads_exact_sample :
    ReadsExactly sampleActive ⟨[sampleActiveObject], [], [], []⟩ := by
  have hyear : sampleNow.FourDigitYear := by decide
  refine (lifecycle_reads_exact sample_lifecycle).2 fun e he => ?_
  simp only [sampleLifecycle, List.mem_cons, List.not_mem_nil, or_false] at he
  rcases he with rfl | rfl | rfl | rfl
  · trivial
  · exact ⟨hyear, hyear⟩
  · exact hyear
  · trivial

/-! ## 7. An offset out of the years -/

/-- What `9999-12-31T23:59:59-01:00` is in UTC. -/
def poisonedTime : DateTime := ⟨10000, 1, 1, 0, 59, 59, 0, by decide⟩

def poisonedEntry : LedgerEntry where
  id := "entry-1"
  businessObjectId := "asset-1"
  direction := .expense
  category := "repair"
  amountMinor := 1250
  currency := "EUR"
  occurredAt := poisonedTime
  approvalStatus := .pending
  counterparty := none
  reference := none
  description := none
  createdAt := sampleNow

/-- The database after the entry was accepted. -/
@[irreducible] def poisonedStore : BusinessStore :=
  (Sql.statement (LifecycleRecord.ledgerEntry poisonedEntry).insertRow
    (⟨sampleStocked, []⟩ : Db BusinessStore)).2.store

/-- A client inserts an object and an entry of its ledger. -/
def poisonedLifecycle : List (Nat × LifecycleEvent) :=
  [(1, .check (.object sampleObject) (.ok ())), (1, .insert (.object sampleObject) (.ok ())),
    (1, .check (.ledgerEntry poisonedEntry) (.ok ())),
    (1, .insert (.ledgerEntry poisonedEntry) (.ok ()))]

theorem poisoned_lifecycle :
    Trace LifecycleStep .initial poisonedLifecycle ⟨poisonedStore, [], []⟩ := by
  have hreplies :
      ((LifecycleRecord.ledgerEntry poisonedEntry).check
        (⟨sampleStocked, []⟩ : Db BusinessStore)).1 = .ok () ∧
      (Sql.statement (LifecycleRecord.ledgerEntry poisonedEntry).insertRow
        (⟨sampleStocked, []⟩ : Db BusinessStore)).1 = .ok () := by
    unfold sampleStocked
    decide +kernel
  have hcheck : Sql.Runs (LifecycleRecord.ledgerEntry poisonedEntry).check sampleStocked (.ok ())
      sampleStocked := by
    have hrun := Sql.runs_of_reply hreplies.1
    rwa [LifecycleRecord.readOnly_check _ _ _ _ hrun] at hrun
  have hinsert : Sql.Runs (Sql.statement (LifecycleRecord.ledgerEntry poisonedEntry).insertRow)
      sampleStocked (.ok ()) poisonedStore := by
    unfold poisonedStore
    exact Sql.runs_of_reply hreplies.2
  exact .cons (.checked sample_inserted.1)
    (.cons (.insert [] [] rfl sample_inserted.2)
      (.cons (.checked hcheck) (.single (.insert [] [] rfl hinsert))))

/-- **An accepted entry poisons its ledger**: the time it was given is one the parser admits, both
    writes were accepted, and the ledger of the object answers an error. -/
theorem lifecycle_poisoned :
    DateTime.parseFromRfc3339 "9999-12-31T23:59:59-01:00" = some poisonedTime ∧
    Trace LifecycleStep .initial poisonedLifecycle ⟨poisonedStore, [], []⟩ ∧
    (ledgerEntries "asset-1" ⟨poisonedStore, []⟩).1 =
      .error (.corruptState "+10000-01-01T00:59:59+00:00") ∧
    ¬ ReadsExactly poisonedStore (accepted poisonedLifecycle) := by
  have hreply : (ledgerEntries "asset-1" ⟨poisonedStore, []⟩).1 =
      .error (.corruptState "+10000-01-01T00:59:59+00:00") := by
    unfold poisonedStore sampleStocked
    decide +kernel
  refine ⟨by decide +kernel, poisoned_lifecycle, hreply, fun h => ?_⟩
  obtain ⟨list, hclean, -⟩ := h.ledger sampleObject List.mem_cons_self
  have hclean : ledgerEntries "asset-1" ⟨poisonedStore, []⟩ = (.ok list, ⟨poisonedStore, []⟩) :=
    hclean
  rw [hclean] at hreply
  cases hreply

end MatriXpost
