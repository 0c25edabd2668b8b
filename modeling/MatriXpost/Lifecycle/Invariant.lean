/-
  File:      MatriXpost/Lifecycle/Invariant.lean
  Subject:   WHAT HOLDS OF THE LIFECYCLE TABLES in every reachable state.

  * `LifecycleInvariant` names what is owed: unique ids and external ids, references that lead
    somewhere, positive amounts in a currency, no relation of an object to itself, safe attributes;
  * `lifecycleStep_ledger`, `lifecycleStep_attributions`, `lifecycleStep_relations` and
    `lifecycleStep_objects` say for each table what a step does to it; the references of a row
    stay good because no step takes an object or a history record away (`lifecycleStep_known`);
  * **`lifecycle_invariants`**: the invariant holds after every run, an accepted insert puts its
    row, rows of the three append-only tables stay, and a rejected operation changes nothing.
    `insert_run`: a whole insert is a run.
-/
import MatriXpost.Lifecycle.Run

namespace MatriXpost

/-! ## 1. What is owed -/

/-- The attributes of a column are written as attributes are, and each of them is safe. -/
def SafeColumn (column : Json) : Prop :=
  ∃ attributes : Attributes, column = attributes.toJson ∧
    ∀ e ∈ attributes.entries, SafeAttribute e.1 e.2

/-- An object with this id exists. -/
def BusinessStore.HasObject (s : BusinessStore) (id : String) : Prop :=
  ∃ row ∈ s.businessObjects.rows, row.id = id

/-- A history record with this id exists. -/
def BusinessStore.HasHistory (s : BusinessStore) (id : String) : Prop :=
  ∃ row ∈ s.publication.history.rows, row.id = id

/-- The invariants of the four tables. -/
structure LifecycleInvariant (s : BusinessStore) : Prop where
  objectIds : (s.businessObjects.rows.map (·.id)).Nodup
  externalIds : ∀ row ∈ s.businessObjects.rows, ∀ other ∈ s.businessObjects.rows,
    row.externalId.isSome = true → other.kind = row.kind → other.externalId = row.externalId →
    other = row
  objectAttributes : ∀ row ∈ s.businessObjects.rows, SafeColumn row.attributesJson
  ledgerIds : (s.ledgerEntries.rows.map (·.id)).Nodup
  ledgerObjects : ∀ row ∈ s.ledgerEntries.rows, s.HasObject row.businessObjectId
  ledgerAmounts : ∀ row ∈ s.ledgerEntries.rows, 0 < row.amountMinor ∧ IsCurrencyCode row.currency
  attributionPairs :
    (s.contentAttributions.rows.map fun row => (row.businessObjectId, row.historyId)).Nodup
  attributionReferences : ∀ row ∈ s.contentAttributions.rows,
    s.HasObject row.businessObjectId ∧ s.HasHistory row.historyId
  relationIds : (s.businessRelations.rows.map (·.id)).Nodup
  relationTriples : (s.businessRelations.rows.map fun row =>
    (row.sourceBusinessObjectId, row.targetBusinessObjectId, row.relationType)).Nodup
  relationObjects : ∀ row ∈ s.businessRelations.rows,
    s.HasObject row.sourceBusinessObjectId ∧ s.HasObject row.targetBusinessObjectId
  relationSelf : ∀ row ∈ s.businessRelations.rows,
    row.sourceBusinessObjectId ≠ row.targetBusinessObjectId
  relationAttributes : ∀ row ∈ s.businessRelations.rows, SafeColumn row.attributesJson

/-! ## 2. Each table over a step -/

theorem hasObject_iff {s : BusinessStore} {id : String} :
    s.HasObject id ↔ ∃ row, s.businessObjects.find? id = some row := by
  simp only [BusinessStore.HasObject, Table.find?_eq_some]

theorem hasHistory_iff {s : BusinessStore} {id : String} :
    s.HasHistory id ↔ ∃ row, s.publication.history.find? id = some row := by
  simp only [BusinessStore.HasHistory, Table.find?_eq_some]

section Steps
variable {w w' : LifecycleWorld} {e : Nat × LifecycleEvent}

/-- **No step takes an object or a history record away.** -/
theorem lifecycleStep_known (h : LifecycleStep w e w') :
    (∀ id, w.store.HasObject id → w'.store.HasObject id) ∧
      ∀ id, w.store.HasHistory id → w'.store.HasHistory id := by
  refine ⟨fun id hobject => ?_, fun id hhistory => ?_⟩
  · obtain ⟨row, hrow⟩ := hasObject_iff.mp hobject
    obtain ⟨row', hrow', -⟩ := lifecycleStep_descends h hrow
    exact hasObject_iff.mpr ⟨row', hrow'⟩
  · obtain ⟨row, hrow, hid⟩ := hhistory
    refine ⟨row, ?_, hid⟩
    cases lifecycleStep_cases h with
    | same _ _ hs => exact hs ▸ hrow
    | inserted record _ _ hins =>
      rw [(insertRow_ok hins).publication]
      exact hrow
    | advanced k nextLifecycle nextApproval updatedAt object old current _ _ _ _ hs =>
      rw [hs]
      exact hrow
    | publication event p rows _ hrows hs =>
      rw [hs]
      show row ∈ p.history.rows
      rw [hrows]
      exact List.mem_append_left rows hrow

/-- What a step does to the ledger: nothing, or one valid entry of an object that exists. -/
theorem lifecycleStep_ledger (hv : w.PendingValid) (h : LifecycleStep w e w') :
    w'.store.ledgerEntries = w.store.ledgerEntries ∨
      ∃ entry : LedgerEntry, entry.validate = .ok () ∧
        w.store.HasObject entry.businessObjectId ∧
        w'.store.ledgerEntries.rows = w.store.ledgerEntries.rows ++ [entry.toRow] := by
  cases lifecycleStep_cases h with
  | same _ _ hs => exact .inl (by rw [hs])
  | inserted record _ hpending hins =>
    rcases (insertRow_ok hins).ledger with hsame | ⟨entry, rfl, hobject, hinsert⟩
    · exact .inl hsame
    · exact .inr ⟨entry, hv _ hpending, hasObject_iff.mpr hobject,
        (Table.insert_eq_some hinsert).2⟩
  | advanced k nextLifecycle nextApproval updatedAt object old current _ _ _ _ hs =>
    exact .inl (by rw [hs]; rfl)
  | publication event p rows _ _ hs => exact .inl (by rw [hs])

/-- What a step does to the attributions: nothing, or one of an object and a record that exist. -/
theorem lifecycleStep_attributions (h : LifecycleStep w e w') :
    w'.store.contentAttributions = w.store.contentAttributions ∨
      ∃ attribution : ContentAttribution, w.store.HasObject attribution.businessObjectId ∧
        w.store.HasHistory attribution.historyId ∧
        w'.store.contentAttributions.rows =
          w.store.contentAttributions.rows ++ [attribution.toRow] := by
  cases lifecycleStep_cases h with
  | same _ _ hs => exact .inl (by rw [hs])
  | inserted record _ _ hins =>
    rcases (insertRow_ok hins).attributions with
      hsame | ⟨attribution, rfl, hobject, hhistory, hinsert⟩
    · exact .inl hsame
    · exact .inr ⟨attribution, hasObject_iff.mpr hobject, hasHistory_iff.mpr hhistory,
        (Table.insert_eq_some hinsert).2⟩
  | advanced k nextLifecycle nextApproval updatedAt object old current _ _ _ _ hs =>
    exact .inl (by rw [hs]; rfl)
  | publication event p rows _ _ hs => exact .inl (by rw [hs])

/-- What a step does to the relations: nothing, or a valid one with a new triple, between objects
    that exist. -/
theorem lifecycleStep_relations (hv : w.PendingValid) (h : LifecycleStep w e w') :
    w'.store.businessRelations = w.store.businessRelations ∨
      ∃ relation : BusinessRelation, relation.validate = .ok () ∧
        w.store.HasObject relation.sourceBusinessObjectId ∧
        w.store.HasObject relation.targetBusinessObjectId ∧
        (∀ other ∈ w.store.businessRelations.rows, other.triple ≠ relation.toRow.triple) ∧
        w'.store.businessRelations.rows = w.store.businessRelations.rows ++ [relation.toRow] := by
  cases lifecycleStep_cases h with
  | same _ _ hs => exact .inl (by rw [hs])
  | inserted record _ hpending hins =>
    rcases (insertRow_ok hins).relations with
      hsame | ⟨relation, rfl, hsource, htarget, hunique, hinsert⟩
    · exact .inl hsame
    · exact .inr ⟨relation, hv _ hpending, hasObject_iff.mpr hsource, hasObject_iff.mpr htarget,
        hunique, (Table.insert_eq_some hinsert).2⟩
  | advanced k nextLifecycle nextApproval updatedAt object old current _ _ _ _ hs =>
    exact .inl (by rw [hs]; rfl)
  | publication event p rows _ _ hs => exact .inl (by rw [hs])

/-- What a step does to the objects: each row after it descends from a row before, or there is one
    more, of a valid object under an external id that no object of its kind has. -/
theorem lifecycleStep_objects (hv : w.PendingValid) (h : LifecycleStep w e w') :
    (∀ row' ∈ w'.store.businessObjects.rows, ∃ row ∈ w.store.businessObjects.rows,
      Descends row row') ∨
    ∃ object : BusinessObject, object.validate = .ok () ∧
      w'.store.businessObjects.rows = w.store.businessObjects.rows ++ [object.toRow] ∧
      ∀ x, object.externalId = some x → ∀ other ∈ w.store.businessObjects.rows,
        other.kind = object.kind → other.externalId ≠ some x := by
  have hsame : w'.store.businessObjects = w.store.businessObjects →
      ∀ row' ∈ w'.store.businessObjects.rows, ∃ row ∈ w.store.businessObjects.rows,
        Descends row row' := by
    intro hs row' hrow'
    exact ⟨row', hs ▸ hrow', .refl row'⟩
  cases lifecycleStep_cases h with
  | same _ _ hs => exact .inl (hsame (by rw [hs]))
  | inserted record _ hpending hins =>
    rcases (insertRow_ok hins).objects with hobjects | ⟨object, rfl, hinsert, hunique⟩
    · exact .inl (hsame hobjects)
    · exact .inr ⟨object, hv _ hpending, (Table.insert_eq_some hinsert).2, hunique⟩
  | advanced k nextLifecycle nextApproval updatedAt object old current _ hold hread hlegal hs =>
    refine .inl fun row' hrow' => ?_
    have hfind : w'.store.businessObjects.find? row'.id = _ := hs ▸ find?_advance row'.id
    rw [Table.find?_of_mem hrow'] at hfind
    obtain ⟨row, hrow, he⟩ := Option.map_eq_some_iff.mp hfind.symm
    refine ⟨row, Table.find?_mem hrow, ?_⟩
    by_cases hid : row'.id = k
    · rw [hid, hold] at hrow
      obtain rfl := Option.some.inj hrow
      rw [if_pos hid] at he
      exact he ▸ descends_advanced updatedAt hread hlegal
    · rw [if_neg hid] at he
      exact he ▸ .refl row
  | publication event p rows _ _ hs => exact .inl (hsame (by rw [hs]))

end Steps

/-! ## 3. The invariant over a step -/

/-- What holds of every row of a table that a step leaves alone or adds one row to, holds after the
    step if it holds of the row added. -/
theorem forall_rows_of_append {ρ : Type} {rows rows' : List ρ} {P P' : ρ → Prop}
    (hold : ∀ row ∈ rows, P row) (hmono : ∀ row, P row → P' row)
    (h : rows' = rows ∨ ∃ row, P' row ∧ rows' = rows ++ [row]) : ∀ row ∈ rows', P' row := by
  rcases h with rfl | ⟨row, hrow, rfl⟩
  · exact fun r hr => hmono r (hold r hr)
  · intro r hr
    rcases List.mem_append.mp hr with hr | hr
    · exact hmono r (hold r hr)
    · exact List.mem_singleton.mp hr ▸ hrow

section Invariant
variable {w w' : LifecycleWorld} {e : Nat × LifecycleEvent}

theorem objects_step (hv : w.PendingValid) (hI : LifecycleInvariant w.store)
    (h : LifecycleStep w e w') :
    (∀ row ∈ w'.store.businessObjects.rows, ∀ other ∈ w'.store.businessObjects.rows,
      row.externalId.isSome = true → other.kind = row.kind → other.externalId = row.externalId →
      other = row) ∧
    ∀ row ∈ w'.store.businessObjects.rows, SafeColumn row.attributesJson := by
  rcases lifecycleStep_objects hv h with hdesc | ⟨object, hvalid, hrows, hunique⟩
  · refine ⟨fun row hrow other hother hsome hkind hexternal => ?_, fun row hrow => ?_⟩
    · obtain ⟨old, hold, hd⟩ := hdesc row hrow
      obtain ⟨old', hold', hd'⟩ := hdesc other hother
      have hsame : old' = old := hI.externalIds old hold old' hold' (hd.externalId ▸ hsome)
        (by rw [← hd'.kind, hkind, hd.kind]) (by rw [← hd'.externalId, hexternal, hd.externalId])
      refine Table.eq_of_key hother hrow ?_
      rw [hd'.id, hd.id, hsame]
    · obtain ⟨old, hold, hd⟩ := hdesc row hrow
      rw [hd.attributesJson]
      exact hI.objectAttributes old hold
  · rw [hrows]
    refine ⟨fun row hrow other hother hsome hkind hexternal => ?_, ?_⟩
    · obtain ⟨x, hx⟩ := Option.isSome_iff_exists.mp hsome
      rcases List.mem_append.mp hrow with hrow | hrow <;>
        rcases List.mem_append.mp hother with hother | hother
      · exact hI.externalIds row hrow other hother hsome hkind hexternal
      · -- `other` is the new row, and `row` held its external id already.
        obtain rfl := List.mem_singleton.mp hother
        exact absurd hx (hunique x (hexternal.trans hx) row hrow hkind.symm)
      · obtain rfl := List.mem_singleton.mp hrow
        exact absurd (hexternal.trans hx) (hunique x hx other hother hkind)
      · rw [List.mem_singleton.mp hrow, List.mem_singleton.mp hother]
    · refine forall_rows_of_append hI.objectAttributes (fun _ hrow => hrow) (.inr ⟨_, ?_, rfl⟩)
      exact ⟨object.attributes, rfl, (BusinessObject.validate_ok hvalid).2⟩

theorem ledger_step (hv : w.PendingValid) (hI : LifecycleInvariant w.store)
    (h : LifecycleStep w e w') :
    ∀ row ∈ w'.store.ledgerEntries.rows, w'.store.HasObject row.businessObjectId ∧
      0 < row.amountMinor ∧ IsCurrencyCode row.currency := by
  obtain ⟨hobjects, -⟩ := lifecycleStep_known h
  refine forall_rows_of_append (P := fun row => w.store.HasObject row.businessObjectId ∧
    0 < row.amountMinor ∧ IsCurrencyCode row.currency)
    (fun row hrow => ⟨hI.ledgerObjects row hrow, hI.ledgerAmounts row hrow⟩)
    (fun row hrow => ⟨hobjects _ hrow.1, hrow.2⟩) ?_
  rcases lifecycleStep_ledger hv h with hsame | ⟨entry, hvalid, hobject, hrows⟩
  · exact .inl (by rw [hsame])
  · exact .inr ⟨entry.toRow, ⟨hobjects _ hobject, LedgerEntry.validate_ok hvalid⟩, hrows⟩

theorem attributions_step (hI : LifecycleInvariant w.store) (h : LifecycleStep w e w') :
    ∀ row ∈ w'.store.contentAttributions.rows,
      w'.store.HasObject row.businessObjectId ∧ w'.store.HasHistory row.historyId := by
  obtain ⟨hobjects, hhistory⟩ := lifecycleStep_known h
  refine forall_rows_of_append hI.attributionReferences
    (fun row hrow => ⟨hobjects _ hrow.1, hhistory _ hrow.2⟩) ?_
  rcases lifecycleStep_attributions h with hsame | ⟨attribution, hobject, hrecord, hrows⟩
  · exact .inl (by rw [hsame])
  · exact .inr ⟨attribution.toRow, ⟨hobjects _ hobject, hhistory _ hrecord⟩, hrows⟩

theorem relations_step (hv : w.PendingValid) (hI : LifecycleInvariant w.store)
    (h : LifecycleStep w e w') :
    (∀ row ∈ w'.store.businessRelations.rows,
      (w'.store.HasObject row.sourceBusinessObjectId ∧
        w'.store.HasObject row.targetBusinessObjectId) ∧
      row.sourceBusinessObjectId ≠ row.targetBusinessObjectId ∧ SafeColumn row.attributesJson) ∧
    (w'.store.businessRelations.rows.map BusinessRelationRow.triple).Nodup := by
  obtain ⟨hobjects, -⟩ := lifecycleStep_known h
  refine ⟨forall_rows_of_append (P := fun row => (w.store.HasObject row.sourceBusinessObjectId ∧
      w.store.HasObject row.targetBusinessObjectId) ∧
      row.sourceBusinessObjectId ≠ row.targetBusinessObjectId ∧ SafeColumn row.attributesJson)
    (fun row hrow => ⟨hI.relationObjects row hrow, hI.relationSelf row hrow,
      hI.relationAttributes row hrow⟩)
    (fun row hrow => ⟨⟨hobjects _ hrow.1.1, hobjects _ hrow.1.2⟩, hrow.2⟩) ?_, ?_⟩
  · rcases lifecycleStep_relations hv h with
      hsame | ⟨relation, hvalid, hsource, htarget, -, hrows⟩
    · exact .inl (by rw [hsame])
    · obtain ⟨hself, hsafe⟩ := BusinessRelation.validate_ok hvalid
      exact .inr ⟨relation.toRow, ⟨⟨hobjects _ hsource, hobjects _ htarget⟩, hself,
        relation.attributes, rfl, hsafe⟩, hrows⟩
  · rcases lifecycleStep_relations hv h with hsame | ⟨relation, -, -, -, hunique, hrows⟩
    · rw [hsame]
      exact hI.relationTriples
    · rw [hrows, List.map_append, List.map_singleton, List.nodup_append]
      refine ⟨hI.relationTriples, List.nodup_singleton _, fun a ha b hb hab => ?_⟩
      obtain ⟨other, hother, rfl⟩ := List.mem_map.mp ha
      exact hunique other hother (hab.trans (List.mem_singleton.mp hb))

/-- **Every step keeps the invariant.** -/
theorem lifecycleInvariant_step (hv : w.PendingValid) (hI : LifecycleInvariant w.store)
    (h : LifecycleStep w e w') : LifecycleInvariant w'.store where
  objectIds := w'.store.businessObjects.nodup
  externalIds := (objects_step hv hI h).1
  objectAttributes := (objects_step hv hI h).2
  ledgerIds := w'.store.ledgerEntries.nodup
  ledgerObjects row hrow := (ledger_step hv hI h row hrow).1
  ledgerAmounts row hrow := (ledger_step hv hI h row hrow).2
  attributionPairs := w'.store.contentAttributions.nodup
  attributionReferences := attributions_step hI h
  relationIds := w'.store.businessRelations.nodup
  relationTriples := (relations_step hv hI h).2
  relationObjects row hrow := ((relations_step hv hI h).1 row hrow).1
  relationSelf row hrow := ((relations_step hv hI h).1 row hrow).2.1
  relationAttributes row hrow := ((relations_step hv hI h).1 row hrow).2.2

end Invariant

theorem lifecycleInvariant_initial : LifecycleInvariant .initial where
  objectIds := List.nodup_nil
  externalIds := nofun
  objectAttributes := nofun
  ledgerIds := List.nodup_nil
  ledgerObjects := nofun
  ledgerAmounts := nofun
  attributionPairs := List.nodup_nil
  attributionReferences := nofun
  relationIds := List.nodup_nil
  relationTriples := List.nodup_nil
  relationObjects := nofun
  relationSelf := nofun
  relationAttributes := nofun

/-! ## 4. Runs -/

section Runs
variable {events later : List (Nat × LifecycleEvent)} {w w' : LifecycleWorld}

theorem lifecycleInvariant_run (h : Trace LifecycleStep .initial events w) :
    LifecycleInvariant w.store :=
  h.invariant_events (I := fun _ w => LifecycleInvariant w.store) lifecycleInvariant_initial
    fun _ _ _ _ ht hI hstep => lifecycleInvariant_step (pendingValid_run ht) hI hstep

/-- A whole insert, its checks and its INSERT one after the other, is a run. -/
theorem insert_run (n : Nat) {record : LifecycleRecord} {s' : BusinessStore}
    {reply : Except DomainError Unit} (h : Sql.Runs record.insert w.store reply s') :
    ∃ events, Trace LifecycleStep w events ⟨s', w.pending, w.jobs⟩ := by
  rw [LifecycleRecord.insert_eq] at h
  have hinsert {s : BusinessStore} (hcheck : Sql.Runs record.check w.store (.ok ()) s)
      (hstatement : Sql.Runs (Sql.statement record.insertRow) s reply s') :
      Trace LifecycleStep w [(n, .check record (.ok ())), (n, .insert record reply)]
        ⟨s', w.pending, w.jobs⟩ :=
    .cons (.checked hcheck) (.single (.insert [] w.pending rfl hstatement))
  cases reply with
  | ok u =>
    obtain ⟨u', s, hcheck, hstatement⟩ := Sql.runs_bind_ok h
    exact ⟨_, hinsert hcheck hstatement⟩
  | error e =>
    rcases Sql.runs_bind_error h with hcheck | ⟨u', s, hcheck, hstatement⟩
    · exact ⟨_, .single (.refused (n := n) hcheck)⟩
    · exact ⟨_, hinsert hcheck hstatement⟩

/-- The rows of the three append-only tables. -/
structure KeepsRows (s s' : BusinessStore) : Prop where
  ledger : ∀ row ∈ s.ledgerEntries.rows, row ∈ s'.ledgerEntries.rows
  attributions : ∀ row ∈ s.contentAttributions.rows, row ∈ s'.contentAttributions.rows
  relations : ∀ row ∈ s.businessRelations.rows, row ∈ s'.businessRelations.rows

theorem keepsRows_step {e : Nat × LifecycleEvent} (hv : w.PendingValid)
    (h : LifecycleStep w e w') : KeepsRows w.store w'.store where
  ledger row hrow := by
    rcases lifecycleStep_ledger hv h with hsame | ⟨entry, -, -, hrows⟩
    · exact hsame ▸ hrow
    · exact hrows ▸ List.mem_append_left _ hrow
  attributions row hrow := by
    rcases lifecycleStep_attributions h with hsame | ⟨attribution, -, -, hrows⟩
    · exact hsame ▸ hrow
    · exact hrows ▸ List.mem_append_left _ hrow
  relations row hrow := by
    rcases lifecycleStep_relations hv h with hsame | ⟨relation, -, -, -, -, hrows⟩
    · exact hsame ▸ hrow
    · exact hrows ▸ List.mem_append_left _ hrow

theorem keepsRows_run (hv : w.PendingValid) (h : Trace LifecycleStep w later w') :
    KeepsRows w.store w'.store := by
  refine (h.invariant (I := fun w' => w'.PendingValid ∧ KeepsRows w.store w'.store)
    ⟨hv, fun _ hrow => hrow, fun _ hrow => hrow, fun _ hrow => hrow⟩ ?_).2
  rintro w₁ e w₂ ⟨hv₁, hkeep⟩ hstep
  have hkeep' := keepsRows_step hv₁ hstep
  exact ⟨lifecycleStep_pending hv₁ hstep, fun row hrow => hkeep'.ledger row (hkeep.ledger row hrow),
    fun row hrow => hkeep'.attributions row (hkeep.attributions row hrow),
    fun row hrow => hkeep'.relations row (hkeep.relations row hrow)⟩

/-- **An accepted INSERT puts its row.** -/
theorem lifecycleStep_inserted {n : Nat} {record : LifecycleRecord}
    (h : LifecycleStep w (n, .insert record (.ok ())) w') : record.InTable w'.store := by
  cases h with
  | insert before after hpending h => exact inTable_of_insertRow (Sql.runs_statement_ok.mp h)

/-- A step of a lifecycle operation that was rejected. -/
def LifecycleEvent.rejected : LifecycleEvent → Bool
  | .check _ (.error _) => true
  | .insert _ (.error _) => true
  | .read _ (.error _) => true
  | .transition _ _ _ _ _ (.error _) => true
  | _ => false

/-- **A rejected step changes nothing.** -/
theorem lifecycleStep_rejected {e : Nat × LifecycleEvent} (h : LifecycleStep w e w')
    (hrejected : e.2.rejected = true) : w'.store = w.store := by
  cases lifecycleStep_cases h with
  | same _ _ hs => exact hs
  | inserted record he =>
    rw [he] at hrejected
    cases hrejected
  | advanced k nextLifecycle nextApproval updatedAt object old current he =>
    rw [he] at hrejected
    cases hrejected
  | publication event p rows he =>
    rw [he] at hrejected
    cases hrejected

/-- **The lifecycle store keeps its invariants**, through every run from an empty database, of
    operations with any arguments, of any clients, in any order and beside any steps of the
    publication queue. Every accepted INSERT puts the row of its record. In every later state the
    rows of the ledger, the attributions and the relations are still there, unchanged. Every
    rejected step leaves the store as it was, and so does every rejected operation as a whole. -/
theorem lifecycle_invariants (h : Trace LifecycleStep .initial events w)
    (hlater : Trace LifecycleStep w later w') :
    LifecycleInvariant w.store ∧ KeepsRows w.store w'.store ∧
    (∀ n record w₁, LifecycleStep w (n, .insert record (.ok ())) w₁ → record.InTable w₁.store) ∧
    (∀ e w₁, LifecycleStep w e w₁ → e.2.rejected = true → w₁.store = w.store) ∧
    (∀ record s e, Sql.Runs (LifecycleRecord.insert record) w.store (.error e) s → s = w.store) ∧
    ∀ id expected nextLifecycle nextApproval updatedAt s e,
      Sql.Runs (transitionBusinessObject id expected nextLifecycle nextApproval updatedAt) w.store
        (.error e) s → s = w.store :=
  ⟨lifecycleInvariant_run h, keepsRows_run (pendingValid_run h) hlater,
    fun _ _ _ hstep => lifecycleStep_inserted hstep,
    fun _ _ hstep hrejected => lifecycleStep_rejected hstep hrejected,
    fun _ _ _ hinsert => LifecycleRecord.insert_error hinsert,
    fun _ _ _ _ _ _ _ htransition => transitionBusinessObject_error htransition⟩

end Runs

/-! ## 5. A run that fills the four tables -/

/-- What the whole insert of a record leaves. -/
def BusinessStore.afterInsert (s : BusinessStore) (record : LifecycleRecord) : BusinessStore :=
  (record.insert ⟨s, []⟩).2.store

/-- The records are accepted one after the other. -/
def BusinessStore.acceptsAll (s : BusinessStore) : List LifecycleRecord → Bool
  | [] => true
  | record :: rest =>
    decide ((record.insert ⟨s, []⟩).1 = .ok ()) && (s.afterInsert record).acceptsAll rest

theorem inserts_run {records : List LifecycleRecord} {s : BusinessStore}
    (h : s.acceptsAll records = true) : ∃ events, Trace LifecycleStep ⟨s, [], []⟩ events
      ⟨records.foldl BusinessStore.afterInsert s, [], []⟩ := by
  induction records generalizing s with
  | nil => exact ⟨[], .nil⟩
  | cons record rest ih =>
    obtain ⟨haccepted, hrest⟩ := Bool.and_eq_true_iff.mp h
    have hrun := Sql.runs_of_reply (of_decide_eq_true haccepted)
    obtain ⟨events, hfirst⟩ := insert_run (w := ⟨s, [], []⟩) 1 hrun
    obtain ⟨others, hothers⟩ := ih hrest
    exact ⟨events ++ others, hfirst.append hothers⟩

/-- A record of the history. -/
def sampleHistory : HistoryRecord :=
  historyRecord "dispatch-history" 1 sampleRequest .published sampleNow none

/-- The database with that record alone. -/
@[irreducible] def samplePublished : BusinessStore :=
  { BusinessStore.initial with publication := (appendHistory sampleHistory ⟨.initial, []⟩).2.store }

def sampleEntry : LedgerEntry where
  id := "entry-1"
  businessObjectId := "asset-1"
  direction := .expense
  category := "repair"
  amountMinor := 1250
  currency := "EUR"
  occurredAt := sampleNow
  approvalStatus := .pending
  counterparty := none
  reference := none
  description := none
  createdAt := sampleNow

def sampleAttribution : ContentAttribution := ⟨"asset-1", "dispatch-history-1", sampleNow⟩

def sampleRelation : BusinessRelation :=
  ⟨"relation-1", "asset-1", "asset-2", "contains", sampleAttributes, sampleNow⟩

/-- Two objects, and a row about them in each of the other tables. -/
def sampleRecords : List LifecycleRecord :=
  [.object sampleObject, .object { sampleObject with id := "asset-2", externalId := none },
    .ledgerEntry sampleEntry, .attribution sampleAttribution, .relation sampleRelation]

@[irreducible] def sampleFilled : BusinessStore :=
  sampleRecords.foldl BusinessStore.afterInsert samplePublished

@[irreducible] def sampleActivated : BusinessStore :=
  (transitionBusinessObject "asset-1" 0 .active .approved sampleNow ⟨sampleFilled, []⟩).2.store

theorem sample_filled_replies :
    (appendHistory sampleHistory ⟨.initial, []⟩).1 = .ok () ∧
    samplePublished.acceptsAll sampleRecords = true ∧
    (transitionBusinessObject "asset-1" 0 .active .approved sampleNow ⟨sampleFilled, []⟩).1 =
      .ok sampleActiveObject ∧
    sampleFilled.ledgerEntries.rows.map (·.id) = ["entry-1"] ∧
    sampleFilled.contentAttributions.rows.map (fun row => (row.businessObjectId, row.historyId)) =
      [("asset-1", "dispatch-history-1")] ∧
    sampleFilled.businessRelations.rows.map (·.id) = ["relation-1"] := by
  unfold sampleFilled samplePublished
  decide +kernel

/-- An object is transitioned after its rows were put, which stay. -/
theorem lifecycle_invariants_sample : LifecycleInvariant sampleFilled ∧
    KeepsRows sampleFilled sampleActivated ∧
    sampleFilled.ledgerEntries.rows.map (·.id) = ["entry-1"] ∧
    sampleFilled.contentAttributions.rows.map (fun row => (row.businessObjectId, row.historyId)) =
      [("asset-1", "dispatch-history-1")] ∧
    sampleFilled.businessRelations.rows.map (·.id) = ["relation-1"] := by
  obtain ⟨happend, haccepted, htransition, hrows⟩ := sample_filled_replies
  have hpublished : LifecycleStep .initial (0, .publication (.append sampleHistory (.ok ())))
      ⟨samplePublished, [], []⟩ := by
    unfold samplePublished
    exact .publication (.append (Sql.runs_of_reply happend))
  obtain ⟨events, hinserts⟩ := inserts_run haccepted
  have hfilled : Trace LifecycleStep .initial
      ((0, .publication (.append sampleHistory (.ok ()))) :: events) ⟨sampleFilled, [], []⟩ := by
    unfold sampleFilled
    exact .cons hpublished hinserts
  have hlater : Trace LifecycleStep ⟨sampleFilled, [], []⟩
      [(2, .transition "asset-1" 0 .active .approved sampleNow (.ok sampleActiveObject))]
      ⟨sampleActivated, [], []⟩ := by
    unfold sampleActivated
    exact .single (.transition (Sql.runs_of_reply htransition))
  obtain ⟨hinvariant, hkeep, -⟩ := lifecycle_invariants hfilled hlater
  exact ⟨hinvariant, hkeep, hrows⟩

end MatriXpost
