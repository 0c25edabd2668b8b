/-
  File:      MatriXpost/Lifecycle/Chronology.lean
  Subject:   LISTINGS IN TIME. Every listing sorts by the text of a time column; for times of the
             years 0 to 9999 that is the order of the times.

  * `Chronological` says what a listing comes to: it answers if every row it selects can be read,
    it answers these rows and nothing else, and the times of its answer do not decrease;
  * `chronological_of`: whatever sorts by such a column is chronological;
  * `text_order_chronological` assembles the order of texts and the six listings.
-/
import MatriXpost.Lifecycle.Store
import MatriXpost.Store.Histories

namespace MatriXpost

open QueueTable (parseTime parseTime_toRfc3339)

/-! ## 1. One listing -/

/-- The text of a time with a year of four digits. -/
def Stamped (text : String) : Prop :=
  ∃ t : DateTime, t.FourDigitYear ∧ text = DateTime.toRfc3339 t

/-- A listing of `rows`, which may ask first for something `known`: it answers if all of them can
    be read, it answers all of them, and `time` does not decrease along its answer. -/
structure Chronological {σ ρ β : Type} (listing : Sql DomainError σ (List β)) (s : σ)
    (known : Prop) (rows : List ρ) (read : ρ → Except DomainError β) (time : β → DateTime) :
    Prop where
  answers : known → (∀ row ∈ rows, ∃ value, read row = .ok value) →
    ∃ list, Sql.Clean listing s (.ok list) s
  complete : ∀ list s', Sql.Runs listing s (.ok list) s' →
    ∃ sorted : List ρ, sorted.Perm rows ∧
      List.Forall₂ (fun row value => read row = .ok value) sorted list
  ordered : ∀ list s', Sql.Runs listing s (.ok list) s' →
    list.Pairwise fun a b => time a ≤ time b

section Listing
variable {σ ρ β τ : Type} [LinearOrder τ] {s : σ} {known : Prop} {read : ρ → Except DomainError β}
  {time : β → DateTime} {p : ρ → Bool} {text : ρ → String} {tie : ρ → τ}

/-- Texts in order are times in order. -/
theorem time_le_of_key_le (htime : ∀ row value, read row = .ok value →
      parseTime (text row) = .ok (time value))
    {row row' : ρ} {value value' : β} (hstamped : Stamped (text row))
    (hstamped' : Stamped (text row')) (hread : read row = .ok value)
    (hread' : read row' = .ok value')
    (hle : (toLex (text row, tie row) : String ×ₗ τ) ≤ toLex (text row', tie row')) :
    time value ≤ time value' := by
  obtain ⟨t, hyear, ht⟩ := hstamped
  obtain ⟨t', hyear', ht'⟩ := hstamped'
  have hvalue := htime row value hread
  have hvalue' := htime row' value' hread'
  rw [ht, parseTime_toRfc3339 hyear] at hvalue
  rw [ht', parseTime_toRfc3339 hyear'] at hvalue'
  cases hvalue
  cases hvalue'
  rw [← toRfc3339_le hyear hyear', ← ht, ← ht']
  rcases Prod.Lex.toLex_le_toLex.mp hle with hlt | heq
  · exact hlt.le
  · exact heq.1.le

/-- **A listing that sorts by a time column is chronological**, if the column holds texts of the
    years 0 to 9999. -/
theorem chronological_of (checks : Sql DomainError σ Unit) (rows : σ → List ρ) (text : ρ → String)
    (tie : ρ → τ) (hclean : known → Sql.Clean checks s (.ok ()) s)
    (hchecks : Sql.ReadOnly checks)
    (htime : ∀ row value, read row = .ok value → parseTime (text row) = .ok (time value))
    (hstamped : ∀ row ∈ rows s, p row = true → Stamped (text row)) :
    Chronological (do
        checks
        let found ← Sql.query fun s =>
          orderBy p (fun row => (toLex (text row, tie row) : String ×ₗ τ)) (rows s)
        Sql.lift (found.mapM read)) s known ((rows s).filter p) read time := by
  have hperm := orderBy_perm p (fun row => (toLex (text row, tie row) : String ×ₗ τ)) (rows s)
  have hlist : ∀ list s', Sql.Runs (do
        checks
        let found ← Sql.query fun s =>
          orderBy p (fun row => (toLex (text row, tie row) : String ×ₗ τ)) (rows s)
        Sql.lift (found.mapM read)) s (.ok list) s' →
      List.Forall₂ (fun row value => read row = .ok value)
        (orderBy p (fun row => (toLex (text row, tie row) : String ×ₗ τ)) (rows s)) list := by
    intro list s' h
    obtain ⟨_, s₁, hfirst, h₁⟩ := Sql.runs_bind_ok h
    obtain rfl := hchecks _ _ _ hfirst
    obtain ⟨found, s₂, hquery, h₂⟩ := Sql.runs_bind_ok h₁
    obtain ⟨rfl, rfl⟩ := Sql.runs_query_ok.mp hquery
    exact mapM_ok_iff.mp (Sql.runs_lift.mp h₂).1.symm
  refine ⟨?_, ?_, ?_⟩
  · intro hknown hread
    obtain ⟨list, hread⟩ := exists_mapM_ok fun row hrow => hread row (hperm.mem_iff.mp hrow)
    refine ⟨list, (hclean hknown).bind ((Sql.clean_query _ s).bind ?_)⟩
    rw [hread]
    exact Sql.clean_lift _ s
  · intro list s' h
    exact ⟨_, hperm, hlist list s' h⟩
  · intro list s' h
    -- a row of the sorted list is one of those selected, so its column is the text of a time
    have hsorted := List.Pairwise.and_mem.mp (ordered_sorted p
      (fun row => (toLex (text row, tie row) : String ×ₗ τ)) (rows s))
    have hcolumn : ∀ row ∈ orderBy p (fun row => (toLex (text row, tie row) : String ×ₗ τ))
        (rows s), Stamped (text row) := by
      intro row hrow
      obtain ⟨hmem, hp⟩ := List.mem_filter.mp (hperm.mem_iff.mp hrow)
      exact hstamped row hmem hp
    refine pairwise_of_forall₂ (hlist list s' h) hsorted ?_
    intro row row' value value' hrow hrow' hbefore
    obtain ⟨hmem, hmem', hle⟩ := hbefore
    exact time_le_of_key_le htime (hcolumn row hmem) (hcolumn row' hmem') hrow hrow' hle

end Listing

/-! ## 2. The six listings -/

/-- Every time column a listing sorts by holds the text of a time with a year of four digits. -/
structure BusinessStore.Stamped (s : BusinessStore) : Prop where
  history : ∀ row ∈ s.publication.history.rows, MatriXpost.Stamped row.recordedAt
  articleHistory : ∀ row ∈ s.publication.articleHistory.rows, MatriXpost.Stamped row.recordedAt
  objects : ∀ row ∈ s.businessObjects.rows, MatriXpost.Stamped row.createdAt
  entries : ∀ row ∈ s.ledgerEntries.rows, MatriXpost.Stamped row.occurredAt
  attributions : ∀ row ∈ s.contentAttributions.rows, MatriXpost.Stamped row.createdAt
  relations : ∀ row ∈ s.businessRelations.rows, MatriXpost.Stamped row.createdAt

/-- Every listing answers its records in the order of their times. -/
structure ListsChronologically (s : BusinessStore) : Prop where
  history : Chronological history s.publication True s.publication.history.rows rowToHistory
    HistoryRecord.recordedAt
  articleHistory : Chronological articleHistory s.publication True
    s.publication.articleHistory.rows rowToArticleHistory ArticleHistoryRecord.recordedAt
  objects : Chronological businessObjects s True s.businessObjects.rows rowToBusinessObject
    BusinessObject.createdAt
  entries : ∀ id, Chronological (ledgerEntries id) s ((s.businessObjects.find? id).isSome = true)
    (s.ledgerEntries.rows.filter fun row => row.businessObjectId = id) rowToLedgerEntry
    LedgerEntry.occurredAt
  attributions : ∀ id, Chronological (contentAttributions id) s
    ((s.businessObjects.find? id).isSome = true)
    (s.contentAttributions.rows.filter fun row => row.businessObjectId = id)
    rowToContentAttribution ContentAttribution.createdAt
  relations : ∀ id, Chronological (businessRelations id) s
    ((s.businessObjects.find? id).isSome = true)
    (s.businessRelations.rows.filter fun row =>
      row.sourceBusinessObjectId = id || row.targetBusinessObjectId = id)
    rowToBusinessRelation BusinessRelation.createdAt

theorem requireBusinessObject_clean {s : BusinessStore} {id : String}
    (h : (s.businessObjects.find? id).isSome = true) :
    Sql.Clean (requireBusinessObject id) s (.ok ()) s := by
  refine (Sql.clean_query _ s).bind ?_
  rw [if_pos h]
  exact Sql.clean_pure () s

/-- What each reader makes of the column it is sorted by. -/
theorem rowToBusinessObject_createdAt {row : BusinessObjectRow} {object : BusinessObject}
    (h : rowToBusinessObject row = .ok object) :
    parseTime row.createdAt = .ok object.createdAt := by
  obtain ⟨lifecycleStatus, -, h⟩ := except_bind_ok.mp h
  obtain ⟨approvalStatus, -, h⟩ := except_bind_ok.mp h
  obtain ⟨attributes, -, h⟩ := except_bind_ok.mp h
  obtain ⟨createdAt, hcreated, h⟩ := except_bind_ok.mp h
  obtain ⟨updatedAt, -, h⟩ := except_bind_ok.mp h
  cases h
  exact hcreated

theorem rowToLedgerEntry_occurredAt {row : LedgerEntryRow} {entry : LedgerEntry}
    (h : rowToLedgerEntry row = .ok entry) : parseTime row.occurredAt = .ok entry.occurredAt := by
  obtain ⟨direction, -, h⟩ := except_bind_ok.mp h
  obtain ⟨occurredAt, hoccurred, h⟩ := except_bind_ok.mp h
  obtain ⟨approvalStatus, -, h⟩ := except_bind_ok.mp h
  obtain ⟨createdAt, -, h⟩ := except_bind_ok.mp h
  cases h
  exact hoccurred

theorem rowToContentAttribution_createdAt {row : ContentAttributionRow}
    {attribution : ContentAttribution} (h : rowToContentAttribution row = .ok attribution) :
    parseTime row.createdAt = .ok attribution.createdAt := by
  obtain ⟨createdAt, hcreated, h⟩ := except_bind_ok.mp h
  cases h
  exact hcreated

theorem rowToBusinessRelation_createdAt {row : BusinessRelationRow} {relation : BusinessRelation}
    (h : rowToBusinessRelation row = .ok relation) :
    parseTime row.createdAt = .ok relation.createdAt := by
  obtain ⟨attributes, -, h⟩ := except_bind_ok.mp h
  obtain ⟨createdAt, hcreated, h⟩ := except_bind_ok.mp h
  cases h
  exact hcreated

/-- **Stamped columns make every listing chronological.** -/
theorem listsChronologically_of_stamped {s : BusinessStore} (h : s.Stamped) :
    ListsChronologically s := by
  refine ⟨?_, ?_, ?_, fun id => ?_, fun id => ?_, fun id => ?_⟩
  · have hall := chronological_of (s := s.publication) (p := fun _ => true) (pure ())
      (fun s => s.history.rows) HistoryRow.recordedAt HistoryRow.id
      (fun _ : True => Sql.clean_pure () _) (Sql.readOnly_pure ())
      (fun _ _ hread => (rowToHistory_ok hread).2.2.2.1) (fun row hrow _ => h.history row hrow)
    rw [List.filter_true] at hall
    exact hall
  · have hall := chronological_of (s := s.publication) (p := fun _ => true) (pure ())
      (fun s => s.articleHistory.rows) ArticleHistoryRow.recordedAt ArticleHistoryRow.id
      (fun _ : True => Sql.clean_pure () _) (Sql.readOnly_pure ())
      (fun _ _ hread => (rowToArticleHistory_ok hread).2.2.2)
      (fun row hrow _ => h.articleHistory row hrow)
    rw [List.filter_true] at hall
    exact hall
  · have hall := chronological_of (s := s) (p := fun _ => true) (pure ())
      (fun s => s.businessObjects.rows) BusinessObjectRow.createdAt BusinessObjectRow.id
      (fun _ : True => Sql.clean_pure () _) (Sql.readOnly_pure ())
      (fun _ _ => rowToBusinessObject_createdAt) (fun row hrow _ => h.objects row hrow)
    rw [List.filter_true] at hall
    exact hall
  · exact chronological_of _ _ LedgerEntryRow.occurredAt LedgerEntryRow.id
      requireBusinessObject_clean (readOnly_requireBusinessObject id)
      (fun _ _ => rowToLedgerEntry_occurredAt) (fun row hrow _ => h.entries row hrow)
  · exact chronological_of _ _ ContentAttributionRow.createdAt ContentAttributionRow.historyId
      requireBusinessObject_clean (readOnly_requireBusinessObject id)
      (fun _ _ => rowToContentAttribution_createdAt) (fun row hrow _ => h.attributions row hrow)
  · exact chronological_of _ _ BusinessRelationRow.createdAt BusinessRelationRow.id
      requireBusinessObject_clean (readOnly_requireBusinessObject id)
      (fun _ _ => rowToBusinessRelation_createdAt) (fun row hrow _ => h.relations row hrow)

/-- **Text order is chronological order**: over the years 0 to 9999 the texts of two times compare
    as the times do and are equal exactly for equal times, whatever the digits of their fractions;
    so every listing of a store with such times answers its records in the order of their times. -/
theorem text_order_chronological :
    (∀ a b : DateTime, a.FourDigitYear → b.FourDigitYear →
      (DateTime.toRfc3339 a < DateTime.toRfc3339 b ↔ a < b) ∧
      (DateTime.toRfc3339 a = DateTime.toRfc3339 b ↔ a = b)) ∧
    ∀ s : BusinessStore, s.Stamped → ListsChronologically s :=
  ⟨fun _ _ ha hb => ⟨toRfc3339_lt ha hb, toRfc3339_inj ha hb⟩,
    fun _ => listsChronologically_of_stamped⟩

/-- A time of three digits after the point. -/
def sampleLater : DateTime := ⟨2026, 7, 1, 8, 0, 0, 500000000, by decide⟩

/-- A store that holds a time without a fraction and a time with one. -/
def sampleMixed : BusinessStore :=
  { BusinessStore.initial with
    contentAttributions := ⟨[⟨"asset", "job-2", DateTime.toRfc3339 sampleLater⟩,
      ⟨"asset", "job-1", DateTime.toRfc3339 sampleNow⟩], by decide⟩ }

theorem sampleMixed_stamped : sampleMixed.Stamped := by
  refine ⟨fun _ h => absurd h List.not_mem_nil, fun _ h => absurd h List.not_mem_nil,
    fun _ h => absurd h List.not_mem_nil, fun _ h => absurd h List.not_mem_nil, ?_,
    fun _ h => absurd h List.not_mem_nil⟩
  intro row hrow
  rcases List.mem_cons.mp hrow with rfl | hrow
  · exact ⟨sampleLater, by decide, rfl⟩
  · rw [List.mem_singleton.mp hrow]
    exact ⟨sampleNow, by decide, rfl⟩

theorem text_order_chronological_sample :
    DateTime.toRfc3339 sampleNow < DateTime.toRfc3339 sampleLater ∧
      ListsChronologically sampleMixed :=
  ⟨(text_order_chronological.1 sampleNow sampleLater (by decide) (by decide)).1.mpr (by decide),
    text_order_chronological.2 sampleMixed sampleMixed_stamped⟩

end MatriXpost
