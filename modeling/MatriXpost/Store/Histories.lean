/-
  File:      MatriXpost/Store/Histories.lean
  Subject:   THE TWO HISTORIES, READ: `history` and `article_history`, `ORDER BY recorded_at, id`.

  * `rowToHistory_iff`: the row of a record reads back as the record, and does so exactly if the
    time of the record has a year of four digits;
  * `mem_history`: a listing that succeeds answers every record that was stored.
-/
import MatriXpost.Store.Articles
import MatriXpost.Queue.Readable

namespace MatriXpost

open QueueTable (parseTime parseTime_toRfc3339 fourDigitYear_of_parseTime)

/-! ## 1. Rows -/

/-- A row as `history` reads it. -/
def rowToHistory (row : HistoryRow) : Except DomainError HistoryRecord := do
  let request ← PublishRequest.fromJson row.requestJson
  let state ← PublishState.fromDb row.state
  let recordedAt ← parseTime row.recordedAt
  .ok ⟨row.id, request, state, recordedAt, row.detail⟩

/-- `row_to_article_history`. -/
def rowToArticleHistory (row : ArticleHistoryRow) : Except DomainError ArticleHistoryRecord := do
  let platform ← articlePlatformFromDb row.platform
  let state ← PublishState.fromDb row.state
  let recordedAt ← parseTime row.recordedAt
  .ok ⟨row.id, platform, row.title, state, recordedAt, row.detail⟩

theorem rowToHistory_ok {row : HistoryRow} {record : HistoryRecord}
    (h : rowToHistory row = .ok record) :
    PublishRequest.fromJson row.requestJson = .ok record.request ∧ record.id = row.id ∧
      PublishState.fromDb row.state = .ok record.state ∧
      parseTime row.recordedAt = .ok record.recordedAt ∧ record.detail = row.detail := by
  obtain ⟨request, hrequest, h⟩ := except_bind_ok.mp h
  obtain ⟨state, hstate, h⟩ := except_bind_ok.mp h
  obtain ⟨recordedAt, htime, h⟩ := except_bind_ok.mp h
  cases h
  exact ⟨hrequest, rfl, hstate, htime, rfl⟩

theorem rowToArticleHistory_ok {row : ArticleHistoryRow} {record : ArticleHistoryRecord}
    (h : rowToArticleHistory row = .ok record) :
    articlePlatformFromDb row.platform = .ok record.platform ∧ record.id = row.id ∧
      PublishState.fromDb row.state = .ok record.state ∧
      parseTime row.recordedAt = .ok record.recordedAt := by
  obtain ⟨platform, hplatform, h⟩ := except_bind_ok.mp h
  obtain ⟨state, hstate, h⟩ := except_bind_ok.mp h
  obtain ⟨recordedAt, htime, h⟩ := except_bind_ok.mp h
  cases h
  exact ⟨hplatform, rfl, hstate, htime⟩

/-- **A stored record is read back as it was written**, exactly if its time has a year of four
    digits; otherwise its row is refused. -/
theorem rowToHistory_iff {record record' : HistoryRecord} {row : HistoryRow}
    (h : record.toRow = .ok row) :
    rowToHistory row = .ok record' ↔ record' = record ∧ record.recordedAt.FourDigitYear := by
  obtain ⟨hjson, hid, hstate, htime, hdetail⟩ := HistoryRecord.toRow_ok h
  have hrequest := PublishRequest.fromJson_toJson hjson
  constructor
  · intro hread
    obtain ⟨request, hrequest', hread⟩ := except_bind_ok.mp hread
    obtain ⟨state, hstate', hread⟩ := except_bind_ok.mp hread
    obtain ⟨recordedAt, htime', hread⟩ := except_bind_ok.mp hread
    rw [hrequest] at hrequest'
    rw [hstate, PublishState.fromDb_db] at hstate'
    rw [htime] at htime'
    have hyear := fourDigitYear_of_parseTime htime'
    rw [parseTime_toRfc3339 hyear] at htime'
    cases hrequest'
    cases hstate'
    cases htime'
    cases hread
    rw [hid, hdetail]
    exact ⟨rfl, hyear⟩
  · intro hrecord
    obtain ⟨rfl, hyear⟩ := hrecord
    unfold rowToHistory
    rw [hrequest, hstate, PublishState.fromDb_db, htime, parseTime_toRfc3339 hyear, hid, hdetail]
    rfl

/-! ## 2. Listings -/

/-- `history`: `ORDER BY recorded_at, id`. -/
def history : Sql DomainError Store (List HistoryRecord) := do
  let rows ← Sql.query fun s => orderBy (fun _ => true)
    (fun row : HistoryRow => toLex (row.recordedAt, row.id)) s.history.rows
  Sql.lift (rows.mapM rowToHistory)

/-- `article_history`: `ORDER BY recorded_at, id`. -/
def articleHistory : Sql DomainError Store (List ArticleHistoryRecord) := do
  let rows ← Sql.query fun s => orderBy (fun _ => true)
    (fun row : ArticleHistoryRow => toLex (row.recordedAt, row.id)) s.articleHistory.rows
  Sql.lift (rows.mapM rowToArticleHistory)

theorem history_ok {s s' : Store} {list : List HistoryRecord}
    (h : Sql.Runs history s (.ok list) s') :
    (orderBy (fun _ => true) (fun row : HistoryRow => toLex (row.recordedAt, row.id))
      s.history.rows).mapM rowToHistory = .ok list := by
  obtain ⟨rows, s₁, hquery, h₁⟩ := Sql.runs_bind_ok h
  obtain ⟨rfl, rfl⟩ := Sql.runs_query_ok.mp hquery
  exact (Sql.runs_lift.mp h₁).1.symm

/-- **A listing that succeeds answers every record that was stored.** -/
theorem mem_history {s s' : Store} {list : List HistoryRecord} {record : HistoryRecord}
    {row : HistoryRow} (h : Sql.Runs history s (.ok list) s') (hto : record.toRow = .ok row)
    (hrow : row ∈ s.history.rows) : record ∈ list := by
  have hmem : row ∈ orderBy (fun _ => true)
      (fun row : HistoryRow => toLex (row.recordedAt, row.id)) s.history.rows := by
    rw [(orderBy_perm _ _ _).mem_iff, List.filter_true]
    exact hrow
  obtain ⟨value, hvalue, hread⟩ := mem_of_mapM_ok (history_ok h) hmem
  rw [((rowToHistory_iff hto).mp hread).1] at hvalue
  exact hvalue

end MatriXpost
