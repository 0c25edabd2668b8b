/-
  File:      MatriXpost/Cli/HistoryQuery.lean
  Subject:   THE HISTORY QUERY OF THE COMMAND LINE, and what its phone filter finds.

  Sources: `matrixpost-core/src/lifecycle.rs` (`HistoryStatus`, `HistoryFilter`),
  `matrixpost-cli/src/query.rs` (`HistoryQuery`).

  The phone filter compares with the account of the stored request, and what is stored is the
  request without its account.

  * `mem_filter`: what a query retains while its limit is not reached;
  * `noPhone_of_recordOf`: no record of a dispatch or of a completed job names a phone;
  * `phone_filter_never_complete`: a query that names a phone drops all of them, and the same query
    without the phone retains them.
-/
import MatriXpost.Store.Histories

namespace MatriXpost

/-! ## 1. The filter of the core -/

/-- The publication states the history query knows. -/
inductive HistoryStatus where
  | success | failed | publishing | scheduled
deriving DecidableEq, Repr

/-- `HistoryStatus::matches`. -/
def HistoryStatus.matchesState (status : HistoryStatus) (state : PublishState) : Bool :=
  match status with
  | .success => state = .published
  | .failed => state = .failed
  | .publishing => state = .dispatching
  | .scheduled => state = .queued

structure HistoryFilter where
  cutoff : Option DateTime
  platform : Option Platform
  status : Option HistoryStatus

namespace HistoryFilter

/-- `HistoryFilter::matches`: tests one record. -/
def matchesRecord (self : HistoryFilter) (record : HistoryRecord) : Bool :=
  self.cutoff.all (fun cutoff => cutoff ≤ record.recordedAt) &&
    self.platform.all (fun platform => platform ∈ record.request.targets) &&
    self.status.all (fun status => status.matchesState record.state)

/-- Retains matching records in their original order. -/
def filter (self : HistoryFilter) (history : List HistoryRecord) : List HistoryRecord :=
  history.filter self.matchesRecord

end HistoryFilter

/-! ## 2. The query of the command line -/

/-- `chrono::NaiveDate`, by year, month and day. -/
abbrev NaiveDate := Int ×ₗ Nat ×ₗ Nat

/-- The date of a time, in UTC. -/
def NaiveDateTime.date (t : NaiveDateTime) : NaiveDate := toLex (t.year, toLex (t.month, t.day))

/-- `HistoryQuery`; `coreFilter` is its field `filter`. -/
structure HistoryQuery where
  coreFilter : HistoryFilter
  phone : Option String
  since : Option NaiveDate
  «until» : Option NaiveDate
  limit : Nat

namespace HistoryQuery

/-- The first closure of `filter`: the phone of the stored request. -/
def phoneMatches (self : HistoryQuery) (record : HistoryRecord) : Bool :=
  self.phone.all fun phone => record.request.account.phone = some phone

/-- The second closure of `filter`; `localDate` is the date of a time in the local time zone. -/
def dateMatches (localDate : DateTime → NaiveDate) (self : HistoryQuery)
    (record : HistoryRecord) : Bool :=
  self.since.all (fun since => since ≤ localDate record.recordedAt) &&
    self.until.all (fun until' => localDate record.recordedAt ≤ until')

/-- What `filter` retains before it sorts and truncates. -/
def retained (localDate : DateTime → NaiveDate) (self : HistoryQuery)
    (history : List HistoryRecord) : List HistoryRecord :=
  ((self.coreFilter.filter history).filter self.phoneMatches).filter (self.dateMatches localDate)

/-- Newest first, then by id. -/
def newestFirst (record : HistoryRecord) : DateTimeᵒᵈ ×ₗ String :=
  toLex (OrderDual.toDual record.recordedAt, record.id)

/-- `HistoryQuery::filter`. -/
def filter (localDate : DateTime → NaiveDate) (self : HistoryQuery)
    (history : List HistoryRecord) : List HistoryRecord :=
  (orderBy (fun _ => true) newestFirst (self.retained localDate history)).take self.limit

variable {localDate : DateTime → NaiveDate} {self : HistoryQuery} {history : List HistoryRecord}
  {record : HistoryRecord}

/-- The filters other than the phone are satisfied. -/
def Admits (localDate : DateTime → NaiveDate) (self : HistoryQuery) (record : HistoryRecord) :
    Prop :=
  self.coreFilter.matchesRecord record = true ∧ self.dateMatches localDate record = true

/-- The limit is not reached: nothing is truncated. -/
def WithinLimit (localDate : DateTime → NaiveDate) (self : HistoryQuery)
    (history : List HistoryRecord) : Prop :=
  (self.retained localDate history).length ≤ self.limit

theorem mem_retained : record ∈ self.retained localDate history ↔
    record ∈ history ∧ self.Admits localDate record ∧ self.phoneMatches record = true := by
  unfold retained HistoryFilter.filter Admits
  rw [List.mem_filter, List.mem_filter, List.mem_filter]
  constructor
  · intro h
    obtain ⟨⟨⟨hmem, hcore⟩, hphone⟩, hdate⟩ := h
    exact ⟨hmem, ⟨hcore, hdate⟩, hphone⟩
  · intro h
    obtain ⟨hmem, ⟨hcore, hdate⟩, hphone⟩ := h
    exact ⟨⟨⟨hmem, hcore⟩, hphone⟩, hdate⟩

theorem mem_sorted :
    record ∈ orderBy (fun _ => true) newestFirst (self.retained localDate history) ↔
      record ∈ self.retained localDate history := by
  rw [(orderBy_perm _ _ _).mem_iff, List.filter_true]

/-- **What a query retains**, while its limit is not reached. -/
theorem mem_filter (h : self.WithinLimit localDate history) :
    record ∈ self.filter localDate history ↔
      record ∈ history ∧ self.Admits localDate record ∧ self.phoneMatches record = true := by
  unfold filter
  rw [List.take_of_length_le, mem_sorted, mem_retained]
  rw [(orderBy_perm _ _ _).length_eq, List.filter_true]
  exact h

/-- A record whose request names no phone passes exactly the filters that name none. -/
theorem phoneMatches_of_noPhone (hnone : record.request.account.phone = none) :
    self.phoneMatches record = true ↔ self.phone = none := by
  unfold phoneMatches
  rw [hnone]
  cases self.phone with
  | none => simp
  | some phone => simp

end HistoryQuery

/-! ## 3. The records of a request -/

/-- The event answers a record of the request: an immediate dispatch recorded it, or it completed a
    job that had been enqueued from the request and claimed. -/
inductive RecordOf (request : PublishRequest) (events : List (Nat × QueueEvent))
    (record : HistoryRecord) : Prop
  | dispatched {n : Nat} {report : ProviderDispatchReport} {now : DateTime} :
      (n, .recordDispatch request report now (.ok record)) ∈ events → RecordOf request events record
  | completed {n₁ n₂ n₃ n₄ : Nat} {enqueuedAt claimedAt completedAt : DateTime}
      {dueThrough : LocalSchedule} {limit expected : Nat} {next : PublishState}
      {detail : Option String} {job done : ScheduledJob} {claimed : List ScheduledJob} :
      (n₁, .allocate request enqueuedAt (.ok job)) ∈ events →
      (n₂, .insert job (.ok ())) ∈ events →
      (n₃, .claim dueThrough claimedAt limit (.ok claimed)) ∈ events →
      job.id ∈ claimed.map (·.id) →
      (n₄, .complete job.id expected next completedAt detail (.ok (done, record))) ∈ events →
      RecordOf request events record

variable {events : List (Nat × QueueEvent)} {w : QueueWorld} {request : PublishRequest}
  {record : HistoryRecord}

theorem runnerSafe_phone (request : PublishRequest) : request.runnerSafe.account.phone = none := rfl

/-- **What is stored names no phone**, whatever the request named. -/
theorem noPhone_of_recordOf (h : Trace QueueStep .initial events w)
    (hrecord : RecordOf request events record) : record.request.account.phone = none := by
  cases hrecord with
  | dispatched hmem =>
    obtain ⟨before, after, rfl⟩ := List.append_of_mem hmem
    obtain ⟨w₁, w₂, -, hstep, -⟩ := h.at_event
    cases hstep with
    | recordDispatch hrun =>
      obtain ⟨rowid, row, history, rfl, -⟩ := recordProviderDispatchHistory_ok hrun
      exact runnerSafe_phone request
  | completed _ _ _ _ hmem =>
    obtain ⟨before, after, rfl⟩ := List.append_of_mem hmem
    obtain ⟨w₁, w₂, -, hstep, -⟩ := h.at_event
    cases hstep with
    | complete hrun =>
      obtain ⟨row, current, rowid, hrow, history, -, -, -, -, -, rfl, -⟩ :=
        completeJobWithHistory_ok hrun
      exact runnerSafe_phone current.request

/-- A record of a request is in the history of the run. -/
theorem stored_of_recordOf (h : Trace QueueStep .initial events w)
    (hrecord : RecordOf request events record) :
    ∃ row ∈ w.store.history.rows, record.toRow = .ok row := by
  have hmem : record ∈ events.flatMap (·.2.recorded) := by
    cases hrecord with
    | dispatched hmem => exact List.mem_flatMap.mpr ⟨_, hmem, List.mem_singleton.mpr rfl⟩
    | completed _ _ _ _ hmem => exact List.mem_flatMap.mpr ⟨_, hmem, List.mem_singleton.mpr rfl⟩
  have hall := history_recorded h
  generalize events.flatMap (·.2.recorded) = records at hmem hall
  generalize w.store.history.rows = rows at hall ⊢
  induction hall with
  | nil => cases hmem
  | @cons first row _ _ hto _ ih =>
    rcases List.mem_cons.mp hmem with rfl | hmem
    · exact ⟨row, List.mem_cons_self, hto⟩
    · obtain ⟨row', hrow', hto'⟩ := ih hmem
      exact ⟨row', List.mem_cons_of_mem _ hrow', hto'⟩

/-! ## 4. The phone filter -/

/-- The history is answered, and among the queries whose other filters the record satisfies and
    whose limit is not reached, those with the phone retain the record and those with another
    phone drop it. -/
def PhoneFilterComplete (localDate : DateTime → NaiveDate) (s : Store) (record : HistoryRecord)
    (phone : String) : Prop :=
  ∃ list, Sql.Clean history s (.ok list) s ∧ ∀ query : HistoryQuery,
    query.Admits localDate record → query.WithinLimit localDate list →
      (query.phone = some phone → record ∈ query.filter localDate list) ∧
      (∀ other, query.phone = some other → other ≠ phone → record ∉ query.filter localDate list)

/-- The query for a phone and nothing else. -/
def HistoryQuery.ofPhone (phone : String) (limit : Nat) : HistoryQuery :=
  ⟨⟨none, none, none⟩, some phone, none, none, limit⟩

/-- A record without a phone is lost to the query for a phone. -/
theorem not_phoneFilterComplete {localDate : DateTime → NaiveDate} {s : Store}
    (hnone : record.request.account.phone = none) (phone : String) :
    ¬ PhoneFilterComplete localDate s record phone := by
  intro h
  obtain ⟨list, -, hall⟩ := h
  have hlimit : (HistoryQuery.ofPhone phone list.length).WithinLimit localDate list := by
    refine (List.length_filter_le _ _).trans ?_
    refine (List.length_filter_le _ _).trans ?_
    exact List.length_filter_le _ _
  obtain ⟨hretains, -⟩ := hall (HistoryQuery.ofPhone phone list.length) ⟨rfl, rfl⟩ hlimit
  have hmatches := ((HistoryQuery.mem_filter hlimit).mp (hretains rfl)).2.2
  have hquery := (HistoryQuery.phoneMatches_of_noPhone hnone).mp hmatches
  cases hquery

/-- **The phone filter is never complete.** Whatever phone a request named, the query for it does
    not retain a record of the request: in the history of any run the queries that retain the record
    are, among those whose other filters it satisfies, the ones that name no phone. -/
theorem phone_filter_never_complete (localDate : DateTime → NaiveDate) (phone : String)
    (h : Trace QueueStep .initial events w) (hrecord : RecordOf request events record) :
    ¬ PhoneFilterComplete localDate w.store record phone ∧
      ∀ list s', Sql.Runs history w.store (.ok list) s' → ∀ query : HistoryQuery,
        query.Admits localDate record → query.WithinLimit localDate list →
          (record ∈ query.filter localDate list ↔ query.phone = none) := by
  have hnone := noPhone_of_recordOf h hrecord
  refine ⟨not_phoneFilterComplete hnone phone, fun list s' hrun query hadmits hlimit => ?_⟩
  obtain ⟨row, hrow, hto⟩ := stored_of_recordOf h hrecord
  have hmem := mem_history hrun hto hrow
  rw [HistoryQuery.mem_filter hlimit, HistoryQuery.phoneMatches_of_noPhone hnone]
  simp [hmem, hadmits]

/-- A request that names a phone. -/
def phoneRequest : PublishRequest :=
  { sampleRequest with account := ⟨some "13800000000", none⟩ }

/-- The record of its immediate dispatch, of which no provider reported. -/
def phoneRecord : HistoryRecord :=
  historyRecord "dispatch-history" 1 phoneRequest.runnerSafe
    (providerDispatchHistoryOutcome .empty).1 sampleNow
    (some (providerDispatchHistoryOutcome .empty).2)

@[irreducible] def phoneStore : Store :=
  (recordProviderDispatchHistory phoneRequest .empty sampleNow ⟨.initial, []⟩).2.store

theorem phoneRecord_recorded :
    Sql.Runs (recordProviderDispatchHistory phoneRequest .empty sampleNow) .initial
      (.ok phoneRecord) phoneStore := by
  unfold phoneStore
  refine Sql.runs_of_reply ?_
  decide +kernel

theorem phone_filter_never_complete_sample :
    ¬ PhoneFilterComplete NaiveDateTime.date phoneStore phoneRecord "13800000000" ∧
      ∀ list s', Sql.Runs history phoneStore (.ok list) s' → ∀ query : HistoryQuery,
        query.Admits NaiveDateTime.date phoneRecord →
        query.WithinLimit NaiveDateTime.date list →
          (phoneRecord ∈ query.filter NaiveDateTime.date list ↔ query.phone = none) :=
  phone_filter_never_complete NaiveDateTime.date "13800000000"
    (w := ⟨phoneStore, []⟩) (.single (.recordDispatch (n := 1) phoneRecord_recorded))
    (.dispatched List.mem_cons_self)

/-- **A dispatch recorded for a phone is not found by it.** -/
theorem not_phoneFilterComplete_dispatched :
    phoneRequest.account.phone = some "13800000000" ∧
      Sql.Runs (recordProviderDispatchHistory phoneRequest .empty sampleNow) .initial
        (.ok phoneRecord) phoneStore ∧
      (HistoryQuery.ofPhone "13800000000" 50).filter NaiveDateTime.date [phoneRecord] = [] ∧
      ¬ PhoneFilterComplete NaiveDateTime.date phoneStore phoneRecord "13800000000" :=
  ⟨rfl, phoneRecord_recorded, by decide +kernel,
    not_phoneFilterComplete (runnerSafe_phone phoneRequest) "13800000000"⟩

end MatriXpost
