/-
  File:      MatriXpost/Queue/FreshIds.lean
  Subject:   FRESH HISTORY IDS. `insert_terminal_history` generates ids under two prefixes that
             share one sequence, in a table where imported records hold ids of any shape.

  * `insertTerminalHistory_outcome`: a call inserts one row under an id that was not present, or
    it fails and inserts nothing, at a fault of the database or because the request has a path
    that is no text;
  * `history_ids_perm`: the ids of a run's history are those it started from, those it assigned
    and those it imported. The table keeps them pairwise different (`history_ids_nodup`);
  * `history_ids_fresh` puts both together with the end of the loop.
-/
import MatriXpost.Queue.Run

namespace MatriXpost

/-! ## 1. A call of the loop -/

/-- What a call of `insert_terminal_history` on `db` leaves as `db'` with its reply. -/
inductive HistoryOutcome (idPrefix : String) (request : PublishRequest) (state : PublishState)
    (recordedAt : DateTime) (detail : Option String) (db db' : Db Store) :
    Except DomainError HistoryRecord → Prop
  | inserted (rowid : Nat) (row : HistoryRow) (history : Table HistoryRow.id) :
      (historyRecord idPrefix rowid request state recordedAt detail).toRow = .ok row →
      db.store.history.find? (historyId idPrefix rowid) = none →
      history.rows = db.store.history.rows ++ [row] →
      db'.store = { db.store with history := history, historySequence := rowid } →
      HistoryOutcome idPrefix request state recordedAt detail db db'
        (.ok (historyRecord idPrefix rowid request state recordedAt detail))
  | database (message : String) (sequence : Nat) :
      some message ∈ db.faults →
      db'.store = { db.store with historySequence := sequence } →
      HistoryOutcome idPrefix request state recordedAt detail db db' (.error (.database message))
  | unwritable (sequence : Nat) :
      ¬ request.source.IsUtf8 →
      db'.store = { db.store with historySequence := sequence } →
      HistoryOutcome idPrefix request state recordedAt detail db db'
        (.error (.serialization "path contains invalid UTF-8 characters"))

section Calls
variable {idPrefix : String} {request : PublishRequest} {state : PublishState}
  {recordedAt : DateTime} {detail : Option String} {db db' : Db Store}
  {reply : Except DomainError HistoryRecord}

/-- **One row under a new id, or nothing.** -/
theorem insertTerminalHistory_outcome
    (h : insertTerminalHistory idPrefix request state recordedAt detail db = (reply, db')) :
    HistoryOutcome idPrefix request state recordedAt detail db db' reply := by
  cases reply with
  | ok record =>
    obtain ⟨rowid, row, history, -, rfl, hrow, hins, hs⟩ :=
      insertTerminalHistory_ok ⟨db.faults, db'.faults, h⟩
    obtain ⟨hfree, hrows⟩ := Table.insert_eq_some hins
    rw [(HistoryRecord.toRow_ok hrow).2.1] at hfree
    exact .inserted rowid row history hrow hfree hrows hs
  | error e =>
    obtain ⟨sequence, hs⟩ := insertTerminalHistory_error ⟨db.faults, db'.faults, h⟩
    -- No error but a driver's or the request's own: the loop never runs out of its fuel.
    have hthrown := (insertTerminalHistory_throws db).2 e (congrArg Prod.fst h)
    rcases hthrown with hjson | ⟨message, hmem, rfl⟩
    · obtain ⟨hpath, rfl⟩ := PublishRequest.toJson_error hjson
      exact .unwritable sequence hpath hs
    · exact .database message sequence hmem hs

/-- Where no fault is answered, a call for a request whose path is text inserts. -/
theorem HistoryOutcome.exists_record
    (h : HistoryOutcome idPrefix request state recordedAt detail db db' reply)
    (hfaults : ∀ message, some message ∈ db.faults → reply ≠ .error (.database message))
    (hutf8 : request.source.IsUtf8) : ∃ record, reply = .ok record := by
  cases h with
  | inserted rowid row history hrow hfree hrows hs => exact ⟨_, rfl⟩
  | database message sequence hmem hs => exact absurd rfl (hfaults message hmem)
  | unwritable sequence hpath hs => exact absurd hutf8 hpath

end Calls

/-! ## 2. The ids of a run -/

/-- The id a successful call took from the sequence. -/
def QueueEvent.assigned : QueueEvent → List String
  | .complete _ _ _ _ _ (.ok (_, record)) => [record.id]
  | .recordDispatch _ _ _ (.ok record) => [record.id]
  | _ => []

/-- The id an accepted import brought. -/
def QueueEvent.imported : QueueEvent → List String
  | .append record (.ok _) => [record.id]
  | _ => []

/-- **The ids a run assigns**: no two alike, none held when it started, and none that is imported
    before or after. No row the run met is altered. -/
structure FreshIds (w : QueueWorld) (events : List (Nat × QueueEvent)) (w' : QueueWorld) :
    Prop where
  distinct : (events.flatMap (·.2.assigned)).Nodup
  notHeld : ∀ id ∈ events.flatMap (·.2.assigned), id ∉ w.store.history.rows.map (·.id)
  notImported : ∀ id ∈ events.flatMap (·.2.assigned), id ∉ events.flatMap (·.2.imported)
  kept : w.store.history.rows <+: w'.store.history.rows

theorem recorded_ids (e : QueueEvent) : e.recorded.map (·.id) = e.assigned ++ e.imported := by
  cases e with
  | complete id expected next now detail reply => cases reply <;> rfl
  | recordDispatch request report now reply => cases reply <;> rfl
  | append record reply => cases reply <;> rfl
  | allocate | insert | transition | claim | requeue => rfl

/-- Rows stand under the ids of their records. -/
theorem ids_of_rows {records : List HistoryRecord} {rows : List HistoryRow}
    (h : List.Forall₂ (fun record row => HistoryRecord.toRow record = .ok row) records rows) :
    rows.map (·.id) = records.map (·.id) := by
  induction h with
  | nil => rfl
  | cons hto _ ih => rw [List.map_cons, List.map_cons, ih, (HistoryRecord.toRow_ok hto).2.1]

section Runs
variable {events : List (Nat × QueueEvent)} {w w' : QueueWorld}

/-- The ids of the history a run leaves. -/
theorem history_ids_perm (h : Trace QueueStep w events w') :
    (w'.store.history.rows.map (·.id)).Perm (w.store.history.rows.map (·.id) ++
      (events.flatMap (·.2.assigned) ++ events.flatMap (·.2.imported))) := by
  obtain ⟨rows, hall, hrows⟩ := history_grows h
  rw [hrows, List.map_append, ids_of_rows hall, List.map_flatMap]
  refine List.Perm.append_left _ ?_
  simp only [recorded_ids]
  exact (List.flatMap_append_perm events _ _).symm

/-- **No id comes twice**: the table's key, read for the ids of a run. -/
theorem history_ids_nodup (h : Trace QueueStep w events w') : FreshIds w events w' := by
  have hnodup := (history_ids_perm h).nodup_iff.mp w'.store.history.nodup
  obtain ⟨-, hnew, hheld⟩ := List.nodup_append.mp hnodup
  -- Of the new rows each is assigned or imported, so the two lists share no id either.
  obtain ⟨hassigned, -, himported⟩ := List.nodup_append.mp hnew
  obtain ⟨rows, -, hrows⟩ := history_grows h
  refine ⟨hassigned, fun id hid hold => ?_, fun id hid himport => ?_, ⟨rows, hrows.symm⟩⟩
  · exact hheld id hold id (List.mem_append_left _ hid) rfl
  · exact himported id hid id himport rfl

end Runs

/-! ## 3. Fresh ids -/

/-- **Fresh history ids.** On every store and under any faults the loop ends, in one way: with
    one row under an id that was not present, or with nothing inserted. Only a fault answered and
    a path that is no text keep the row out. And over every run the ids assigned are fresh. -/
theorem history_ids_fresh :
    (∀ (idPrefix : String) (request : PublishRequest) (state : PublishState)
      (recordedAt : DateTime) (detail : Option String) (db : Db Store),
      ∃ reply db',
        (∀ out, Sql.Loop (historyTurn idPrefix request state recordedAt detail) db out ↔
          out = (reply, db')) ∧
        insertTerminalHistory idPrefix request state recordedAt detail db = (reply, db') ∧
        HistoryOutcome idPrefix request state recordedAt detail db db' reply ∧
        ((∀ message, some message ∈ db.faults → reply ≠ .error (.database message)) →
          request.source.IsUtf8 → ∃ record, reply = .ok record)) ∧
    ∀ (w w' : QueueWorld) (events : List (Nat × QueueEvent)), Trace QueueStep w events w' →
      FreshIds w events w' := by
  refine ⟨fun idPrefix request state recordedAt detail db => ?_, fun w w' events h =>
    history_ids_nodup h⟩
  obtain ⟨reply, db', hout⟩ : ∃ reply db',
      insertTerminalHistory idPrefix request state recordedAt detail db = (reply, db') :=
    ⟨_, _, rfl⟩
  have houtcome := insertTerminalHistory_outcome hout
  refine ⟨reply, db', fun out => ?_, hout, houtcome, houtcome.exists_record⟩
  rw [insertTerminalHistory_iff, hout]
  exact eq_comm

/-- An imported record under the first id the sequence comes to. -/
def importedRecord : HistoryRecord :=
  ⟨"dispatch-history-1", sampleRequest, .failed, sampleNow, none⟩

/-- The record of a dispatch of the sample request that no provider took. -/
def dispatchRecord (rowid : Nat) : HistoryRecord :=
  historyRecord "dispatch-history" rowid sampleRequest.runnerSafe
    (providerDispatchHistoryOutcome .empty).1 sampleNow
    (some (providerDispatchHistoryOutcome .empty).2)

@[irreducible] def sampleImported : Store := (appendHistory importedRecord ⟨.initial, []⟩).2.store

@[irreducible] def sampleRecorded : Store :=
  (recordProviderDispatchHistory sampleRequest .empty sampleNow ⟨sampleImported, []⟩).2.store

@[irreducible] def sampleRecordedTwice : Store :=
  (recordProviderDispatchHistory sampleRequest .empty sampleNow ⟨sampleRecorded, []⟩).2.store

theorem sample_import :
    Sql.Runs (appendHistory importedRecord) .initial (.ok ()) sampleImported := by
  unfold sampleImported
  refine Sql.runs_of_reply ?_
  decide +kernel

theorem sample_record :
    Sql.Runs (recordProviderDispatchHistory sampleRequest .empty sampleNow) sampleImported
      (.ok (dispatchRecord 2)) sampleRecorded := by
  unfold sampleRecorded
  refine Sql.runs_of_reply ?_
  unfold sampleImported
  decide +kernel

theorem sample_record_again :
    Sql.Runs (recordProviderDispatchHistory sampleRequest .empty sampleNow) sampleRecorded
      (.ok (dispatchRecord 3)) sampleRecordedTwice := by
  unfold sampleRecordedTwice
  refine Sql.runs_of_reply ?_
  unfold sampleRecorded sampleImported
  decide +kernel

/-- An import, then two dispatches recorded. -/
def sampleRecordings : List (Nat × QueueEvent) :=
  [(1, .append importedRecord (.ok ())),
    (1, .recordDispatch sampleRequest .empty sampleNow (.ok (dispatchRecord 2))),
    (2, .recordDispatch sampleRequest .empty sampleNow (.ok (dispatchRecord 3)))]

theorem sample_recordings :
    Trace QueueStep .initial sampleRecordings ⟨sampleRecordedTwice, []⟩ :=
  .cons (.append sample_import) (.cons (.recordDispatch sample_record)
    (.single (.recordDispatch sample_record_again)))

theorem history_ids_fresh_after_import :
    (∃ record, (insertTerminalHistory "dispatch-history" sampleRequest .failed sampleNow none
      ⟨sampleImported, []⟩).1 = .ok record) ∧
    FreshIds .initial sampleRecordings ⟨sampleRecordedTwice, []⟩ := by
  obtain ⟨hcalls, hruns⟩ := history_ids_fresh
  obtain ⟨reply, db', -, hout, -, hrecord⟩ :=
    hcalls "dispatch-history" sampleRequest .failed sampleNow none ⟨sampleImported, []⟩
  refine ⟨?_, hruns _ _ _ sample_recordings⟩
  rw [hout]
  exact hrecord (fun message hmem => by cases hmem) trivial

/-- A request for a file whose name is no text, as a directory can hold one. -/
def unwritableRequest : PublishRequest :=
  { sampleRequest with source := .localFile (.other 255 [46, 109, 112, 52]) }

/-- A valid request whose path is no text: without any fault, nothing is inserted for it. -/
theorem unwritable_request_unrecorded :
    unwritableRequest.validate = .ok () ∧
    Sql.Loop (historyTurn "dispatch-history" unwritableRequest .failed sampleNow none)
      ⟨.initial, []⟩
      (.error (.serialization "path contains invalid UTF-8 characters"),
        ⟨{ Store.initial with historySequence := 1 }, []⟩) ∧
    ¬ ∀ (idPrefix : String) (request : PublishRequest) (state : PublishState)
      (recordedAt : DateTime) (detail : Option String) (s : Store), ∃ record db',
        Sql.Loop (historyTurn idPrefix request state recordedAt detail) ⟨s, []⟩
          (.ok record, db') := by
  have hloop : Sql.Loop (historyTurn "dispatch-history" unwritableRequest .failed sampleNow none)
      ⟨.initial, []⟩
      (.error (.serialization "path contains invalid UTF-8 characters"),
        ⟨{ Store.initial with historySequence := 1 }, []⟩) := .failed rfl
  refine ⟨by decide, hloop, fun hall => ?_⟩
  obtain ⟨record, db', hinserts⟩ :=
    hall "dispatch-history" unwritableRequest .failed sampleNow none .initial
  have heq := hloop.unique hinserts
  cases heq

end MatriXpost
