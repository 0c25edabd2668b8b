/-
  File:      MatriXpost/Queue/Completion.lean
  Subject:   WHAT A VIDEO COMPLETION CLOSES. `complete_job_with_history` is documented to complete a
             claimed job and record its one terminal history entry; its guard is the general
             transition relation.

  * `completion_closes_claim`: a completion closes a claim exactly when it meets no open edge
    (`OpenCompletion`: its job still a draft or queued, at the revision presented, with an edge to
    the state asked for). In runs without such a completion every job contributes at most one
    record, which carries the terminal state the job then has;
  * `completion_without_claim`: a draft is completed to `queued`, and then to `failed`.
-/
import MatriXpost.Queue.Run

namespace MatriXpost

/-! ## 1. Claims and open edges -/

/-- The job is dispatching at the revision presented, and the state asked for is terminal. -/
def ClosesClaim (s : Store) (id : String) (expected : Nat) (next : PublishState) : Prop :=
  (∃ row, s.jobs.find? id = some row ∧ row.state = PublishState.dispatching.db ∧
    row.revision = expected) ∧ next.terminal = true

/-- The job is no claim, but the transition relation leads from it to the state asked for. -/
def OpenCompletion (s : Store) (id : String) (expected : Nat) (next : PublishState) : Prop :=
  ∃ row current, s.jobs.find? id = some row ∧ videoQueue.rowToJob row = .ok current ∧
    current.revision = expected ∧ (current.state = .draft ∨ current.state = .queued) ∧
    current.state.canTransitionTo next = true

/-- A completion meets no open edge; other events are free. -/
def QueueEvent.CompletesClaims (s : Store) : QueueEvent → Prop
  | .complete id expected next _ _ _ => ¬ OpenCompletion s id expected next
  | _ => True

/-- A step of the queue whose completions meet no open edge. -/
def CarefulStep (w : QueueWorld) (e : Nat × QueueEvent) (w' : QueueWorld) : Prop :=
  QueueStep w e w' ∧ e.2.CompletesClaims w.store

/-- The record a successful completion contributes, with the job it is of. -/
def QueueEvent.contribution : QueueEvent → List (String × HistoryRecord)
  | .complete id _ _ _ _ (.ok (_, record)) => [(id, record)]
  | _ => []

/-- The records completions contributed in a run. -/
def contributions (events : List (Nat × QueueEvent)) : List (String × HistoryRecord) :=
  events.flatMap (·.2.contribution)

/-- **What completions owe** at the end of a run of `step`: the completions of the next step close
    claims, no job has contributed twice, and each record stands in the history and carries the
    terminal state its job has. -/
structure CompletionsClose (step : QueueWorld → Nat × QueueEvent → QueueWorld → Prop)
    (events : List (Nat × QueueEvent)) (w : QueueWorld) : Prop where
  closes : ∀ n w' id expected next now detail job record,
    step w (n, .complete id expected next now detail (.ok (job, record))) w' →
    ClosesClaim w.store id expected next
  once : ((contributions events).map Prod.fst).Nodup
  carries : ∀ id record, (id, record) ∈ contributions events →
    record.state.terminal = true ∧
    (∃ row, w.store.jobs.find? id = some row ∧ row.state = record.state.db) ∧
    ∃ row ∈ w.store.history.rows, record.toRow = .ok row

/-! ## 2. One completion -/

section Completion
variable {s s' : Store} {id : String} {expected : Nat} {next : PublishState} {now : DateTime}
  {detail : Option String} {job : ScheduledJob} {record : HistoryRecord}

/-- A completion closes a claim, or it met an open edge. -/
theorem closes_or_open
    (h : Sql.Runs (completeJobWithHistory id expected next now detail) s (.ok (job, record)) s') :
    ClosesClaim s id expected next ∨ OpenCompletion s id expected next := by
  obtain ⟨row, current, rowid, hrow', history, hrow, hread, hedge, hrev, -⟩ :=
    completeJobWithHistory_ok h
  obtain ⟨-, hdb, hrevision, -⟩ := QueueTable.rowToJob_ok hread
  cases hstate : current.state with
  | draft => exact .inr ⟨row, current, hrow, hread, hrev, .inl hstate, hedge⟩
  | queued => exact .inr ⟨row, current, hrow, hread, hrev, .inr hstate, hedge⟩
  | dispatching =>
    rw [hstate, PublishState.dispatching_canTransitionTo] at hedge
    exact .inl ⟨⟨row, hrow, hstate ▸ hdb, hrevision ▸ hrev⟩, hedge⟩
  | published =>
    rw [hstate] at hedge
    cases hedge
  | failed =>
    rw [hstate] at hedge
    cases hedge
  | unavailable =>
    rw [hstate] at hedge
    cases hedge

/-- An open edge is no claim. -/
theorem not_closes_of_open (h : OpenCompletion s id expected next) :
    ¬ ClosesClaim s id expected next := by
  intro hcloses
  obtain ⟨row, current, hrow, hread, -, hstate, -⟩ := h
  obtain ⟨⟨row', hrow', hdisp, -⟩, -⟩ := hcloses
  rw [hrow] at hrow'
  cases hrow'
  have hdb := (QueueTable.rowToJob_ok hread).2.1
  rw [hdisp, PublishState.db_inj] at hdb
  rcases hstate with hstate | hstate <;> rw [hstate] at hdb <;> cases hdb

/-- **Completions of a job close claims if and only if they meet no open edge.** -/
theorem completion_closes_iff (s : Store) (id : String) (expected : Nat) (next : PublishState)
    (now : DateTime) (detail : Option String) :
    (∀ job record s',
      Sql.Runs (completeJobWithHistory id expected next now detail) s (.ok (job, record)) s' →
      ClosesClaim s id expected next) ↔ ¬ OpenCompletion s id expected next := by
  constructor
  · intro h hopen
    have hnot := not_closes_of_open hopen
    obtain ⟨row, current, hrow, hread, rfl, -, hedge⟩ := hopen
    obtain ⟨record, s', hclean⟩ := completeJobWithHistory_clean now detail hrow hread hedge
    exact hnot (h _ record s' hclean.runs)
  · intro hopen job record s' h
    exact (closes_or_open h).resolve_right hopen

/-- After a completion its job is in the state asked for, and the record carries that state. -/
theorem completion_writes
    (h : Sql.Runs (completeJobWithHistory id expected next now detail) s (.ok (job, record)) s') :
    record.state = next ∧ ∃ row, s'.jobs.find? id = some row ∧ row.state = next.db := by
  obtain ⟨row, current, rowid, hrow', history, hrow, hread, hedge, hrev, -, rfl, -, -, -, rfl⟩ :=
    completeJobWithHistory_ok h
  refine ⟨rfl, QueueTable.advanced next now row, ?_, rfl⟩
  exact QueueTable.find?_raise_of_mem (q := videoQueue) hrow (List.mem_singleton_self id)

end Completion

/-! ## 3. Runs -/

theorem contributions_append (es : List (Nat × QueueEvent)) (e : Nat × QueueEvent) :
    contributions (es ++ [e]) = contributions es ++ e.2.contribution := by
  simp [contributions]

/-- What a job has contributed it has reached: its row is in the record's terminal state. -/
def Contributed (es : List (Nat × QueueEvent)) (w : QueueWorld) : Prop :=
  ∀ id record, (id, record) ∈ contributions es → record.state.terminal = true ∧
    ∃ row, w.store.jobs.find? id = some row ∧ row.state = record.state.db

section Runs
variable {es events : List (Nat × QueueEvent)} {w w' : QueueWorld} {e : Nat × QueueEvent}

/-- Terminal rows stay, so what was contributed stays true. -/
theorem contributed_step (hI : Contributed es w) (h : QueueStep w e w') : Contributed es w' := by
  intro id record hmem
  obtain ⟨hterm, row, hrow, hstate⟩ := hI id record hmem
  exact ⟨hterm, row, queueStep_terminal h hrow hstate hterm, hstate⟩

/-- One careful step: no job contributes again, and a new record has its job's terminal state. -/
theorem careful_step (hn : ((contributions es).map Prod.fst).Nodup) (hI : Contributed es w)
    (h : CarefulStep w e w') :
    ((contributions (es ++ [e])).map Prod.fst).Nodup ∧ Contributed (es ++ [e]) w' := by
  obtain ⟨hstep, hcareful⟩ := h
  have hI' := contributed_step hI hstep
  have hnone : e.2.contribution = [] →
      ((contributions (es ++ [e])).map Prod.fst).Nodup ∧ Contributed (es ++ [e]) w' := by
    intro hnil
    have hsame : contributions (es ++ [e]) = contributions es := by
      rw [contributions_append, hnil, List.append_nil]
    unfold Contributed at hI' ⊢
    rw [hsame]
    exact ⟨hn, hI'⟩
  cases hstep with
  | @complete n id expected next now detail reply s h =>
    cases reply with
    | error e => exact hnone rfl
    | ok pair =>
      obtain ⟨job, record⟩ := pair
      obtain ⟨⟨row, hrow, hdisp, -⟩, hterm⟩ := (closes_or_open h).resolve_right hcareful
      obtain ⟨hrecord, hafter⟩ := completion_writes h
      have hnew : contributions
          (es ++ [(n, .complete id expected next now detail (.ok (job, record)))]) =
          contributions es ++ [(id, record)] := contributions_append _ _
      have hfresh : id ∉ (contributions es).map Prod.fst := by
        intro hid
        obtain ⟨⟨k, earlier⟩, hmem, rfl⟩ := List.mem_map.mp hid
        obtain ⟨hterm', row', hrow', hstate'⟩ := hI k earlier hmem
        rw [hrow] at hrow'
        cases hrow'
        rw [hdisp, PublishState.db_inj] at hstate'
        rw [← hstate'] at hterm'
        cases hterm'
      refine ⟨?_, fun k later hmem => ?_⟩
      · rw [hnew, List.map_append, List.nodup_append]
        refine ⟨hn, List.nodup_singleton id, fun a ha b hb hab => ?_⟩
        have hid : b = id := List.mem_singleton.mp hb
        rw [hab, hid] at ha
        exact hfresh ha
      · rw [hnew, List.mem_append, List.mem_singleton] at hmem
        rcases hmem with hmem | hmem
        · exact hI' k later hmem
        · cases hmem
          rw [hrecord]
          exact ⟨hterm, hafter⟩
  | allocated h => exact hnone rfl
  | notAllocated h => exact hnone rfl
  | insert before after hpending h => exact hnone rfl
  | transition h => exact hnone rfl
  | claim h => exact hnone rfl
  | requeue h => exact hnone rfl
  | recordDispatch h => exact hnone rfl
  | append h => exact hnone rfl

/-- A contribution was recorded. -/
theorem recorded_of_contribution {event : QueueEvent} {id : String} {record : HistoryRecord}
    (h : (id, record) ∈ event.contribution) : record ∈ event.recorded := by
  cases event with
  | complete id' expected next now detail reply =>
    cases reply with
    | error e => cases h
    | ok pair =>
      obtain ⟨-, rfl⟩ := Prod.mk.inj (List.mem_singleton.mp h)
      exact List.mem_singleton_self _
  | _ => cases h

/-- What was contributed stands in the history. -/
theorem contribution_in_history (h : Trace QueueStep .initial events w) {id : String}
    {record : HistoryRecord} (hmem : (id, record) ∈ contributions events) :
    ∃ row ∈ w.store.history.rows, record.toRow = .ok row := by
  obtain ⟨e, he, hc⟩ := List.mem_flatMap.mp hmem
  have hrec : record ∈ events.flatMap (·.2.recorded) :=
    List.mem_flatMap.mpr ⟨e, he, recorded_of_contribution hc⟩
  obtain ⟨i, hi, rfl⟩ := List.getElem_of_mem hrec
  have hall := history_recorded h
  have hlen := hall.length_eq
  exact ⟨_, List.getElem_mem (hlen ▸ hi), hall.get hi (hlen ▸ hi)⟩

/-- The two invariants of careful runs. -/
theorem careful_run (h : Trace CarefulStep .initial events w) :
    ((contributions events).map Prod.fst).Nodup ∧ Contributed events w :=
  h.invariant_events (I := fun es w => ((contributions es).map Prod.fst).Nodup ∧ Contributed es w)
    ⟨List.nodup_nil, fun _ _ hmem => by cases hmem⟩
    fun _ _ _ _ _ hI hstep => careful_step hI.1 hI.2 hstep

end Runs

/-- **Completions close claims.** In every run whose completions meet no open edge, every
    completion closes a claim, every job contributes at most one record, and each record carries
    the terminal state its job has. And the open edge is all that can go wrong: on a store and
    arguments that meet none, every successful completion closes a claim, and only on these. -/
theorem completion_closes_claim {events : List (Nat × QueueEvent)} {w : QueueWorld}
    (h : Trace CarefulStep .initial events w) :
    CompletionsClose CarefulStep events w ∧
    ∀ (s : Store) (id : String) (expected : Nat) (next : PublishState) (now : DateTime)
      (detail : Option String),
      (∀ job record s',
        Sql.Runs (completeJobWithHistory id expected next now detail) s (.ok (job, record)) s' →
        ClosesClaim s id expected next) ↔ ¬ OpenCompletion s id expected next := by
  obtain ⟨hn, hI⟩ := careful_run h
  refine ⟨⟨?_, hn, ?_⟩, completion_closes_iff⟩
  · intro n w' id expected next now detail job record hstep
    obtain ⟨hstep, hcareful⟩ := hstep
    cases hstep with
    | complete h => exact (closes_or_open h).resolve_right hcareful
  · intro id record hmem
    obtain ⟨hterm, hjob⟩ := hI id record hmem
    exact ⟨hterm, hjob, contribution_in_history (h.mono fun _ _ _ hstep => hstep.1) hmem⟩

/-! ## 4. A careful run, and one that is not -/

/-- What the claim of `sampleJob` is completed with. -/
def sampleRecord : HistoryRecord :=
  historyRecord "scheduled-history" 1 scheduledRequest.runnerSafe .published sampleNow none

@[irreducible] def sampleCompleted : Store :=
  (completeJobWithHistory "job-1" 1 .published sampleNow none ⟨sampleClaimed, []⟩).2.store

theorem sample_complete :
    Sql.Runs (completeJobWithHistory "job-1" 1 .published sampleNow none) sampleClaimed
      (.ok ({ sampleJob with state := .published, revision := 2 }, sampleRecord))
      sampleCompleted := by
  unfold sampleCompleted
  refine Sql.runs_of_reply ?_
  decide +kernel

theorem sample_closes : ClosesClaim sampleClaimed "job-1" 1 .published := by
  have hrow : (sampleClaimed.jobs.find? "job-1").map (fun row => (row.state, row.revision)) =
      some (PublishState.dispatching.db, 1) := by
    unfold sampleClaimed
    decide +kernel
  obtain ⟨row, hfind, he⟩ := Option.map_eq_some_iff.mp hrow
  obtain ⟨hstate, hrev⟩ := Prod.mk.inj he
  exact ⟨⟨row, hfind, hstate, hrev⟩, rfl⟩

/-- Enqueue, claim, completion. -/
def sampleCareful : List (Nat × QueueEvent) :=
  [(1, .allocate scheduledRequest sampleNow (.ok sampleJob)), (1, .insert sampleJob (.ok ())),
    (2, .claim sampleDue sampleNow 5 (.ok [QueueTable.claimedJob sampleNow sampleJob])),
    (2, .complete "job-1" 1 .published sampleNow none
      (.ok ({ sampleJob with state := .published, revision := 2 }, sampleRecord)))]

theorem sample_careful : Trace CarefulStep .initial sampleCareful ⟨sampleCompleted, []⟩ :=
  .cons ⟨.allocated sample_allocate, trivial⟩
    (.cons ⟨.insert [] [] rfl sample_insert, trivial⟩
      (.cons ⟨.claim sample_claim, trivial⟩
        (.single ⟨.complete sample_complete, fun hopen => not_closes_of_open hopen sample_closes⟩)))

theorem completion_closes_claim_sample :
    CompletionsClose CarefulStep sampleCareful ⟨sampleCompleted, []⟩ :=
  (completion_closes_claim sample_careful).1

def draftRequest : PublishRequest := { sampleRequest with draft := true }

def draftJob : ScheduledJob := enqueuedJob draftRequest "job-1" sampleNow

/-- What a completion of the draft answers. -/
def draftCompletion (next : PublishState) (n : Nat) : ScheduledJob × HistoryRecord :=
  ({ draftJob with state := next, revision := n },
    historyRecord "scheduled-history" n draftRequest.runnerSafe next sampleNow none)

@[irreducible] def draftAllocated : Store :=
  (enqueueBegin draftRequest sampleNow ⟨.initial, []⟩).2.store

@[irreducible] def draftInserted : Store := (insertJob draftJob ⟨draftAllocated, []⟩).2.store

@[irreducible] def draftQueued : Store :=
  (completeJobWithHistory "job-1" 0 .queued sampleNow none ⟨draftInserted, []⟩).2.store

@[irreducible] def draftFailed : Store :=
  (completeJobWithHistory "job-1" 1 .failed sampleNow none ⟨draftQueued, []⟩).2.store

/-- The replies to the calls on the draft, each in the store the call before it leaves. -/
theorem draft_replies :
    (enqueueBegin draftRequest sampleNow ⟨.initial, []⟩).1 = .ok draftJob ∧
    (insertJob draftJob ⟨draftAllocated, []⟩).1 = .ok () ∧
    (completeJobWithHistory "job-1" 0 .queued sampleNow none ⟨draftInserted, []⟩).1 =
      .ok (draftCompletion .queued 1) ∧
    (completeJobWithHistory "job-1" 1 .failed sampleNow none ⟨draftQueued, []⟩).1 =
      .ok (draftCompletion .failed 2) := by
  unfold draftQueued draftInserted draftAllocated
  decide +kernel

theorem draft_allocate :
    Sql.Runs (enqueueBegin draftRequest sampleNow) .initial (.ok draftJob) draftAllocated := by
  unfold draftAllocated
  exact Sql.runs_of_reply draft_replies.1

theorem draft_insert : Sql.Runs (insertJob draftJob) draftAllocated (.ok ()) draftInserted := by
  unfold draftInserted
  exact Sql.runs_of_reply draft_replies.2.1

theorem draft_complete_queued :
    Sql.Runs (completeJobWithHistory "job-1" 0 .queued sampleNow none) draftInserted
      (.ok (draftCompletion .queued 1)) draftQueued := by
  unfold draftQueued
  exact Sql.runs_of_reply draft_replies.2.2.1

theorem draft_complete_failed :
    Sql.Runs (completeJobWithHistory "job-1" 1 .failed sampleNow none) draftQueued
      (.ok (draftCompletion .failed 2)) draftFailed := by
  unfold draftFailed
  exact Sql.runs_of_reply draft_replies.2.2.2

theorem draft_enqueued : Trace QueueStep .initial
    [(1, .allocate draftRequest sampleNow (.ok draftJob)), (1, .insert draftJob (.ok ()))]
    ⟨draftInserted, []⟩ :=
  .cons (.allocated draft_allocate) (.single (.insert [] [] rfl draft_insert))

/-- **A draft is completed to `queued`, which closes no claim, and once more to `failed`: one job,
    two records.** -/
theorem completion_without_claim :
    (¬ ∀ events w, Trace QueueStep .initial events w → CompletionsClose QueueStep events w) ∧
    ∃ events w, Trace QueueStep .initial events w ∧
      ¬ ((contributions events).map Prod.fst).Nodup := by
  constructor
  · intro h
    have hcloses := (h _ _ draft_enqueued).closes 1 _ _ _ _ _ _ _ _
      (.complete draft_complete_queued)
    cases hcloses.2
  · refine ⟨_, _, draft_enqueued.append (.cons (.complete (n := 1) draft_complete_queued)
      (.single (.complete (n := 1) draft_complete_failed))), ?_⟩
    simp [contributions, QueueEvent.contribution, draftCompletion]

end MatriXpost
