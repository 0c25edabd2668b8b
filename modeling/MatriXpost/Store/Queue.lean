/-
  File:      MatriXpost/Store/Queue.lean
  Subject:   WHAT THE TWO QUEUES SHARE: loading a job, the guarded UPDATE, the state change, the
             claim and the requeue.

  The SQL of the video and of the article queue differs in the table, the codecs and one guard;
  each operation is written once over a `QueueTable`.

  * every successful write is one function of the store, `raise`: the named rows take the new
    state, their revision goes up by one, nothing else moves (`find?_raise`);
  * `changeState_ok`, `claim_jobs`, `requeue_ok` say what a success required and that it did
    exactly one `raise`; `claim_clean`, `changeState_clean` and `requeue_clean` say that without
    faults these requirements suffice.
-/
import MatriXpost.Store.Schema
import MatriXpost.Lib.Sql

namespace MatriXpost

/-- The largest number of jobs one claim takes. -/
def maxClaimBatch : Nat := 64

namespace QueueTable

variable {R δ : Type} (q : QueueTable R δ)

/-! ## 1. The operations -/

/-- `SET state = next, revision = revision, updated_at = now`. -/
def assign (next : PublishState) (revision : Nat) (now : DateTime) (row : JobRow) : JobRow :=
  { row with state := next.db, revision := revision, updatedAt := DateTime.toRfc3339 now }

theorem assign_id (next : PublishState) (revision : Nat) (now : DateTime) (row : JobRow) :
    (assign next revision now row).id = row.id := rfl

/-- `WHERE id = id [AND state = state] AND revision = expected`. -/
def guarded (id : String) (state : Option PublishState) (expected : Nat) (row : JobRow) : Bool :=
  decide (row.id = id) &&
    ((state.all fun st => row.state = st.db) && decide (row.revision = expected))

/-- The guarded UPDATE, and the check that it touched one row. -/
def updateJob (id : String) (state : Option PublishState) (expected : Nat) (next : PublishState)
    (now : DateTime) : Sql DomainError Store Unit := do
  let changed ← Sql.execute fun s =>
    ((q.jobs s).count (guarded id state expected),
      q.setJobs s ((q.jobs s).update (guarded id state expected) (assign next (expected + 1) now)
        (assign_id next (expected + 1) now)))
  if changed ≠ 1 then Sql.fail (.concurrentJobUpdate id) else pure ()

/-- `load_job_tx` and `load_article_job_tx`. -/
def loadJob (id : String) : Sql DomainError Store (Option (Job R δ)) := do
  match ← Sql.query fun s => (q.jobs s).find? id with
  | none => pure none
  | some row => do
    let job ← Sql.lift (q.rowToJob row)
    pure (some job)

/-- `load_job_tx(..)?.ok_or_else(|| DomainError::UnknownJob(..))?`. -/
def currentJob (id : String) : Sql DomainError Store (Job R δ) := do
  match ← q.loadJob id with
  | some job => pure job
  | none => Sql.fail (.unknownJob id)

def checkRevision (id : String) (job : Job R δ) (expected : Nat) : Sql DomainError Store Unit :=
  if job.revision ≠ expected then Sql.fail (.staleJobRevision id expected job.revision)
  else pure ()

/-- The body the transition and the two completions begin with: load, transition relation,
    revision, guarded UPDATE. It answers the job as it was. -/
def changeState (state : Option PublishState) (id : String) (expected : Nat) (next : PublishState)
    (now : DateTime) : Sql DomainError Store (Job R δ) := do
  let current ← q.currentJob id
  let _ ← Sql.lift (current.state.transition next)
  checkRevision id current expected
  q.updateJob id state expected next now
  pure current

/-- `WHERE state = 'queued' AND due_at IS NOT NULL AND due_at <= due_through`. -/
def isDue (dueThrough : LocalSchedule) (row : JobRow) : Bool :=
  row.state = PublishState.queued.db && row.dueAt.any fun due => due ≤ dueThrough.text

/-- `ORDER BY due_at, id`. -/
def dueOrder (row : JobRow) : String ×ₗ String := toLex (row.dueAt.getD "", row.id)

/-- The rows one claim chooses. -/
def dueRows (s : Store) (dueThrough : LocalSchedule) (limit : Nat) : List JobRow :=
  select (isDue dueThrough) dueOrder limit (q.jobs s).rows

/-- A job as its claim returns it. -/
def claimedJob (now : DateTime) (job : Job R δ) : Job R δ :=
  { job with state := .dispatching, revision := job.revision + 1, updatedAt := now }

/-- The UPDATEs of one claim. -/
def claimAll (now : DateTime) : List (Job R δ) → Sql DomainError Store (List (Job R δ))
  | [] => pure []
  | current :: rest => do
    q.updateJob current.id (some .queued) current.revision .dispatching now
    let claimed ← claimAll now rest
    pure (claimedJob now current :: claimed)

/-- `claim_due` and `claim_due_articles`. -/
def claim (dueThrough : LocalSchedule) (now : DateTime) (limit : Nat) :
    Sql DomainError Store (List (Job R δ)) :=
  let limit := min limit maxClaimBatch
  if limit = 0 then pure []
  else Sql.transaction do
    let rows ← Sql.query fun s => q.dueRows s dueThrough limit
    let candidates ← Sql.lift (rows.mapM q.rowToJob)
    q.claimAll now candidates

/-- `requeue_claim` and `requeue_article_claim`. -/
def requeue (id : String) (expected : Nat) (now : DateTime) :
    Sql DomainError Store (Job R δ) :=
  Sql.transaction do
    let current ← q.currentJob id
    if current.state ≠ .dispatching then
      Sql.fail (.invalidStateTransition current.state .queued)
    else do
      checkRevision id current expected
      q.updateJob id (some .dispatching) expected .queued now
      pure { current with state := .queued, revision := expected + 1, updatedAt := now }

/-! ## 2. One write for all of them -/

/-- A row after a successful state change. -/
def advanced (next : PublishState) (now : DateTime) (row : JobRow) : JobRow :=
  assign next (row.revision + 1) now row

@[simp] theorem advanced_id (next : PublishState) (now : DateTime) (row : JobRow) :
    (advanced next now row).id = row.id := rfl

/-- The named rows change state and go up by one revision. -/
def raise (s : Store) (ids : List String) (next : PublishState) (now : DateTime) : Store :=
  q.setJobs s ((q.jobs s).update (fun row => decide (row.id ∈ ids)) (advanced next now)
    (advanced_id next now))

variable {q} {s s' : Store}

@[simp] theorem advanced_state (next : PublishState) (now : DateTime) (row : JobRow) :
    (advanced next now row).state = next.db := rfl

@[simp] theorem advanced_revision (next : PublishState) (now : DateTime) (row : JobRow) :
    (advanced next now row).revision = row.revision + 1 := rfl

/-- **What a point query reads after a write: the named rows advanced, every other as it was.** -/
theorem find?_raise (ids : List String) (next : PublishState) (now : DateTime) (k : String) :
    (q.jobs (q.raise s ids next now)).find? k =
      ((q.jobs s).find? k).map fun row => if k ∈ ids then advanced next now row else row := by
  rw [raise, q.jobs_setJobs, Table.find?_update]
  cases h : (q.jobs s).find? k with
  | none => rfl
  | some row =>
    have hk := Table.find?_key h
    simp [hk]

theorem find?_raise_of_mem {ids : List String} {next : PublishState} {now : DateTime}
    {k : String} {row : JobRow} (h : (q.jobs s).find? k = some row) (hk : k ∈ ids) :
    (q.jobs (q.raise s ids next now)).find? k = some (advanced next now row) := by
  rw [find?_raise, h, Option.map_some, if_pos hk]

theorem find?_raise_of_not_mem {ids : List String} {next : PublishState} {now : DateTime}
    {k : String} (hk : k ∉ ids) :
    (q.jobs (q.raise s ids next now)).find? k = (q.jobs s).find? k := by
  rw [find?_raise]
  simp [hk]

/-- A row after a write stood there before, or is one of the named rows, advanced. -/
theorem mem_raise {ids : List String} {next : PublishState} {now : DateTime} {row : JobRow}
    (h : row ∈ (q.jobs (q.raise s ids next now)).rows) :
    row ∈ (q.jobs s).rows ∧ row.id ∉ ids ∨
      ∃ old ∈ (q.jobs s).rows, old.id ∈ ids ∧ row = advanced next now old := by
  rw [raise, q.jobs_setJobs, Table.update_rows] at h
  obtain ⟨old, hold, rfl⟩ := List.mem_map.mp h
  by_cases hid : old.id ∈ ids
  · exact .inr ⟨old, hold, hid, if_pos (decide_eq_true hid)⟩
  · rw [if_neg (by simpa using hid)]
    exact .inl ⟨hold, hid⟩

theorem raise_nil (next : PublishState) (now : DateTime) : q.raise s [] next now = s := by
  rw [raise, Table.update_none (fun _ _ => by simp), q.setJobs_jobs]

/-- Two writes of one state to different rows are one. -/
theorem raise_raise {ids : List String} {id : String} {next : PublishState} {now : DateTime}
    (h : id ∉ ids) :
    q.raise (q.raise s [id] next now) ids next now = q.raise s (id :: ids) next now := by
  unfold raise
  rw [q.jobs_setJobs, q.setJobs_setJobs, Table.update_update]
  · congr 2
    funext row
    simp
  · intro row _ hrow
    have hid : row.id = id := by simpa using hrow
    simp [hid, h]

/-! ## 3. What a success required and did -/

theorem guarded_of {id : String} {state : Option PublishState} {expected : Nat} {row : JobRow}
    (hid : row.id = id) :
    guarded id state expected row = true ↔
      (state.all fun st => row.state = st.db) = true ∧ row.revision = expected := by
  simp [guarded, hid]

theorem update_guarded {id : String} {state : Option PublishState} {next : PublishState}
    {now : DateTime} {row : JobRow} (hrow : (q.jobs s).find? id = some row)
    (hstate : (state.all fun st => row.state = st.db) = true) :
    q.setJobs s ((q.jobs s).update (guarded id state row.revision)
      (assign next (row.revision + 1) now) (assign_id next (row.revision + 1) now)) =
      q.raise s [id] next now := by
  unfold raise
  congr 1
  refine Table.update_congr fun r hr => ?_
  by_cases hid : r.id = id
  · have he : r = row := Table.eq_of_key hr (Table.find?_mem hrow)
      (hid.trans (Table.find?_key hrow).symm)
    subst he
    rw [if_pos ((guarded_of hid).mpr ⟨hstate, rfl⟩), if_pos (by simp [hid])]
    rfl
  · simp [guarded, hid]

/-- **The guarded UPDATE succeeds on the row it names, in the state and at the revision it
    names, and raises that row.** -/
theorem updateJob_ok {id : String} {state : Option PublishState} {expected : Nat}
    {next : PublishState} {now : DateTime} {u : Unit}
    (h : Sql.Runs (q.updateJob id state expected next now) s (.ok u) s') :
    (∃ row, (q.jobs s).find? id = some row ∧ (state.all fun st => row.state = st.db) = true ∧
      row.revision = expected) ∧ s' = q.raise s [id] next now := by
  obtain ⟨changed, s₁, hupdate, hcheck⟩ := Sql.runs_bind_ok h
  rw [Sql.runs_execute_ok] at hupdate
  obtain ⟨hcount, hstore⟩ := Prod.mk.inj hupdate
  split at hcheck
  · exact absurd (Sql.runs_fail.mp hcheck).1 (by simp)
  rename_i hone
  rw [ne_eq, not_not] at hone
  obtain ⟨-, rfl⟩ := Sql.runs_pure.mp hcheck
  rw [hone] at hcount
  obtain ⟨row, hrow, hg⟩ := Table.count_key_eq_one.mp hcount
  rw [Bool.and_eq_true, decide_eq_true_eq] at hg
  obtain ⟨hstate, rfl⟩ := hg
  exact ⟨⟨row, hrow, hstate, rfl⟩, by rw [← hstore, update_guarded hrow hstate]⟩

theorem updateJob_clean {id : String} (state : Option PublishState) {row : JobRow}
    (next : PublishState) (now : DateTime) (hrow : (q.jobs s).find? id = some row)
    (hstate : (state.all fun st => row.state = st.db) = true) :
    Sql.Clean (q.updateJob id state row.revision next now) s (.ok ())
      (q.raise s [id] next now) := by
  unfold updateJob
  refine (Sql.clean_execute _ s).bind ?_
  have hcount : (q.jobs s).count (guarded id state row.revision) = 1 :=
    Table.count_key_eq_one.mpr ⟨row, hrow, by simp [hstate]⟩
  dsimp only
  rw [hcount, if_neg (by simp), update_guarded hrow hstate]
  exact Sql.clean_pure _ _

/-- What a job is loaded as: the row under its id, read back. -/
theorem loadJob_ok {id : String} {found : Option (Job R δ)}
    (h : Sql.Runs (q.loadJob id) s (.ok found) s') : s' = s ∧
      match (q.jobs s).find? id with
      | none => found = none
      | some row => ∃ job, q.rowToJob row = .ok job ∧ found = some job := by
  obtain ⟨row?, s₁, hquery, hrow⟩ := Sql.runs_bind_ok h
  obtain ⟨rfl, rfl⟩ := Sql.runs_query_ok.mp hquery
  cases hfind : (q.jobs s₁).find? id with
  | none =>
    rw [hfind] at hrow
    obtain ⟨hnone, rfl⟩ := Sql.runs_pure.mp hrow
    cases hnone
    exact ⟨rfl, rfl⟩
  | some row =>
    rw [hfind] at hrow
    obtain ⟨job, s₂, hlift, hsome⟩ := Sql.runs_bind_ok hrow
    obtain ⟨hread, rfl⟩ := Sql.runs_lift.mp hlift
    obtain ⟨hloaded, rfl⟩ := Sql.runs_pure.mp hsome
    cases hloaded
    exact ⟨rfl, job, hread.symm, rfl⟩

theorem currentJob_ok {id : String} {job : Job R δ}
    (h : Sql.Runs (q.currentJob id) s (.ok job) s') :
    s' = s ∧ ∃ row, (q.jobs s).find? id = some row ∧ q.rowToJob row = .ok job := by
  obtain ⟨loaded, s₁, hload, hjob⟩ := Sql.runs_bind_ok h
  obtain ⟨rfl, hfound⟩ := loadJob_ok hload
  cases hfind : (q.jobs s₁).find? id with
  | none =>
    rw [hfind] at hfound
    subst hfound
    exact absurd (Sql.runs_fail.mp hjob).1 (by simp)
  | some row =>
    rw [hfind] at hfound
    obtain ⟨current, hread, rfl⟩ := hfound
    obtain ⟨he, rfl⟩ := Sql.runs_pure.mp hjob
    cases he
    exact ⟨rfl, row, rfl, hread⟩

theorem loadJob_clean {id : String} {row : JobRow} {job : Job R δ}
    (hrow : (q.jobs s).find? id = some row) (hread : q.rowToJob row = .ok job) :
    Sql.Clean (q.loadJob id) s (.ok (some job)) s := by
  refine (Sql.clean_query _ s).bind ?_
  rw [hrow]
  refine Sql.Clean.bind (x := Sql.lift (q.rowToJob row)) (a := job) ?_ (Sql.clean_pure _ _)
  rw [hread]
  exact Sql.clean_lift _ _

theorem currentJob_clean {id : String} {row : JobRow} {job : Job R δ}
    (hrow : (q.jobs s).find? id = some row) (hread : q.rowToJob row = .ok job) :
    Sql.Clean (q.currentJob id) s (.ok job) s :=
  (loadJob_clean hrow hread).bind (Sql.clean_pure _ _)

theorem checkRevision_ok {id : String} {job : Job R δ} {expected : Nat} {u : Unit}
    (h : Sql.Runs (checkRevision id job expected) s (.ok u) s') :
    job.revision = expected ∧ s' = s := by
  unfold checkRevision at h
  split at h
  · exact absurd (Sql.runs_fail.mp h).1 (by simp)
  · rename_i he
    exact ⟨not_not.mp he, (Sql.runs_pure.mp h).2⟩

/-- **A state change succeeds along an edge of the transition graph, at the revision presented,
    and raises the job it names.** -/
theorem changeState_ok {state : Option PublishState} {id : String} {expected : Nat}
    {next : PublishState} {now : DateTime} {current : Job R δ}
    (h : Sql.Runs (q.changeState state id expected next now) s (.ok current) s') :
    (∃ row, (q.jobs s).find? id = some row ∧ q.rowToJob row = .ok current) ∧
      current.state.canTransitionTo next = true ∧ current.revision = expected ∧
      (state.all fun st => current.state = st) = true ∧ s' = q.raise s [id] next now := by
  obtain ⟨job, s₁, hcurrent, h₁⟩ := Sql.runs_bind_ok h
  obtain ⟨rfl, row, hrow, hread⟩ := currentJob_ok hcurrent
  obtain ⟨st, s₂, hlift, h₂⟩ := Sql.runs_bind_ok h₁
  obtain ⟨htrans, rfl⟩ := Sql.runs_lift.mp hlift
  obtain ⟨u, s₃, hrev, h₃⟩ := Sql.runs_bind_ok h₂
  obtain ⟨hrevision, rfl⟩ := checkRevision_ok hrev
  obtain ⟨u', s₄, hupdate, h₄⟩ := Sql.runs_bind_ok h₃
  obtain ⟨⟨row', hrow', hstate, -⟩, rfl⟩ := updateJob_ok hupdate
  obtain ⟨he, rfl⟩ := Sql.runs_pure.mp h₄
  cases he
  rw [hrow] at hrow'
  cases hrow'
  obtain ⟨-, hdb, -, -⟩ := rowToJob_ok hread
  refine ⟨⟨row, hrow, hread⟩, (PublishState.transition_eq_ok.mp htrans.symm).1, hrevision, ?_, rfl⟩
  rw [hdb] at hstate
  simpa using hstate

theorem changeState_clean (state : Option PublishState) {id : String} {next : PublishState}
    {now : DateTime} {row : JobRow} {current : Job R δ} (hrow : (q.jobs s).find? id = some row)
    (hread : q.rowToJob row = .ok current) (hedge : current.state.canTransitionTo next = true)
    (hstate : (state.all fun st => current.state = st) = true) :
    Sql.Clean (q.changeState state id current.revision next now) s (.ok current)
      (q.raise s [id] next now) := by
  obtain ⟨-, hdb, hrev, -⟩ := rowToJob_ok hread
  refine (currentJob_clean hrow hread).bind ?_
  refine Sql.Clean.bind (x := Sql.lift (current.state.transition next)) (a := next) (m := s) ?_ ?_
  · rw [PublishState.transition_eq_ok.mpr ⟨hedge, rfl⟩]
    exact Sql.clean_lift _ _
  refine Sql.Clean.bind (a := ()) (m := s) ?_ ?_
  · rw [checkRevision, if_neg (by simp)]
    exact Sql.clean_pure _ _
  rw [hrev]
  refine (updateJob_clean _ _ _ hrow ?_).bind (Sql.clean_pure _ _)
  rw [hdb]
  simpa using hstate

/-- **A requeue succeeds on a claim at the revision presented, and raises it back.** -/
theorem requeue_ok {id : String} {expected : Nat} {now : DateTime} {job : Job R δ}
    (h : Sql.Runs (q.requeue id expected now) s (.ok job) s') :
    ∃ row current, (q.jobs s).find? id = some row ∧ q.rowToJob row = .ok current ∧
      current.state = .dispatching ∧ current.revision = expected ∧
      s' = q.raise s [id] .queued now ∧
      job = { current with state := .queued, revision := expected + 1, updatedAt := now } := by
  obtain ⟨current, s₁, hcurrent, h₁⟩ := Sql.runs_bind_ok (Sql.runs_transaction_ok h)
  obtain ⟨rfl, row, hrow, hread⟩ := currentJob_ok hcurrent
  split at h₁
  · exact absurd (Sql.runs_fail.mp h₁).1 (by simp)
  rename_i hstate
  obtain ⟨u, s₂, hrev, h₂⟩ := Sql.runs_bind_ok h₁
  obtain ⟨hrevision, rfl⟩ := checkRevision_ok hrev
  obtain ⟨u', s₃, hupdate, h₃⟩ := Sql.runs_bind_ok h₂
  obtain ⟨-, rfl⟩ := updateJob_ok hupdate
  obtain ⟨he, rfl⟩ := Sql.runs_pure.mp h₃
  cases he
  exact ⟨row, current, hrow, hread, not_not.mp hstate, hrevision, rfl, rfl⟩

theorem requeue_clean {id : String} {now : DateTime} {row : JobRow} {current : Job R δ}
    (hrow : (q.jobs s).find? id = some row) (hread : q.rowToJob row = .ok current)
    (hstate : current.state = .dispatching) :
    Sql.Clean (q.requeue id current.revision now) s
      (.ok { current with state := .queued, revision := current.revision + 1, updatedAt := now })
      (q.raise s [id] .queued now) := by
  obtain ⟨-, hdb, hrev, -⟩ := rowToJob_ok hread
  refine Sql.Clean.transaction ((currentJob_clean hrow hread).bind ?_)
  rw [if_neg (not_not.mpr hstate)]
  refine Sql.Clean.bind (a := ()) (m := s) ?_ ?_
  · rw [checkRevision, if_neg (by simp)]
    exact Sql.clean_pure _ _
  have hupdate := updateJob_clean (some .dispatching) .queued now hrow
    (by simp [hdb, hstate])
  rw [← hrev] at hupdate
  exact hupdate.bind (Sql.clean_pure _ _)

/-! ## 4. The claim -/

theorem ids_of_forall₂ {rows : List JobRow} {jobs : List (Job R δ)}
    (h : List.Forall₂ (fun row job => q.rowToJob row = .ok job) rows jobs) :
    jobs.map (·.id) = rows.map (·.id) := by
  induction h with
  | nil => rfl
  | cons hrow _ ih => rw [List.map_cons, List.map_cons, ih, (rowToJob_ok hrow).1]

/-- The job a chosen row was read as. -/
theorem row_of_mem {rows : List JobRow} {jobs : List (Job R δ)}
    (h : List.Forall₂ (fun row job => q.rowToJob row = .ok job) rows jobs) {job : Job R δ}
    (hjob : job ∈ jobs) : ∃ row ∈ rows, q.rowToJob row = .ok job := by
  induction h with
  | nil => cases hjob
  | @cons row job' rest others hrow _ ih =>
    rcases List.mem_cons.mp hjob with rfl | hjob
    · exact ⟨row, List.mem_cons_self, hrow⟩
    · obtain ⟨row', hmem, hread⟩ := ih hjob
      exact ⟨row', List.mem_cons_of_mem row hmem, hread⟩

/-- A chosen row is queued, due, and stands in the table under its id. -/
theorem mem_dueRows {dueThrough : LocalSchedule} {limit : Nat} {row : JobRow}
    (h : row ∈ q.dueRows s dueThrough limit) :
    (q.jobs s).find? row.id = some row ∧ row.state = PublishState.queued.db ∧
      ∃ due, row.dueAt = some due ∧ due ≤ dueThrough.text := by
  obtain ⟨hmem, hdue⟩ := mem_select h
  simp only [isDue, Bool.and_eq_true, decide_eq_true_eq, Option.any_eq_true] at hdue
  obtain ⟨hstate, due, hsome, hle⟩ := hdue
  exact ⟨Table.find?_of_mem hmem, hstate, due, hsome, hle⟩

theorem dueRows_nodup (dueThrough : LocalSchedule) (limit : Nat) :
    ((q.dueRows s dueThrough limit).map (·.id)).Nodup := select_nodup (q.jobs s).nodup

theorem claimAll_ok {now : DateTime} {jobs claimed : List (Job R δ)}
    (hn : (jobs.map (·.id)).Nodup) (h : Sql.Runs (q.claimAll now jobs) s (.ok claimed) s') :
    claimed = jobs.map (claimedJob now) ∧
      s' = q.raise s (jobs.map (·.id)) .dispatching now := by
  induction jobs generalizing s s' claimed with
  | nil =>
    obtain ⟨he, rfl⟩ := Sql.runs_pure.mp h
    cases he
    exact ⟨rfl, (raise_nil _ _).symm⟩
  | cons current rest ih =>
    rw [List.map_cons, List.nodup_cons] at hn
    obtain ⟨u, s₁, hupdate, h₁⟩ := Sql.runs_bind_ok h
    obtain ⟨-, rfl⟩ := updateJob_ok hupdate
    obtain ⟨others, s₂, hrest, h₂⟩ := Sql.runs_bind_ok h₁
    obtain ⟨rfl, rfl⟩ := ih hn.2 hrest
    obtain ⟨he, rfl⟩ := Sql.runs_pure.mp h₂
    cases he
    exact ⟨rfl, by rw [raise_raise hn.1]; rfl⟩

/-- **A claim takes the rows the query chose, all of them, and raises exactly these.** -/
theorem claim_ok {dueThrough : LocalSchedule} {now : DateTime} {limit : Nat}
    {claimed : List (Job R δ)} (h : Sql.Runs (q.claim dueThrough now limit) s (.ok claimed) s') :
    ∃ candidates, List.Forall₂ (fun row job => q.rowToJob row = .ok job)
        (q.dueRows s dueThrough (min limit maxClaimBatch)) candidates ∧
      claimed = candidates.map (claimedJob now) ∧
      s' = q.raise s (candidates.map (·.id)) .dispatching now := by
  unfold claim at h
  dsimp only at h
  split at h
  · rename_i hzero
    obtain ⟨he, rfl⟩ := Sql.runs_pure.mp h
    cases he
    refine ⟨[], ?_, rfl, (raise_nil _ _).symm⟩
    rw [hzero]
    exact .nil
  · obtain ⟨rows, s₁, hquery, h₁⟩ := Sql.runs_bind_ok (Sql.runs_transaction_ok h)
    obtain ⟨rfl, rfl⟩ := Sql.runs_query_ok.mp hquery
    obtain ⟨candidates, s₂, hlift, h₂⟩ := Sql.runs_bind_ok h₁
    obtain ⟨hread, rfl⟩ := Sql.runs_lift.mp hlift
    have hall := mapM_ok_iff.mp hread.symm
    have hn : (candidates.map (·.id)).Nodup := by
      rw [ids_of_forall₂ hall]
      exact dueRows_nodup _ _
    obtain ⟨hclaimed, hstore⟩ := claimAll_ok hn h₂
    exact ⟨candidates, hall, hclaimed, hstore⟩

/-- **The jobs a claim returns**: each once, each queued before at one revision less; these rows
    are raised to `dispatching`, and there are no more of them than the limit. -/
theorem claim_jobs {dueThrough : LocalSchedule} {now : DateTime} {limit : Nat}
    {claimed : List (Job R δ)} (h : Sql.Runs (q.claim dueThrough now limit) s (.ok claimed) s') :
    (claimed.map (·.id)).Nodup ∧
      (∀ job ∈ claimed, ∃ row current, (q.jobs s).find? job.id = some row ∧
        q.rowToJob row = .ok current ∧ current.state = .queued ∧ job = claimedJob now current) ∧
      claimed.length ≤ min limit maxClaimBatch ∧
      s' = q.raise s (claimed.map (·.id)) .dispatching now := by
  obtain ⟨candidates, hall, rfl, rfl⟩ := claim_ok h
  have hids : (candidates.map (claimedJob now)).map (·.id) = candidates.map (·.id) := by
    rw [List.map_map]
    rfl
  refine ⟨?_, fun job hjob => ?_, ?_, by rw [hids]⟩
  · rw [hids, ids_of_forall₂ hall]
    exact dueRows_nodup _ _
  · obtain ⟨current, hmem, rfl⟩ := List.mem_map.mp hjob
    obtain ⟨row, hrow, hread⟩ := row_of_mem hall hmem
    obtain ⟨hfind, hstate, -⟩ := mem_dueRows hrow
    obtain ⟨hid, hdb, -⟩ := rowToJob_ok hread
    refine ⟨row, current, ?_, hread, ?_, rfl⟩
    · change (q.jobs s).find? current.id = some row
      rw [hid, hfind]
    · rw [hdb, PublishState.db_inj] at hstate
      exact hstate
  · rw [List.length_map, ← hall.length_eq]
    exact length_select.le.trans (min_le_left _ _)

/-- A claim that fails leaves the store as it was. -/
theorem claim_error {dueThrough : LocalSchedule} {now : DateTime} {limit : Nat} {e : DomainError}
    (h : Sql.Runs (q.claim dueThrough now limit) s (.error e) s') : s' = s := by
  unfold claim at h
  dsimp only at h
  split at h
  · exact absurd (Sql.runs_pure.mp h).1 (by simp)
  · exact Sql.runs_transaction_error h

theorem claimAll_clean {now : DateTime} {jobs : List (Job R δ)} (hn : (jobs.map (·.id)).Nodup)
    (hrows : ∀ job ∈ jobs, ∃ row, (q.jobs s).find? job.id = some row ∧
      row.state = PublishState.queued.db ∧ row.revision = job.revision) :
    Sql.Clean (q.claimAll now jobs) s (.ok (jobs.map (claimedJob now)))
      (q.raise s (jobs.map (·.id)) .dispatching now) := by
  induction jobs generalizing s with
  | nil =>
    rw [List.map_nil, List.map_nil, raise_nil]
    exact Sql.clean_pure _ _
  | cons current rest ih =>
    rw [List.map_cons, List.nodup_cons] at hn
    obtain ⟨row, hrow, hstate, hrev⟩ := hrows current List.mem_cons_self
    have hupdate := updateJob_clean (some .queued) .dispatching now
      hrow (by simp [hstate])
    rw [hrev] at hupdate
    refine hupdate.bind ?_
    -- The rows still to be claimed have other ids, so the first write left them alone.
    have hrest := ih (s := q.raise s [current.id] .dispatching now) hn.2 fun job hjob => by
      obtain ⟨row', hrow', hstate', hrev'⟩ := hrows job (List.mem_cons_of_mem current hjob)
      refine ⟨row', ?_, hstate', hrev'⟩
      rw [find?_raise_of_not_mem, hrow']
      rw [List.mem_singleton]
      rintro he
      exact hn.1 (he ▸ List.mem_map_of_mem hjob)
    rw [raise_raise hn.1] at hrest
    exact hrest.bind (Sql.clean_pure _ _)

/-- **Without faults a claim succeeds as soon as the chosen rows can be read.** -/
theorem claim_clean {dueThrough : LocalSchedule} {now : DateTime} {limit : Nat}
    {candidates : List (Job R δ)}
    (hall : List.Forall₂ (fun row job => q.rowToJob row = .ok job)
      (q.dueRows s dueThrough (min limit maxClaimBatch)) candidates) :
    Sql.Clean (q.claim dueThrough now limit) s (.ok (candidates.map (claimedJob now)))
      (q.raise s (candidates.map (·.id)) .dispatching now) := by
  unfold claim
  by_cases hzero : min limit maxClaimBatch = 0
  · rw [hzero] at hall
    cases hall
    rw [if_pos hzero, List.map_nil, List.map_nil, raise_nil]
    exact Sql.clean_pure _ _
  · rw [if_neg hzero]
    refine Sql.Clean.transaction ((Sql.clean_query _ s).bind ?_)
    refine Sql.Clean.bind (m := s) (a := candidates) ?_ ?_
    · rw [mapM_ok_iff.mpr hall]
      exact Sql.clean_lift _ _
    refine claimAll_clean ?_ fun job hjob => ?_
    · rw [ids_of_forall₂ hall]
      exact dueRows_nodup _ _
    · obtain ⟨row, hmem, hread⟩ := row_of_mem hall hjob
      obtain ⟨hfind, hstate, -⟩ := mem_dueRows hmem
      obtain ⟨hid, -, hrev, -⟩ := rowToJob_ok hread
      exact ⟨row, by rw [hid, hfind], hstate, hrev.symm⟩

end QueueTable

end MatriXpost
