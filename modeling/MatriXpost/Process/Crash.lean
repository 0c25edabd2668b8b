/-
  File:      MatriXpost/Process/Crash.lean
  Subject:   CRASHES. Processes run over one database in any order, and each may crash between any
             two of its transactions; then the database is opened again.

  * `allHeld_step`: a step loses no claim unless a process crashes or ends while it holds one;
  * `crash_safety`: what waits is claimable unless it is dispatching, and what is dispatching is
    held by a process, as long as none loses a claim;
  * `claim_stranded`: a process that crashes between claim and completion does, and no opening of
    the database recovers the job.
-/
import MatriXpost.Process.Claims
import MatriXpost.Store.Migrate

namespace MatriXpost

/-! ## 1. Runs -/

/-- The database a crash or an end leaves, opened again. -/
def Reopened (s s' : Store) : Prop :=
  ∃ db db' : Database, db.store = s ∧ Sql.Runs migrate db (.ok ()) db' ∧ db'.store = s'

/-- What is started is within `T`. -/
def StartsWithin (T : Set LocalSchedule) : QueuePoolEvent → Prop
  | .started origin => origin.Within T
  | _ => True

/-- No process crashes while it holds a claim, or ends with a requeue failed behind it. -/
def LosesNoClaim : QueuePoolEvent → Prop
  | .ended _ log => ∀ c ∈ log, c.call.requeueFails c.reply = false
  | .crashed _ log => openClaims log = []
  | _ => True

/-- Every process keeps to its account, every row is sound. -/
structure Orderly (T : Set LocalSchedule) (w : QueuePool) : Prop where
  keeps : w.Keeps Answers (fun _ _ c => Permitted T c) (fun _ log => SettlesAll log)
  sound : ∀ row ∈ w.state.jobs.rows, Sound T row

/-- **Every dispatching job is a claim that some process holds.** -/
def AllHeld (w : QueuePool) : Prop :=
  ∀ row ∈ w.state.jobs.rows, row.state = PublishState.dispatching.db →
    ∃ p ∈ w.processes, (row.id, row.revision) ∈ openClaims p.log

section Runs
variable {T : Set LocalSchedule} {w w' : QueuePool} {e : QueuePoolEvent}
  {events : List QueuePoolEvent}

/-- A process that holds nothing can go. -/
theorem allHeld_without {p : Process QueueOrigin Call Call.Reply} {s : Store}
    {before after : List (Process QueueOrigin Call Call.Reply)}
    (h : AllHeld ⟨s, before ++ p :: after⟩) (hnone : openClaims p.log = []) :
    AllHeld ⟨s, before ++ after⟩ := by
  intro row hrow hstate
  obtain ⟨holder, hholder, hmem⟩ := h row hrow hstate
  rw [List.mem_append, List.mem_cons] at hholder
  rcases hholder with hholder | rfl | hholder
  · exact ⟨holder, List.mem_append_left _ hholder, hmem⟩
  · rw [hnone] at hmem
    cases hmem
  · exact ⟨holder, List.mem_append_right _ hholder, hmem⟩

theorem called_handles {origin : QueueOrigin} {log : CallLog} {c : Called Call Call.Reply}
    (h : QueuePoolStep w (.called origin log c) w') : c.call.Handles w.state c.reply w'.state := by
  cases h with
  | called before after hcall => exact hcall

theorem orderly_step (h : Orderly T w) (hstep : QueuePoolStep w e w') (hwithin : StartsWithin T e) :
    Orderly T w' := by
  refine ⟨pool_keeps_step h.keeps hstep ?_ ?_, ?_⟩
  · cases e with
    | called origin log c => exact answers_of_handles (called_handles hstep)
    | _ => trivial
  · cases e with
    | started origin => exact keeps_program hwithin
    | _ => trivial
  · cases e with
    | called origin log c =>
      exact sound_change (pool_permitted h.keeps hstep) (callChange_of (called_handles hstep))
        h.sound
    | started origin =>
      cases hstep
      exact h.sound
    | ended origin log =>
      cases hstep
      exact h.sound
    | crashed origin log =>
      cases hstep
      exact h.sound

theorem allHeld_step (h : Orderly T w) (hheld : AllHeld w) (hstep : QueuePoolStep w e w')
    (hno : LosesNoClaim e) : AllHeld w' := by
  cases hstep with
  | started origin =>
    intro row hrow hstate
    obtain ⟨p, hp, hmem⟩ := hheld row hrow hstate
    exact ⟨p, List.mem_cons_of_mem _ hp, hmem⟩
  | @called origin log c k r s s' before after hcall =>
    have hperm : Permitted T c := (h.keeps ⟨origin, log, .call c k⟩ (by simp)).1
    have hbefore : Held log (fun x => ∃ p ∈ before ++ after, x ∈ openClaims p.log) s := by
      intro row hrow hstate
      obtain ⟨p, hp, hmem⟩ := hheld row hrow hstate
      rw [List.mem_append, List.mem_cons] at hp
      rcases hp with hp | rfl | hp
      · exact .inr ⟨p, List.mem_append_left _ hp, hmem⟩
      · exact .inl hmem
      · exact .inr ⟨p, List.mem_append_right _ hp, hmem⟩
    intro row hrow hstate
    rcases held_change hperm (callChange_of hcall) hbefore row hrow hstate with hmem | ⟨p, hp, hmem⟩
    · exact ⟨⟨origin, log ++ [⟨c, r⟩], k r⟩, by simp, hmem⟩
    · exact ⟨p, mem_of_mem_without hp, hmem⟩
  | @ended origin log s before after =>
    exact allHeld_without hheld ((h.keeps ⟨origin, log, .ret ()⟩ (by simp)) hno)
  | crashed before after => exact allHeld_without hheld hno

theorem orderly_initial : Orderly T ⟨.initial, []⟩ :=
  ⟨fun p hp => (by cases hp), fun row hrow => (by cases hrow)⟩

/-- **In every run processes keep to their accounts, and rows stay sound.** -/
theorem pool_orderly (h : Trace QueuePoolStep ⟨.initial, []⟩ events w)
    (hwithin : ∀ e ∈ events, StartsWithin T e) : Orderly T w :=
  h.invariant_on hwithin orderly_initial fun _ _ _ he hI hstep => orderly_step hI hstep he

/-- **In a run that loses no claim every dispatching job is held.** -/
theorem pool_allHeld (h : Trace QueuePoolStep ⟨.initial, []⟩ events w)
    (hwithin : ∀ e ∈ events, StartsWithin T e) (hno : ∀ e ∈ events, LosesNoClaim e) :
    AllHeld w := by
  suffices hboth : Orderly T w ∧ AllHeld w from hboth.2
  refine h.invariant_on (I := fun w => Orderly T w ∧ AllHeld w)
    (P := fun e => StartsWithin T e ∧ LosesNoClaim e) (fun e he => ⟨hwithin e he, hno e he⟩)
    ⟨orderly_initial, fun row hrow => (by cases hrow)⟩ ?_
  intro w₁ e w₂ he hI hstep
  exact ⟨orderly_step hI.1 hstep he.1, allHeld_step hI.1 hI.2 hstep he.2⟩

end Runs

/-! ## 2. What waits is claimable -/

/-- A scheduled job that is no draft and has not reached a terminal state. -/
def Waiting (row : JobRow) : Prop :=
  (∃ request due, videoQueue.decode row.requestJson = .ok request ∧ request.draft = false ∧
    request.scheduledAt = some due) ∧
  ∀ state : PublishState, row.state = state.db → state.terminal = false

/-- A claim due through the row's time, with a limit for all jobs due by then, returns it. -/
def Claimable (T : Set LocalSchedule) (s : Store) (row : JobRow) : Prop :=
  ∀ through ∈ T, ∀ t, through.asNaive = .ok t → (∃ due, dueTime row = some due ∧ due ≤ t) →
    ∀ limit, s.jobs.rows.countP (dueBy t) ≤ min limit maxClaimBatch → ∀ now,
      (∃ claimed s', Sql.Clean (claimDue through now limit) s (.ok claimed) s') ∧
      ∀ claimed s', Sql.Runs (claimDue through now limit) s (.ok claimed) s' →
        row.id ∈ claimed.map (·.id)

/-- No claim returns the job. -/
def NeverClaimed (s : Store) (id : String) : Prop :=
  ∀ through now limit claimed s', Sql.Runs (claimDue through now limit) s (.ok claimed) s' →
    id ∉ claimed.map (·.id)

section Claims
variable {T : Set LocalSchedule} {s : Store} {row : JobRow}

/-- A first selection that has room for all that is due takes all of it. -/
theorem FirstDue.mem_of_room {rows chosen : List JobRow} {through : NaiveDateTime} {limit : Nat}
    (h : FirstDue rows through limit chosen) (hroom : rows.countP (dueBy through) ≤ limit)
    (hrow : row ∈ rows) (hdue : dueBy through row = true) : row ∈ chosen := by
  have hsub : chosen ⊆ rows.filter (dueBy through) := fun r hr =>
    List.mem_filter.mpr (h.due r hr)
  have hperm := (List.subperm_of_subset h.distinct.of_map hsub).perm_of_length_le (by
    rw [h.many, min_eq_right hroom, List.countP_eq_length_filter])
  exact hperm.mem_iff.mpr (List.mem_filter.mpr ⟨hrow, hdue⟩)

/-- A waiting job is queued or dispatching. -/
theorem Sound.queued_of_waiting (h : Sound T row) (hwait : Waiting row)
    (hnot : row.state ≠ PublishState.dispatching.db) : row.state = PublishState.queued.db := by
  obtain ⟨⟨job, hread⟩, -⟩ := h.readable
  obtain ⟨⟨request, due, hdecode, hdraft, hs⟩, hterm⟩ := hwait
  have hstate := (QueueTable.rowToJob_ok hread).2.1
  have hno := (h.scheduled request due hdecode hdraft hs).2
  have hlive := hterm job.state hstate
  rw [hstate] at hno hnot ⊢
  cases hjob : job.state with
  | draft => exact absurd (congrArg PublishState.db hjob) hno
  | dispatching => exact absurd (congrArg PublishState.db hjob) hnot
  | queued => rfl
  | published | failed | unavailable =>
    rw [hjob] at hlive
    cases hlive

/-- **A job that is queued is claimable.** -/
theorem claimable_of_queued (hT : ∀ due ∈ T, due.Accepted) (hagree : AgreesOn T)
    (hrows : ∀ row ∈ s.jobs.rows, Sound T row) (hrow : row ∈ s.jobs.rows)
    (hstate : row.state = PublishState.queued.db) : Claimable T s row := by
  intro through hthrough t ht hdue limit hroom now
  obtain ⟨due, htime, hle⟩ := hdue
  obtain ⟨hclean, hexact⟩ := claim_exact_of_agrees (q := videoQueue) hT hagree hthrough
    (fun row hrow => (hrows row hrow).readable) limit now t ht
  refine ⟨hclean, fun claimed s' hrun => ?_⟩
  obtain ⟨chosen, hfirst, hids⟩ := hexact claimed s' hrun
  rw [hids]
  refine List.mem_map_of_mem (hfirst.mem_of_room hroom hrow ?_)
  simp [dueBy, hstate, htime, hle]

/-- **A job that is dispatching is not.** -/
theorem neverClaimed_of_dispatching (hrow : row ∈ s.jobs.rows)
    (hstate : row.state = PublishState.dispatching.db) : NeverClaimed s row.id := by
  intro through now limit claimed s' hrun hmem
  obtain ⟨job, hjob, hid⟩ := List.mem_map.mp hmem
  obtain ⟨-, hjobs, -⟩ := QueueTable.claim_jobs (q := videoQueue) hrun
  obtain ⟨found, current, hfind, hread, hqueued, -⟩ := hjobs job hjob
  rw [hid] at hfind
  have he : found = row := Option.some.inj (hfind.symm.trans (Table.find?_of_mem hrow))
  rw [← he, (QueueTable.rowToJob_ok hread).2.1, hqueued] at hstate
  exact absurd hstate (by decide)

/-- A job that waits still waits when it is raised to a state that is not terminal. -/
theorem waiting_raised (next : PublishState) (now : DateTime) (hrow : row ∈ s.jobs.rows)
    (hwait : Waiting row) (hnext : next.terminal = false) :
    QueueTable.advanced next now row ∈ (videoQueue.raise s [row.id] next now).jobs.rows ∧
      Waiting (QueueTable.advanced next now row) := by
  obtain ⟨hscheduled, -⟩ := hwait
  refine ⟨Table.find?_mem (QueueTable.find?_raise_of_mem (q := videoQueue)
    (Table.find?_of_mem hrow) (List.mem_singleton_self row.id)), hscheduled, fun state hs => ?_⟩
  rw [QueueTable.advanced_state, PublishState.db_inj] at hs
  rw [← hs]
  exact hnext

theorem reopened_jobs {s s' : Store} (h : Reopened s s') : s'.jobs = s.jobs := by
  obtain ⟨db, db', rfl, hrun, rfl⟩ := h
  exact migrate_jobs hrun

end Claims

/-- **What crashes strand.** Let the schedules of all jobs and claims be from a set of texts that
    compare as their dates do, and the clocks of the years 0 to 9999. In every run, after the
    database is opened again, a scheduled job that has not ended is claimable when due unless it is
    dispatching, and no claim returns a job that is. If besides no process of the run crashed while
    it held a claim, or ended with a requeue failed, then every dispatching job is a claim of a
    process still running; and when none is, all that wait are claimable. -/
theorem crash_safety {T : Set LocalSchedule} (hT : ∀ due ∈ T, due.Accepted) (hagree : AgreesOn T)
    {events : List QueuePoolEvent} {w : QueuePool}
    (h : Trace QueuePoolStep ⟨.initial, []⟩ events w)
    (hwithin : ∀ e ∈ events, StartsWithin T e) {s : Store} (hopen : Reopened w.state s) :
    (∀ row ∈ s.jobs.rows, Waiting row →
      (row.state ≠ PublishState.dispatching.db → Claimable T s row) ∧
      (row.state = PublishState.dispatching.db → NeverClaimed s row.id)) ∧
    ((∀ e ∈ events, LosesNoClaim e) →
      (∀ row ∈ s.jobs.rows, row.state = PublishState.dispatching.db →
        ∃ p ∈ w.processes, (row.id, row.revision) ∈ openClaims p.log) ∧
      (w.processes = [] → ∀ row ∈ s.jobs.rows, Waiting row → Claimable T s row)) := by
  have hjobs := reopened_jobs hopen
  have hsound : ∀ row ∈ s.jobs.rows, Sound T row := by
    rw [hjobs]
    exact (pool_orderly h hwithin).sound
  have hclaimable : ∀ row ∈ s.jobs.rows, Waiting row →
      row.state ≠ PublishState.dispatching.db → Claimable T s row := by
    intro row hrow hwait hnot
    exact claimable_of_queued hT hagree hsound hrow ((hsound row hrow).queued_of_waiting hwait hnot)
  refine ⟨fun row hrow hwait => ⟨hclaimable row hrow hwait, neverClaimed_of_dispatching hrow⟩, ?_⟩
  intro hno
  have hheld : ∀ row ∈ s.jobs.rows, row.state = PublishState.dispatching.db →
      ∃ p ∈ w.processes, (row.id, row.revision) ∈ openClaims p.log := by
    rw [hjobs]
    exact pool_allHeld h hwithin hno
  refine ⟨hheld, fun hnone row hrow hwait => hclaimable row hrow hwait fun hdisp => ?_⟩
  obtain ⟨p, hp, -⟩ := hheld row hrow hdisp
  rw [hnone] at hp
  cases hp

/-! ## 3. A pass that settles its claim, and a crash that strands one -/

/-- A file at the last version, with the given tables. -/
def currentDatabase (s : Store) : Database := ⟨s, [2, 3, 4, 5, 6, 7, 8, 9], []⟩

theorem reopened_current (s : Store) : Reopened s s := by
  have hcur : (currentDatabase s).Current := by
    intro version hlow hhigh
    unfold currentDatabase
    simp only [List.mem_cons, List.not_mem_nil, or_false]
    omega
  exact ⟨currentDatabase s, currentDatabase s, rfl, (migrate_current hcur).runs, rfl⟩

/-- The schedules of the sample run. -/
def sampleSchedules : Set LocalSchedule := {sampleDue}

theorem sampleSchedules_accepted : ∀ due ∈ sampleSchedules, due.Accepted := by
  intro due hdue
  cases hdue
  exact ⟨_, sampleDue_naive⟩

theorem sampleSchedules_agree : AgreesOn sampleSchedules := by
  intro a ha b hb ta tb hta htb
  cases ha
  cases hb
  rw [hta] at htb
  cases htb
  exact iff_of_true le_rfl le_rfl

/-- One process enqueues `sampleJob` and ends. -/
def sampleEnqueue : List QueuePoolEvent :=
  [.started (.enqueue scheduledRequest sampleNow),
    .called (.enqueue scheduledRequest sampleNow) []
      ⟨.allocate scheduledRequest sampleNow, Except.ok sampleJob⟩,
    .called (.enqueue scheduledRequest sampleNow)
      [⟨.allocate scheduledRequest sampleNow, Except.ok sampleJob⟩]
      ⟨.insert sampleJob, Except.ok ()⟩,
    .ended (.enqueue scheduledRequest sampleNow)
      [⟨.allocate scheduledRequest sampleNow, Except.ok sampleJob⟩,
        ⟨.insert sampleJob, Except.ok ()⟩]]

theorem sample_pool : Trace QueuePoolStep ⟨.initial, []⟩ sampleEnqueue ⟨sampleQueued, []⟩ := by
  refine .cons (.started (QueueOrigin.enqueue scheduledRequest sampleNow)) ?_
  refine .cons (poolStep_called sample_allocate rfl) ?_
  refine .cons (poolStep_called sample_insert rfl) ?_
  exact .single (.ended [] [])

/-- The enqueued job waits. -/
theorem sample_waiting : ∃ row ∈ sampleQueued.jobs.rows, Waiting row ∧ row.id = "job-1" ∧
    row.dueAt = some sampleDue.text := by
  obtain ⟨row, jobs, hto, hins, he⟩ := insertJob_ok sample_insert
  obtain ⟨hencode, hid, hstate, hdue, -⟩ := QueueTable.jobToRow_ok hto
  refine ⟨row, ?_, ⟨⟨sampleJob.request, sampleDue, videoQueue.decode_encode hencode, rfl, rfl⟩, ?_⟩,
    hid, hdue⟩
  · rw [he]
    change row ∈ jobs.rows
    rw [(Table.insert_eq_some hins).2]
    exact List.mem_append_right _ (List.mem_singleton_self row)
  · intro state hs
    rw [hstate, PublishState.db_inj] at hs
    rw [← hs]
    rfl

/-- A pass over that job, of at most five. -/
def sampleTick : QueueOrigin := .tick true sampleDue sampleNow 5

@[irreducible] def sampleRequeued : Store :=
  (requeueClaim "job-1" 1 sampleNow ⟨sampleClaimed, []⟩).2.store

@[irreducible] def sampleLeft : Store :=
  (articleQueue.claim sampleDue sampleNow 4 ⟨sampleRequeued, []⟩).2.store

@[irreducible] def sampleAllocatedAgain : Store :=
  (enqueueBegin scheduledRequest sampleNow ⟨sampleLeft, []⟩).2.store

/-- The claimed job, queued again. -/
def requeuedJob : ScheduledJob := { sampleJob with state := .queued, revision := 2 }

/-- The replies to the requeue, to the claim of articles and to the next allocation. -/
theorem sample_requeue_replies :
    (requeueClaim "job-1" 1 sampleNow ⟨sampleClaimed, []⟩).1 = .ok requeuedJob ∧
    (articleQueue.claim sampleDue sampleNow 4 ⟨sampleRequeued, []⟩).1 = .ok [] ∧
    (enqueueBegin scheduledRequest sampleNow ⟨sampleLeft, []⟩).1 =
      .ok { sampleJob with id := "job-2" } := by
  unfold sampleLeft sampleRequeued sampleClaimed
  decide +kernel

theorem sample_requeue : Sql.Runs (requeueClaim "job-1" 1 sampleNow) sampleClaimed
    (.ok requeuedJob) sampleRequeued := by
  unfold sampleRequeued
  exact Sql.runs_of_reply sample_requeue_replies.1

theorem sample_left :
    Sql.Runs (articleQueue.claim sampleDue sampleNow 4) sampleRequeued (.ok []) sampleLeft := by
  unfold sampleLeft
  exact Sql.runs_of_reply sample_requeue_replies.2.1

theorem sample_allocate_again : Sql.Runs (enqueueBegin scheduledRequest sampleNow) sampleLeft
    (.ok { sampleJob with id := "job-2" }) sampleAllocatedAgain := by
  unfold sampleAllocatedAgain
  exact Sql.runs_of_reply sample_requeue_replies.2.2

/-- The calls of a pass that cannot complete the job it has dispatched, and requeues it. -/
def sampleRequeueLog : CallLog :=
  [⟨.claim .video sampleDue sampleNow 5, Except.ok [QueueTable.claimedJob sampleNow sampleJob]⟩,
    ⟨.dispatch .video (Lane.unscheduled .video scheduledRequest), sampleReply⟩,
    ⟨.complete .video "job-1" 1 (schedulerOutcome sampleReply).1 sampleNow
      (some (schedulerOutcome sampleReply).2), Except.error (.database "disk full")⟩,
    ⟨.requeue .video "job-1" 1 sampleNow, Except.ok requeuedJob⟩,
    ⟨.claim .article sampleDue sampleNow 4, Except.ok []⟩]

/-- The events of a process that makes these calls. -/
def callEvents (origin : QueueOrigin) (log : CallLog) : List QueuePoolEvent :=
  log.zipIdx.map fun (c, n) => .called origin (log.take n) c

/-- That pass from its start to its end, and an enqueue that crashes when it has its id. -/
def sampleSettling : List QueuePoolEvent :=
  .started sampleTick :: callEvents sampleTick sampleRequeueLog ++
    [.ended sampleTick sampleRequeueLog,
      .started (.enqueue scheduledRequest sampleNow),
      .called (.enqueue scheduledRequest sampleNow) []
        ⟨.allocate scheduledRequest sampleNow, Except.ok { sampleJob with id := "job-2" }⟩,
      .crashed (.enqueue scheduledRequest sampleNow)
        [⟨.allocate scheduledRequest sampleNow, Except.ok { sampleJob with id := "job-2" }⟩]]

theorem sample_settling :
    Trace QueuePoolStep ⟨sampleQueued, []⟩ sampleSettling ⟨sampleAllocatedAgain, []⟩ := by
  have hdispatch : Call.Handles (.dispatch .video (Lane.unscheduled .video scheduledRequest))
      sampleClaimed sampleReply sampleClaimed := ⟨⟨queueingRegistry, rfl⟩, rfl⟩
  -- The transaction of the completion does not begin.
  have hcomplete : Call.Handles (.complete .video "job-1" 1 (schedulerOutcome sampleReply).1
      sampleNow (some (schedulerOutcome sampleReply).2)) sampleClaimed
      (Except.error (.database "disk full")) sampleClaimed := ⟨[some "disk full"], [], rfl⟩
  refine .cons (.started sampleTick) ?_
  refine .cons (poolStep_called sample_claim rfl) ?_
  refine .cons (poolStep_called hdispatch rfl) ?_
  refine .cons (poolStep_called hcomplete rfl) ?_
  refine .cons (poolStep_called sample_requeue rfl) ?_
  refine .cons (poolStep_called sample_left rfl) ?_
  refine .cons (.ended [] []) ?_
  refine .cons (.started (QueueOrigin.enqueue scheduledRequest sampleNow)) ?_
  refine .cons (poolStep_called sample_allocate_again rfl) ?_
  exact .single (.crashed [] [])

/-- The job the pass has claimed and requeued waits again. -/
theorem sample_waits_again : ∃ row ∈ sampleAllocatedAgain.jobs.rows, Waiting row ∧
    row.state = PublishState.queued.db := by
  obtain ⟨row, hrow, hwait, hid, -⟩ := sample_waiting
  obtain ⟨-, -, -, hclaimed⟩ := QueueTable.claim_jobs (q := videoQueue) sample_claim
  obtain ⟨-, -, -, -, -, -, hrequeued, -⟩ := QueueTable.requeue_ok (q := videoQueue) sample_requeue
  obtain ⟨-, -, -, hleft⟩ := QueueTable.claim_jobs (q := articleQueue) sample_left
  obtain ⟨-, -, hallocated⟩ := enqueueBegin_ok sample_allocate_again
  have hids : [QueueTable.claimedJob sampleNow sampleJob].map (·.id) = [row.id] := by
    rw [hid]
    rfl
  obtain ⟨hrow₁, hwait₁⟩ := waiting_raised .dispatching sampleNow hrow hwait rfl
  rw [← hids, ← hclaimed] at hrow₁
  obtain ⟨hrow₂, hwait₂⟩ := waiting_raised .queued sampleNow hrow₁ hwait₁ rfl
  refine ⟨_, ?_, hwait₂, rfl⟩
  rw [hallocated, hleft, List.map_nil, QueueTable.raise_nil, hrequeued]
  rw [QueueTable.advanced_id, hid] at hrow₂
  exact hrow₂

/-- Every process of the run ends, or crashes with no claim of its own: the job waits again, and it
    can be claimed when the database is opened again. -/
theorem crash_safety_sample :
    ∃ row ∈ sampleAllocatedAgain.jobs.rows, Waiting row ∧
      Claimable sampleSchedules sampleAllocatedAgain row := by
  obtain ⟨row, hrow, hwait, -⟩ := sample_waits_again
  have hnow : NaiveDateTime.FourDigitYear sampleNow := by decide
  have hdue : ∀ due, scheduledRequest.scheduledAt = some due → due ∈ sampleSchedules := by
    intro due hs
    cases hs
    rfl
  have hwithin : ∀ e ∈ sampleEnqueue ++ sampleSettling, StartsWithin sampleSchedules e := by
    simp only [sampleEnqueue, sampleSettling, callEvents, sampleRequeueLog, sampleTick,
      List.forall_mem_append, List.forall_mem_cons, StartsWithin, QueueOrigin.Within,
      List.zipIdx_cons, List.zipIdx_nil, List.map_cons, List.map_nil, List.not_mem_nil,
      false_imp_iff, implies_true, and_true, true_and]
    exact ⟨⟨hnow, hdue⟩, hnow, hnow, hdue⟩
  have hno : ∀ e ∈ sampleEnqueue ++ sampleSettling, LosesNoClaim e := by
    simp [sampleEnqueue, sampleSettling, callEvents, sampleRequeueLog, LosesNoClaim,
      Call.requeueFails, openClaims, Call.opens, Call.settles]
  refine ⟨row, hrow, hwait, ?_⟩
  exact ((crash_safety sampleSchedules_accepted sampleSchedules_agree
    (sample_pool.append sample_settling) hwithin (reopened_current sampleAllocatedAgain)).2 hno).2
    rfl row hrow hwait

/-- A pass claims the job and crashes. -/
def sampleCrash : List QueuePoolEvent :=
  [.started sampleTick,
    .called sampleTick []
      ⟨.claim .video sampleDue sampleNow 5,
        Except.ok [QueueTable.claimedJob sampleNow sampleJob]⟩,
    .crashed sampleTick
      [⟨.claim .video sampleDue sampleNow 5,
        Except.ok [QueueTable.claimedJob sampleNow sampleJob]⟩]]

theorem sample_crash :
    Trace QueuePoolStep ⟨sampleQueued, []⟩ sampleCrash ⟨sampleClaimed, []⟩ :=
  .cons (.started sampleTick)
    (.cons (poolStep_called sample_claim rfl) (.single (.crashed [] [])))

/-- The job the crash leaves: claimed, and as due as before. -/
theorem sample_stranded : ∃ row ∈ sampleClaimed.jobs.rows, Waiting row ∧
    row.state = PublishState.dispatching.db ∧
    dueTime row = some ⟨2026, 7, 29, 9, 0, 0, 0, by decide⟩ := by
  obtain ⟨row, hrow, hwait, hid, hdue⟩ := sample_waiting
  obtain ⟨-, -, -, he⟩ := QueueTable.claim_jobs (q := videoQueue) sample_claim
  have hids : [QueueTable.claimedJob sampleNow sampleJob].map (·.id) = [row.id] := by
    rw [hid]
    rfl
  obtain ⟨hclaimed, hstill⟩ := waiting_raised .dispatching sampleNow hrow hwait rfl
  rw [← hids, ← he] at hclaimed
  have htext : row.dueAt = some sampleDue.text := hdue
  exact ⟨_, hclaimed, hstill, rfl, dueTime_of_text htext sampleDue_naive⟩

/-- **A process that crashes between claim and completion strands the job**: with no process left
    and the database opened again, no claim returns it. -/
theorem claim_stranded : ∃ events w s row, Trace QueuePoolStep ⟨.initial, []⟩ events w ∧
    w.processes = [] ∧ Reopened w.state s ∧ row ∈ s.jobs.rows ∧ Waiting row ∧
    row.state = PublishState.dispatching.db ∧ NeverClaimed s row.id ∧
    ¬ Claimable sampleSchedules s row := by
  obtain ⟨row, hrow, hwait, hstate, hdue⟩ := sample_stranded
  have hnever := neverClaimed_of_dispatching hrow hstate
  refine ⟨_, _, sampleClaimed, row, sample_pool.append sample_crash, rfl,
    reopened_current sampleClaimed, hrow, hwait, hstate, hnever, fun hclaimable => ?_⟩
  have hroom : sampleClaimed.jobs.rows.length ≤ min 64 maxClaimBatch := by
    unfold sampleClaimed
    decide +kernel
  obtain ⟨⟨claimed, s', hclean⟩, hall⟩ := hclaimable sampleDue rfl _ sampleDue_naive
    ⟨_, hdue, le_rfl⟩ 64 (List.countP_le_length.trans hroom) sampleNow
  exact hnever _ _ _ _ _ hclean.runs (hall claimed s' hclean.runs)

end MatriXpost
