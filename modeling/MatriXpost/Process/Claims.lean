/-
  File:      MatriXpost/Process/Claims.lean
  Subject:   THE CLAIMS A PROCESS HOLDS. Enqueues and passes of the scheduler are processes over one
             database; what a process holds is read off the log of its calls.

  * `keeps_program`: a process that comes to its end with no requeue failed holds nothing;
  * `sound_change` and `held_change`: what a call keeps of the rows and of who holds them.
-/
import MatriXpost.Process.Tick
import MatriXpost.Queue.Due

namespace MatriXpost

/-! ## 1. The processes -/

/-- What a process is started for. -/
inductive QueueOrigin where
  | enqueue (request : PublishRequest) (now : DateTime)
  | tick (articleRunner : Bool) (dueThrough : LocalSchedule) (updatedAt : DateTime)
      (batchSize : Nat)

def QueueOrigin.program : QueueOrigin → Task Unit
  | .enqueue request now => (Task.enqueue request now).discard
  | .tick articleRunner dueThrough updatedAt batchSize =>
    (runSchedulerTickAt articleRunner dueThrough updatedAt batchSize).discard

abbrev QueuePool := Pool QueueOrigin Call Call.Reply Store

abbrev QueuePoolEvent := PoolEvent QueueOrigin Call Call.Reply

abbrev QueuePoolStep : QueuePool → QueuePoolEvent → QueuePool → Prop :=
  PoolStep QueueOrigin.program Call.Handles

/-! ## 2. The claims a process holds -/

/-- A requeue that fails. -/
def Call.requeueFails : (c : Call) → c.Reply → Bool
  | .requeue .video _ _ _, .error _ => true
  | _, _ => false

/-- The claims a log holds. -/
def openClaims (log : CallLog) : List (String × Nat) :=
  log.foldl (fun held c => (held ++ c.call.opens c.reply).filter fun x =>
    decide (c.call.settles c.reply ≠ some x)) []

theorem mem_openClaims_snoc {log : CallLog} {c : Call} {r : c.Reply} {x : String × Nat} :
    x ∈ openClaims (log ++ [⟨c, r⟩]) ↔
      (x ∈ openClaims log ∨ x ∈ c.opens r) ∧ c.settles r ≠ some x := by
  unfold openClaims
  rw [List.foldl_append, List.foldl_cons, List.foldl_nil, List.mem_filter, List.mem_append,
    decide_eq_true_eq]

/-- A log that ends with no requeue failed holds nothing. -/
def SettlesAll (log : CallLog) : Prop :=
  (∀ c ∈ log, c.call.requeueFails c.reply = false) → openClaims log = []

/-! ## 3. What the processes call -/

/-- What the reply of `allocate` says of its job. -/
def Answers : Called Call Call.Reply → Prop
  | ⟨.allocate request now, .ok job⟩ =>
    request.validate = .ok () ∧ ∃ id, job = enqueuedJob request id now
  | _ => True

theorem answers_of_handles {c : Call} {r : c.Reply} {s s' : Store} (h : c.Handles s r s') :
    Answers ⟨c, r⟩ := by
  cases c with
  | allocate request now =>
    rcases r with e | job
    · trivial
    · obtain ⟨hvalid, hjob, -⟩ := enqueueBegin_ok h
      exact ⟨hvalid, _, hjob⟩
  | _ => trivial

/-- The calls of the processes: jobs to insert are fresh from `enqueue`, completions lead to
    terminal states, and clocks have years of four digits. -/
def Permitted (T : Set LocalSchedule) : Call → Prop
  | .insert job => PendingReadable T job ∧ ∃ request id now, job = enqueuedJob request id now
  | .claim _ _ now _ => now.FourDigitYear
  | .complete _ _ _ next now _ => next.terminal = true ∧ now.FourDigitYear
  | .requeue _ _ _ now => now.FourDigitYear
  | _ => True

/-- What is enqueued is due at a time of `T`; clocks have years of four digits. -/
def QueueOrigin.Within (T : Set LocalSchedule) : QueueOrigin → Prop
  | .enqueue request now =>
    now.FourDigitYear ∧ ∀ due, request.scheduledAt = some due → due ∈ T
  | .tick _ _ updatedAt _ => updatedAt.FourDigitYear

section Keeps
variable {T : Set LocalSchedule} {log : CallLog}

/-- The account of a task: its calls are permitted, and its answer comes with such a log. -/
abbrev KeepsTo {α : Type} (T : Set LocalSchedule) (final : CallLog → α → Prop) (log : CallLog)
    (p : Task α) : Prop := p.Keeps Answers (fun _ c => Permitted T c) final log

/-- The log holds claims of these jobs at most, if no requeue has failed. -/
def HoldsOnly (jobs : List ScheduledJob) (log : CallLog) : Prop :=
  (∀ c ∈ log, c.call.requeueFails c.reply = false) →
    ∀ x ∈ openClaims log, x ∈ jobs.map fun job => (job.id, job.revision)

theorem HoldsOnly.settlesAll (h : HoldsOnly [] log) : SettlesAll log := fun hno =>
  List.eq_nil_iff_forall_not_mem.mpr fun x hx => by cases h hno x hx

/-- A call that opens nothing keeps what holds. -/
theorem HoldsOnly.snoc {jobs : List ScheduledJob} {c : Call} {r : c.Reply} (h : HoldsOnly jobs log)
    (hopens : c.opens r = []) : HoldsOnly jobs (log ++ [⟨c, r⟩]) := by
  intro hno x hx
  obtain ⟨hheld, -⟩ := mem_openClaims_snoc.mp hx
  rw [hopens] at hheld
  refine h (fun c' hc' => hno c' (List.mem_append_left _ hc')) x ?_
  exact hheld.resolve_right (List.not_mem_nil)

/-- A call that settles the first of the jobs leaves the others. -/
theorem HoldsOnly.settle {job : ScheduledJob} {rest : List ScheduledJob} {c : Call} {r : c.Reply}
    (h : HoldsOnly (job :: rest) log) (hopens : c.opens r = [])
    (hsettles : c.settles r = some (job.id, job.revision)) :
    HoldsOnly rest (log ++ [⟨c, r⟩]) := by
  intro hno x hx
  have hne := (mem_openClaims_snoc.mp hx).2
  have hmem := h.snoc hopens hno x hx
  rw [List.map_cons, List.mem_cons] at hmem
  refine hmem.resolve_left fun he => hne ?_
  rw [hsettles, he]

theorem keeps_enqueue {request : PublishRequest} {now : DateTime} (hnow : now.FourDigitYear)
    (hT : ∀ due, request.scheduledAt = some due → due ∈ T) :
    KeepsTo T (fun log _ => HoldsOnly [] log) [] (Task.enqueue request now) := by
  have hempty : HoldsOnly [] [] := fun _ x hx => hx
  refine ⟨trivial, fun reply hanswer => ?_⟩
  rcases reply with e | job
  · exact hempty.snoc rfl
  · obtain ⟨hvalid, id, rfl⟩ := hanswer
    refine ⟨⟨pendingReadable_enqueued hvalid hT hnow, request, id, now, rfl⟩, fun reply' _ => ?_⟩
    rcases reply' with e | u
    · exact (hempty.snoc rfl).snoc rfl
    · exact (hempty.snoc rfl).snoc rfl

/-- **A claimed job is settled by its turn, unless its requeue fails.** -/
theorem keeps_handleClaimed {now : DateTime} {job : ScheduledJob} {rest : List ScheduledJob}
    (hnow : now.FourDigitYear) (h : HoldsOnly (job :: rest) log) :
    KeepsTo T (fun log _ => HoldsOnly rest log) log (handleClaimed .video true now job) := by
  refine ⟨trivial, fun result _ => ?_⟩
  have hsent := h.snoc (c := .dispatch .video (Lane.unscheduled .video job.request))
    (r := result) rfl
  refine ⟨⟨Lane.terminalOf_terminal .video result, hnow⟩, fun completed _ => ?_⟩
  rcases completed with e | done
  · refine ⟨hnow, fun requeued _ => ?_⟩
    rcases requeued with e' | back
    · intro hno
      cases hno ⟨.requeue .video job.id job.revision now, .error e'⟩
        (List.mem_append_right _ (List.mem_singleton_self _))
    · exact (hsent.snoc rfl).settle rfl rfl
  · exact hsent.settle rfl rfl

/-- An article's turn leaves the claims on videos alone. -/
theorem keeps_handleArticle {now : DateTime} {configured : Bool} {job : ArticleScheduledJob}
    (hnow : now.FourDigitYear) (h : HoldsOnly [] log) :
    KeepsTo T (fun log _ => HoldsOnly [] log) log (handleClaimed .article configured now job) := by
  have hsettle : ∀ log (terminal : PublishState × String), HoldsOnly [] log →
      terminal.1.terminal = true →
      KeepsTo T (fun log _ => HoldsOnly [] log) log (settle .article now job terminal) := by
    intro log terminal h hterm
    refine ⟨⟨hterm, hnow⟩, fun completed _ => ?_⟩
    rcases completed with e | done
    · exact ⟨hnow, fun requeued _ => (h.snoc rfl).snoc (by cases requeued <;> rfl)⟩
    · exact h.snoc rfl
  cases configured with
  | false => exact hsettle _ _ h rfl
  | true =>
    refine ⟨trivial, fun result _ => ?_⟩
    exact hsettle _ _ (h.snoc rfl) (Lane.terminalOf_terminal .article result)

/-- **A pass that ends has settled all it claimed, unless a requeue failed.** -/
theorem keeps_tick {articleRunner : Bool} {dueThrough : LocalSchedule} {now : DateTime}
    {batchSize : Nat} (hnow : now.FourDigitYear) :
    KeepsTo T (fun log _ => HoldsOnly [] log) []
      (runSchedulerTickAt articleRunner dueThrough now batchSize) := by
  have hempty : HoldsOnly [] [] := fun _ x hx => hx
  refine ⟨hnow, fun claimed _ => ?_⟩
  rcases claimed with e | jobs
  · exact hempty.snoc rfl
  have hopened : HoldsOnly jobs ([] ++ [⟨.claim .video dueThrough now batchSize, .ok jobs⟩]) := by
    intro _ x hx
    exact (mem_openClaims_snoc.mp hx).1.resolve_left (List.not_mem_nil)
  refine keeps_bind (p := Prog.forEach jobs (handleClaimed .video true now))
    (keeps_mono (keeps_forEach (I := HoldsOnly) hopened ?_) fun log _ hlog => ?_)
  · intro job rest log hI
    exact keeps_handleClaimed hnow hI
  refine ⟨hnow, fun claimed' _ => ?_⟩
  rcases claimed' with e | articles
  · exact hlog.snoc rfl
  refine keeps_bind (p := Prog.forEach articles (handleClaimed .article articleRunner now))
    (keeps_forEach (I := fun _ => HoldsOnly []) (hlog.snoc rfl) ?_)
  intro job rest log hI
  exact keeps_handleArticle hnow hI

theorem keeps_program {origin : QueueOrigin} (h : origin.Within T) :
    KeepsTo T (fun log _ => SettlesAll log) [] origin.program := by
  cases origin with
  | enqueue request now =>
    exact keeps_bind (keeps_mono (keeps_enqueue h.1 h.2) fun _ _ h => h.settlesAll)
  | tick articleRunner dueThrough updatedAt batchSize =>
    exact keeps_bind (keeps_mono (keeps_tick h) fun _ _ h => h.settlesAll)

end Keeps

/-! ## 4. What a permitted call keeps -/

section Jobs
variable {T : Set LocalSchedule}

/-- A row that reads, and that a schedule made due when its request is no draft. -/
structure Sound (T : Set LocalSchedule) (row : JobRow) : Prop where
  readable : videoQueue.Readable T row
  scheduled : ∀ request due, videoQueue.decode row.requestJson = .ok request →
    request.draft = false → request.scheduledAt = some due →
    row.dueAt = some due.text ∧ row.state ≠ PublishState.draft.db

theorem sound_advanced {row : JobRow} {next : PublishState} {now : DateTime} (h : Sound T row)
    (hnext : next ≠ .draft) (hnow : now.FourDigitYear) :
    Sound T (QueueTable.advanced next now row) := by
  refine ⟨QueueTable.readable_advanced h.readable hnow, fun request due hdecode hdraft hs => ?_⟩
  obtain ⟨hdue, -⟩ := h.scheduled request due hdecode hdraft hs
  refine ⟨hdue, fun he => hnext ?_⟩
  rw [QueueTable.advanced_state, PublishState.db_inj] at he
  exact he

theorem enqueuedJob_state (request : PublishRequest) (id : String) (now : DateTime) :
    (enqueuedJob request id now).state = if request.draft then .draft else .queued := rfl

theorem sound_enqueued {request : PublishRequest} {id : String} {now : DateTime} {row : JobRow}
    (hpending : PendingReadable T (enqueuedJob request id now))
    (hto : videoQueue.jobToRow (enqueuedJob request id now) = .ok row) : Sound T row := by
  obtain ⟨hparse, hdue, hnow⟩ := hpending
  obtain ⟨hencode, -, hstate, hcolumn, -, -⟩ := QueueTable.jobToRow_ok hto
  refine ⟨QueueTable.readable_jobToRow hto hparse hdue hnow, ?_⟩
  intro request' due hdecode hdraft hs
  have he : request' = request.runnerSafe :=
    Except.ok.inj (hdecode.symm.trans (videoQueue.decode_encode hencode))
  subst he
  have hnodraft : request.draft = false := hdraft
  have hschedule : request.scheduledAt = some due := hs
  constructor
  · rw [hcolumn]
    change (request.scheduledAt).map (·.text) = some due.text
    rw [hschedule]
    rfl
  · rw [hstate, enqueuedJob_state, hnodraft]
    decide

theorem not_of_terminal {next : PublishState} (h : next.terminal = true) :
    next ≠ .dispatching ∧ next ≠ .draft := by
  constructor
  · intro he
    rw [he] at h
    cases h
  · intro he
    rw [he] at h
    cases h

/-- A permitted call that settles a claim leads out of `dispatching`, and not back to a draft. -/
theorem settles_permitted {c : Call} {id : String} {revision : Nat} {next : PublishState}
    {now : DateTime} (hperm : Permitted T c) (h : c.SettlesTo id revision next now) :
    next ≠ .dispatching ∧ next ≠ .draft ∧ now.FourDigitYear := by
  rcases h with ⟨detail, rfl⟩ | ⟨rfl, rfl⟩
  · obtain ⟨hdisp, hdraft⟩ := not_of_terminal hperm.1
    exact ⟨hdisp, hdraft, hperm.2⟩
  · exact ⟨by decide, by decide, hperm⟩

theorem sound_change {c : Call} {r : c.Reply} {s s' : Store} (hperm : Permitted T c)
    (h : CallChange c r s s') (hs : ∀ row ∈ s.jobs.rows, Sound T row) :
    ∀ row ∈ s'.jobs.rows, Sound T row := by
  intro row hrow
  cases h with
  | same _ hjobs =>
    rw [hjobs] at hrow
    exact hs row hrow
  | inserted job new hcall _ hto hins =>
    subst hcall
    obtain ⟨hpending, request, id, now, rfl⟩ := hperm
    rw [(Table.insert_eq_some hins).2, List.mem_append, List.mem_singleton] at hrow
    rcases hrow with hrow | rfl
    · exact hs row hrow
    · exact sound_enqueued hpending hto
  | claimed dueThrough now limit hcall _ _ hjobs =>
    subst hcall
    rw [hjobs] at hrow
    rcases QueueTable.mem_raise (q := videoQueue) hrow with ⟨hold, -⟩ | ⟨old, hold, -, rfl⟩
    · exact hs row hold
    · exact sound_advanced (hs old hold) (by decide) hperm
  | settled id revision next now _ hcall hjobs =>
    obtain ⟨-, hdraft, hnow⟩ := settles_permitted hperm hcall
    rw [hjobs] at hrow
    rcases QueueTable.mem_raise (q := videoQueue) hrow with ⟨hold, -⟩ | ⟨old, hold, -, rfl⟩
    · exact hs row hold
    · exact sound_advanced (hs old hold) hdraft hnow

/-- Every dispatching row is a claim some log holds, or another holder does. -/
def Held (log : CallLog) (others : String × Nat → Prop) (s : Store) : Prop :=
  ∀ row ∈ s.jobs.rows, row.state = PublishState.dispatching.db →
    (row.id, row.revision) ∈ openClaims log ∨ others (row.id, row.revision)

/-- **A call leaves no dispatching row without a holder.** -/
theorem held_change {log : CallLog} {others : String × Nat → Prop} {c : Call} {r : c.Reply}
    {s s' : Store} (hperm : Permitted T c) (h : CallChange c r s s') (hI : Held log others s) :
    Held (log ++ [⟨c, r⟩]) others s' := by
  have hkeep : c.settles r = none → ∀ x, x ∈ openClaims log ∨ others x →
      x ∈ openClaims (log ++ [⟨c, r⟩]) ∨ others x := by
    intro hnone x hx
    refine hx.imp_left fun hx => mem_openClaims_snoc.mpr ⟨.inl hx, ?_⟩
    rw [hnone]
    simp
  intro row hrow hstate
  cases h with
  | same hnone hjobs =>
    rw [hjobs] at hrow
    exact hkeep hnone _ (hI row hrow hstate)
  | inserted job new hcall hnone hto hins =>
    rw [(Table.insert_eq_some hins).2, List.mem_append, List.mem_singleton] at hrow
    rcases hrow with hrow | rfl
    · exact hkeep hnone _ (hI row hrow hstate)
    · subst hcall
      obtain ⟨-, request, id, now, rfl⟩ := hperm
      rw [(QueueTable.jobToRow_ok hto).2.2.1, enqueuedJob_state, PublishState.db_inj] at hstate
      cases hdraft : request.draft <;> simp [hdraft] at hstate
  | claimed dueThrough now limit _ hnone hopens hjobs =>
    rw [hjobs] at hrow
    rcases QueueTable.mem_raise (q := videoQueue) hrow with ⟨hold, -⟩ | ⟨old, hold, hid, rfl⟩
    · exact hkeep hnone _ (hI row hold hstate)
    · obtain ⟨found, hfind, hmem⟩ := hopens old.id hid
      have he : found = old := Option.some.inj (hfind.symm.trans (Table.find?_of_mem hold))
      subst he
      refine .inl (mem_openClaims_snoc.mpr ⟨.inr hmem, ?_⟩)
      rw [hnone]
      simp
  | settled id revision next now hsettles hcall hjobs =>
    rw [hjobs] at hrow
    rcases QueueTable.mem_raise (q := videoQueue) hrow with ⟨hold, hid⟩ | ⟨old, -, -, rfl⟩
    · -- The claim that was settled is of another job.
      refine (hI row hold hstate).imp_left fun hx => mem_openClaims_snoc.mpr ⟨.inl hx, ?_⟩
      rw [hsettles]
      intro he
      exact hid (List.mem_singleton.mpr (Prod.mk.inj (Option.some.inj he)).1.symm)
    · rw [QueueTable.advanced_state, PublishState.db_inj] at hstate
      exact absurd hstate (settles_permitted hperm hcall).1

end Jobs

end MatriXpost
