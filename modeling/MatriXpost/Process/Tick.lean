/-
  File:      MatriXpost/Process/Tick.lean
  Subject:   ONE PASS OF THE SCHEDULER, `run_scheduler_tick_at`, against every answer of its
             services and every pattern of failing writes, while others use the same database.

  The others may do anything but touch a job the pass has claimed or take history rows away
  (`TickEnv`).

  * `settle_exec` and `handleClaimed_exec`: how one claimed job goes. It is completed with its
    record, or back in the queue, or still dispatching, by what its own two writes answer;
  * `handleAll_exec`: all claimed jobs of a lane, whatever happens to the others;
  * `tick_safety`: the whole pass.
-/
import MatriXpost.Lib.Prog
import MatriXpost.Process.Calls
import MatriXpost.Queue.Completion

namespace MatriXpost

/-! ## 1. The pass -/

/-- Completion, and the requeue when it fails. -/
def settle (l : Lane) (now : DateTime) (job : l.Job) (terminal : PublishState × String) :
    Task Unit := do
  match ← Task.complete l job.id job.revision terminal.1 now (some terminal.2) with
  | .ok _ => pure ()
  | .error _ => do
    let _ ← Task.requeue l job.id job.revision now
    pure ()

/-- The dispatch of a claimed job, its schedule cleared. Articles need a configured runner. -/
def dispatchClaimed (l : Lane) (configured : Bool) (request : l.Request) :
    Task (PublishState × String) :=
  if configured then do
    let result ← Task.dispatch l (l.unscheduled request)
    pure (l.terminalOf result)
  else pure (.unavailable, scheduledLocalRunnerUnavailable)

/-- The body of the two loops. -/
def handleClaimed (l : Lane) (configured : Bool) (now : DateTime) (job : l.Job) : Task Unit := do
  let terminal ← dispatchClaimed l configured job.request
  settle l now job terminal

/-- `run_scheduler_tick_at`. -/
def runSchedulerTickAt (articleRunner : Bool) (dueThrough : LocalSchedule) (updatedAt : DateTime)
    (batchSize : Nat) : Task (Except DomainError Unit) := do
  match ← Task.claim .video dueThrough updatedAt batchSize with
  | .error e => pure (.error e)
  | .ok claimed => do
    Prog.forEach claimed (handleClaimed .video true updatedAt)
    let remaining := batchSize - claimed.length
    match ← Task.claim .article dueThrough updatedAt remaining with
    | .error e => pure (.error e)
    | .ok articles => do
      Prog.forEach articles (handleClaimed .article articleRunner updatedAt)
      pure (.ok ())

/-! ## 2. The pass among others -/

/-- The database, the jobs the pass has claimed, and the history rows its own calls have added. -/
structure TickWorld where
  store : Store
  owned : Lane → List String
  added : (l : Lane) → List l.Row

/-- The jobs a call has claimed in a lane. -/
def Call.claims : (c : Call) → c.Reply → Lane → List String
  | .claim lane _ _ _, .ok jobs, l => if lane = l then jobs.map (·.id) else []
  | _, _, _ => []

/-- A call of the pass. -/
def TickHandles (c : Call) (w : TickWorld) (r : c.Reply) (w' : TickWorld) : Prop :=
  c.Handles w.store r w'.store ∧ (∀ l, w'.owned l = w.owned l ++ c.claims r l) ∧
  ∀ l : Lane, w'.added l = w.added l ++ (l.history w'.store).drop (l.history w.store).length

/-- What holds over a part of the pass that touches only the jobs of `touched`: the other jobs it
    owns stay as they are, and no history row is taken away. -/
structure Frame (touched : Lane → String → Prop) (w w' : TickWorld) : Prop where
  owned : ∀ l, w'.owned l = w.owned l
  rows : ∀ l : Lane, ∀ id ∈ w.owned l, ¬ touched l id →
    (l.queue.jobs w'.store).find? id = (l.queue.jobs w.store).find? id
  history : ∀ l : Lane, ∃ more, l.history w'.store = l.history w.store ++ more

def untouched : Lane → String → Prop := fun _ _ => False

/-- What others may do. -/
def TickEnv (w w' : TickWorld) : Prop := Frame untouched w w' ∧ ∀ l, w'.added l = w.added l

theorem Frame.refl (touched : Lane → String → Prop) (w : TickWorld) : Frame touched w w :=
  ⟨fun _ => rfl, fun _ _ _ _ => rfl, fun _ => ⟨[], (List.append_nil _).symm⟩⟩

theorem Frame.trans {touched : Lane → String → Prop} {w₁ w₂ w₃ : TickWorld}
    (h : Frame touched w₁ w₂) (h' : Frame touched w₂ w₃) : Frame touched w₁ w₃ := by
  refine ⟨fun l => (h'.owned l).trans (h.owned l), fun l id hid hnot => ?_, fun l => ?_⟩
  · have hid' : id ∈ w₂.owned l := by
      rw [h.owned l]
      exact hid
    exact (h'.rows l id hid' hnot).trans (h.rows l id hid hnot)
  · obtain ⟨more, hmore⟩ := h.history l
    obtain ⟨more', hmore'⟩ := h'.history l
    exact ⟨more ++ more', by rw [hmore', hmore, List.append_assoc]⟩

theorem Frame.mono {touched touched' : Lane → String → Prop} {w w' : TickWorld}
    (h : Frame touched w w') (himp : ∀ l id, touched l id → touched' l id) :
    Frame touched' w w' :=
  ⟨h.owned, fun l id hid hnot => h.rows l id hid fun ht => hnot (himp l id ht), h.history⟩

theorem Frame.of_env {w w' : TickWorld} (h : TickEnv w w') (touched : Lane → String → Prop) :
    Frame touched w w' := h.1.mono fun _ _ hno => hno.elim

theorem tickEnv_refl (w : TickWorld) : TickEnv w w := ⟨Frame.refl _ w, fun _ => rfl⟩

/-- A run of a part of the pass. -/
abbrev TickRuns {α : Type} (p : Task α) (w : TickWorld) (log : CallLog) (a : α) (w' : TickWorld) :
    Prop := Exec TickEnv TickHandles p w log a w'

section Calls
variable {w w' : TickWorld} {l : Lane}

/-- A call that claims nothing and leaves the histories alone adds nothing to the account. -/
theorem quiet_call {c : Call} {r : c.Reply} (h : TickHandles c w r w')
    (hclaims : ∀ l, c.claims r l = [])
    (hhist : ∀ l : Lane, l.history w'.store = l.history w.store) :
    (∀ l, w'.owned l = w.owned l) ∧ ∀ l, w'.added l = w.added l := by
  refine ⟨fun l => ?_, fun l => ?_⟩
  · rw [h.2.1 l, hclaims l, List.append_nil]
  · rw [h.2.2 l, hhist l, List.drop_length, List.append_nil]

/-- A call that leaves the database alone is framed. -/
theorem frame_of_store {c : Call} {r : c.Reply} (h : TickHandles c w r w')
    (hclaims : ∀ l, c.claims r l = []) (hstore : w'.store = w.store) : TickEnv w w' := by
  obtain ⟨howned, hadded⟩ := quiet_call h hclaims fun l => by rw [hstore]
  exact ⟨⟨howned, fun l id _ _ => by rw [hstore], fun l => ⟨[], by rw [hstore, List.append_nil]⟩⟩,
    hadded⟩

end Calls

/-! ## 3. One claimed job -/

/-- How a claimed job ends. -/
inductive JobEnd (l : Lane) where
  | completed (state : PublishState) (record : l.History)
  | requeued
  | stranded

/-- The records it has inserted. -/
def JobEnd.records {l : Lane} : JobEnd l → List l.History
  | completed _ record => [record]
  | _ => []

/-- The dispatch of one job: once, its schedule cleared, if there is whom to send it to. -/
inductive Dispatched (l : Lane) (request : l.Request) :
    Bool → CallLog → PublishState × String → Prop
  | sent (result : Except DomainError l.Outcome) : l.Dispatches (l.unscheduled request) result →
      Dispatched l request true [⟨.dispatch l (l.unscheduled request), result⟩]
        (l.terminalOf result)
  | notConfigured :
      Dispatched l request false [] (.unavailable, scheduledLocalRunnerUnavailable)

/-- The two writes of one job, and where they leave it. -/
inductive Settled (l : Lane) (now : DateTime) (job : l.Job) (terminal : PublishState × String) :
    CallLog → JobEnd l → Prop
  | completed (job' : l.Job) (record : l.History) : Settled l now job terminal
      [⟨.complete l job.id job.revision terminal.1 now (some terminal.2),
        Except.ok (job', record)⟩] (.completed terminal.1 record)
  | requeued (e : DomainError) (job' : l.Job) : Settled l now job terminal
      [⟨.complete l job.id job.revision terminal.1 now (some terminal.2), Except.error e⟩,
        ⟨.requeue l job.id job.revision now, Except.ok job'⟩] .requeued
  | stranded (e e' : DomainError) : Settled l now job terminal
      [⟨.complete l job.id job.revision terminal.1 now (some terminal.2), Except.error e⟩,
        ⟨.requeue l job.id job.revision now, Except.error e'⟩] .stranded

/-- One job of a claim: its dispatch, then its writes. -/
def Handled (l : Lane) (configured : Bool) (now : DateTime) (job : l.Job) (log : CallLog)
    (ending : JobEnd l) : Prop :=
  ∃ log₁ log₂ terminal, log = log₁ ++ log₂ ∧ Dispatched l job.request configured log₁ terminal ∧
    Settled l now job terminal log₂ ending

/-- Where the database then has the job: terminal with its record in the history; or queued, or
    dispatching, at the revision of the requeue or of the claim. -/
def Stands (l : Lane) (job : l.Job) : JobEnd l → Store → Prop
  | .completed state record, s => state.terminal = true ∧ l.Matches job.request state record ∧
    (∃ row, (l.queue.jobs s).find? job.id = some row ∧ row.state = state.db ∧
      row.revision = job.revision + 1) ∧
    ∃ row ∈ l.history s, l.IsRow record row
  | .requeued, s => ∃ row, (l.queue.jobs s).find? job.id = some row ∧
    row.state = PublishState.queued.db ∧ row.revision = job.revision + 1
  | .stranded, s => ∃ row, (l.queue.jobs s).find? job.id = some row ∧
    row.state = PublishState.dispatching.db ∧ row.revision = job.revision

/-- The pass owns the job: claimed, and standing as the claim returned it. -/
structure Owned (l : Lane) (w : TickWorld) (job : l.Job) : Prop where
  mem : job.id ∈ w.owned l
  row : ∃ row, (l.queue.jobs w.store).find? job.id = some row ∧
    row.state = PublishState.dispatching.db ∧ row.revision = job.revision ∧
    l.queue.decode row.requestJson = .ok job.request

section Job
variable {l : Lane} {w w' : TickWorld} {job : l.Job} {now : DateTime} {log : CallLog}

theorem Owned.frame {touched : Lane → String → Prop} (h : Owned l w job)
    (hf : Frame touched w w') (hnot : ¬ touched l job.id) : Owned l w' job := by
  refine ⟨?_, ?_⟩
  · rw [hf.owned l]
    exact h.mem
  · rw [hf.rows l job.id h.mem hnot]
    exact h.row

/-- Where a job stands depends on its row, and on a history that keeps what it has. -/
theorem Stands.of_row {ending : JobEnd l} {s s' : Store} (h : Stands l job ending s)
    (hrow : (l.queue.jobs s').find? job.id = (l.queue.jobs s).find? job.id)
    (hhist : ∃ more, l.history s' = l.history s ++ more) : Stands l job ending s' := by
  cases ending with
  | completed state record =>
    obtain ⟨hterm, hmatch, ⟨jobRow, hfind, hrest⟩, row, hin, hrec⟩ := h
    obtain ⟨more, hmore⟩ := hhist
    refine ⟨hterm, hmatch, ⟨jobRow, hrow.trans hfind, hrest⟩, row, ?_, hrec⟩
    rw [hmore]
    exact List.mem_append_left more hin
  | requeued =>
    obtain ⟨jobRow, hfind, hrest⟩ := h
    exact ⟨jobRow, hrow.trans hfind, hrest⟩
  | stranded =>
    obtain ⟨jobRow, hfind, hrest⟩ := h
    exact ⟨jobRow, hrow.trans hfind, hrest⟩

/-- Where a job stands is not changed by what does not touch it. -/
theorem Stands.frame {touched : Lane → String → Prop} {ending : JobEnd l}
    (h : Stands l job ending w.store) (hf : Frame touched w w') (hmem : job.id ∈ w.owned l)
    (hnot : ¬ touched l job.id) : Stands l job ending w'.store :=
  h.of_row (hf.rows l job.id hmem hnot) (hf.history l)

/-- The jobs one job's handling touches: itself. -/
def itself (job : l.Job) : Lane → String → Prop := fun l' id => l' = l ∧ id = job.id

/-- The dispatch changes nothing here. -/
theorem dispatchClaimed_exec {configured : Bool} {request : l.Request}
    {terminal : PublishState × String}
    (h : TickRuns (dispatchClaimed l configured request) w log terminal w') :
    Dispatched l request configured log terminal ∧ terminal.1.terminal = true ∧
      Frame untouched w w' ∧ ∀ l', w'.added l' = w.added l' := by
  cases configured with
  | false =>
    obtain ⟨rfl, rfl, hframe, hadded⟩ := exec_ret h
    exact ⟨.notConfigured, rfl, hframe, hadded⟩
  | true =>
    obtain ⟨result, log', m, m', rfl, henv, hcall, hrest⟩ := exec_call h
    obtain ⟨rfl, rfl, henv'⟩ := exec_ret hrest
    have hsend := frame_of_store hcall (fun _ => rfl) hcall.1.2
    refine ⟨.sent result hcall.1.1, Lane.terminalOf_terminal l result,
      (henv.1.trans hsend.1).trans henv'.1, fun l' => ?_⟩
    rw [henv'.2 l', hsend.2 l', henv.2 l']

/-- A write of the job's own row is framed by it. -/
theorem frame_own {c : Call} {r : c.Reply} {next : PublishState} (h : TickHandles c w r w')
    (hclaims : ∀ l, c.claims r l = [])
    (hjobs : l.queue.jobs w'.store = l.queue.jobs (l.queue.raise w.store [job.id] next now))
    (hothers : ∀ l', l' ≠ l → l'.queue.jobs w'.store = l'.queue.jobs w.store)
    (hhist : ∀ l' : Lane, ∃ more, l'.history w'.store = l'.history w.store ++ more) :
    Frame (itself job) w w' := by
  refine ⟨fun l' => ?_, fun l' id hid hnot => ?_, hhist⟩
  · rw [h.2.1 l', hclaims l', List.append_nil]
  · by_cases hl : l' = l
    · subst hl
      rw [hjobs]
      refine QueueTable.find?_raise_of_not_mem fun hmem => hnot ⟨rfl, ?_⟩
      exact List.mem_singleton.mp hmem
    · rw [hothers l' hl]

/-- **The two writes of a claimed job leave it in one of three places.** -/
theorem settle_exec {terminal : PublishState × String} (hown : Owned l w job)
    (hterm : terminal.1.terminal = true) (h : TickRuns (settle l now job terminal) w log () w') :
    ∃ ending, Settled l now job terminal log ending ∧ Stands l job ending w'.store ∧
      Frame (itself job) w w' ∧
      (∃ rows, List.Forall₂ l.IsRow ending.records rows ∧ w'.added l = w.added l ++ rows) ∧
      ∀ l', l' ≠ l → w'.added l' = w.added l' := by
  obtain ⟨reply, log', m, m', rfl, henv, hcall, hrest⟩ := exec_call h
  have hown' : Owned l m job := hown.frame henv.1 id
  obtain ⟨row, hrow, hstate, hrev, hrequest⟩ := hown'.row
  rcases reply with e | ⟨job', record⟩
  · -- The completion failed and wrote nothing; the requeue decides.
    have hstore : m'.store = m.store := Lane.complete_error hcall.1
    have hfailed := frame_of_store hcall (fun _ => rfl) hstore
    obtain ⟨reply', log'', n, n', rfl, henv', hcall', hrest'⟩ := exec_call hrest
    obtain ⟨rfl, -, henv''⟩ := exec_ret hrest'
    have hbefore := (henv.1.trans hfailed.1).trans henv'.1
    have hadded : ∀ l', n.added l' = w.added l' := fun l' => by
      rw [henv'.2 l', hfailed.2 l', henv.2 l']
    have hownn : Owned l n job := hown.frame hbefore id
    rcases reply' with e' | job'
    · have hstore' : n'.store = n.store := Sql.runs_transaction_error hcall'.1
      have hfailed' := frame_of_store hcall' (fun _ => rfl) hstore'
      have hafter := (hbefore.trans hfailed'.1).trans henv''.1
      have hownw : Owned l w' job := hown.frame hafter id
      obtain ⟨row', hrow', hstate', hrev', -⟩ := hownw.row
      refine ⟨.stranded, .stranded e e', ⟨row', hrow', hstate', hrev'⟩,
        hafter.mono fun _ _ hno => hno.elim, ⟨[], .nil, ?_⟩, fun l' _ => ?_⟩
      · rw [henv''.2 l, hfailed'.2 l, hadded l, List.append_nil]
      · rw [henv''.2 l', hfailed'.2 l', hadded l']
    · obtain ⟨row', current, hfind, hread, -, hrev', hs, -⟩ := QueueTable.requeue_ok hcall'.1
      have hquiet := quiet_call hcall' (fun _ => rfl) fun l' => by rw [hs, Lane.history_raise]
      have hframe : Frame (itself job) n n' := frame_own hcall' (fun _ => rfl) (by rw [hs])
        (fun l' hne => by rw [hs, Lane.jobs_raise_other hne])
        fun l' => ⟨[], by rw [hs, Lane.history_raise, List.append_nil]⟩
      have hstands : Stands l job .requeued n'.store := by
        refine ⟨QueueTable.advanced .queued now row', ?_, rfl, ?_⟩
        · rw [hs]
          exact QueueTable.find?_raise_of_mem hfind (List.mem_singleton_self job.id)
        · rw [QueueTable.advanced_revision, ← (QueueTable.rowToJob_ok hread).2.2.1, hrev']
      have hmem : job.id ∈ n'.owned l := by
        rw [hframe.owned l]
        exact hownn.mem
      refine ⟨.requeued, .requeued e job', hstands.frame henv''.1 hmem id,
        ((hbefore.mono fun _ _ hno => hno.elim).trans hframe).trans
          (henv''.1.mono fun _ _ hno => hno.elim), ⟨[], .nil, ?_⟩, fun l' _ => ?_⟩
      · rw [henv''.2 l, hquiet.2 l, hadded l, List.append_nil]
      · rw [henv''.2 l', hquiet.2 l', hadded l']
  · obtain ⟨rfl, -, henv'⟩ := exec_ret hrest
    obtain ⟨⟨row', current, hfind, hread, hrev', -, hmatch⟩, hjobs, ⟨hrec, hisrow, hhist⟩,
      hothers⟩ :=
      Lane.complete_ok hcall.1
    have he : row' = row := Option.some.inj (hfind.symm.trans hrow)
    subst he
    have hcurrent : current.request = job.request :=
      Except.ok.inj ((QueueTable.rowToJob_ok hread).2.2.2.1.symm.trans hrequest)
    have hgrows : ∀ l' : Lane, ∃ more, l'.history m'.store = l'.history m.store ++ more := by
      intro l'
      by_cases hl : l' = l
      · subst hl
        exact ⟨[hrec], hhist⟩
      · exact ⟨[], by rw [(hothers l' hl).2, List.append_nil]⟩
    have hframe : Frame (itself job) m m' :=
      frame_own hcall (fun _ => rfl) hjobs (fun l' hne => (hothers l' hne).1) hgrows
    have hstands : Stands l job (.completed terminal.1 record) m'.store := by
      refine ⟨hterm, hcurrent ▸ hmatch,
        ⟨QueueTable.advanced terminal.1 now row', ?_, rfl, ?_⟩, hrec,
        ?_, hisrow⟩
      · rw [hjobs]
        exact QueueTable.find?_raise_of_mem hfind (List.mem_singleton_self job.id)
      · rw [QueueTable.advanced_revision, hrev]
      · rw [hhist]
        exact List.mem_append_right _ (List.mem_singleton_self hrec)
    have hmem : job.id ∈ m'.owned l := by
      rw [hframe.owned l]
      exact hown'.mem
    refine ⟨.completed terminal.1 record, .completed job' record, hstands.frame henv'.1 hmem id,
      ((henv.1.mono fun _ _ hno => hno.elim).trans hframe).trans
        (henv'.1.mono fun _ _ hno => hno.elim), ⟨[hrec], .cons hisrow .nil, ?_⟩, fun l' hne => ?_⟩
    · rw [henv'.2 l, hcall.2.2 l, hhist, List.drop_left, henv.2 l]
    · rw [henv'.2 l', hcall.2.2 l', (hothers l' hne).2, List.drop_length, List.append_nil,
        henv.2 l']

/-- **How one claimed job goes.** -/
theorem handleClaimed_exec {configured : Bool} (hown : Owned l w job)
    (h : TickRuns (handleClaimed l configured now job) w log () w') :
    ∃ ending, Handled l configured now job log ending ∧ Stands l job ending w'.store ∧
      Frame (itself job) w w' ∧
      (∃ rows, List.Forall₂ l.IsRow ending.records rows ∧ w'.added l = w.added l ++ rows) ∧
      ∀ l', l' ≠ l → w'.added l' = w.added l' := by
  obtain ⟨log₁, log₂, terminal, m, rfl, hdispatch, hsettle⟩ := exec_bind tickEnv_refl h
  obtain ⟨hd, hterm, hframe, hadded⟩ := dispatchClaimed_exec hdispatch
  obtain ⟨ending, hs, hstands, hframe', ⟨rows, hrows, hadd⟩, hothers⟩ :=
    settle_exec (hown.frame hframe id) hterm hsettle
  refine ⟨ending, ⟨log₁, log₂, terminal, rfl, hd, hs⟩, hstands,
    (hframe.mono fun _ _ hno => hno.elim).trans hframe', ⟨rows, hrows, ?_⟩, fun l' hne => ?_⟩
  · rw [hadd, hadded l]
  · rw [hothers l' hne, hadded l']

end Job

/-! ## 4. All jobs of a claim -/

section Lane
variable {l : Lane} {w w' : TickWorld} {now : DateTime} {log : CallLog} {configured : Bool}

/-- The jobs of a list. -/
def among (jobs : List l.Job) : Lane → String → Prop :=
  fun l' id => l' = l ∧ id ∈ jobs.map (·.id)

/-- How the jobs of a claim went, each by the calls of its own part of the log. -/
structure AllHandled (l : Lane) (configured : Bool) (now : DateTime) (jobs : List l.Job)
    (parts : List (CallLog × JobEnd l)) (s : Store) : Prop where
  handled : List.Forall₂ (fun job part => Handled l configured now job part.1 part.2) jobs parts
  stands : List.Forall₂ (fun job part => Stands l job part.2 s) jobs parts

theorem AllHandled.of_rows {jobs : List l.Job} {parts : List (CallLog × JobEnd l)} {s s' : Store}
    (h : AllHandled l configured now jobs parts s)
    (hrows : ∀ job ∈ jobs, (l.queue.jobs s').find? job.id = (l.queue.jobs s).find? job.id)
    (hhist : ∃ more, l.history s' = l.history s ++ more) :
    AllHandled l configured now jobs parts s' := by
  refine ⟨h.handled, ?_⟩
  have hstands := h.stands
  clear h
  induction hstands with
  | nil => exact .nil
  | @cons job part rest parts hjob _ ih =>
    exact .cons (hjob.of_row (hrows job List.mem_cons_self) hhist)
      (ih fun job' hjob' => hrows job' (List.mem_cons_of_mem job hjob'))

/-- **Every job of a claim is handled, whatever happens to the others.** -/
theorem handleAll_exec {jobs : List l.Job} (hn : (jobs.map (·.id)).Nodup)
    (hown : ∀ job ∈ jobs, Owned l w job)
    (h : TickRuns (Prog.forEach jobs (handleClaimed l configured now)) w log () w') :
    ∃ parts : List (CallLog × JobEnd l), log = (parts.map Prod.fst).flatten ∧
      AllHandled l configured now jobs parts w'.store ∧ Frame (among jobs) w w' ∧
      (∃ rows, List.Forall₂ l.IsRow (parts.flatMap (·.2.records)) rows ∧
        w'.added l = w.added l ++ rows) ∧
      ∀ l', l' ≠ l → w'.added l' = w.added l' := by
  induction jobs generalizing w log with
  | nil =>
    obtain ⟨rfl, -, henv⟩ := exec_ret h
    refine ⟨[], rfl, ⟨.nil, .nil⟩, Frame.of_env henv _, ⟨[], .nil, ?_⟩, fun l' _ => henv.2 l'⟩
    rw [henv.2 l, List.append_nil]
  | cons job rest ih =>
    rw [List.map_cons, List.nodup_cons] at hn
    obtain ⟨log₁, log₂, m, rfl, hfirst, hrest⟩ := exec_forEach tickEnv_refl h
    obtain ⟨ending, hhandled, hstands, hframe, ⟨rows, hrows, hadded⟩, hothers⟩ :=
      handleClaimed_exec (hown job List.mem_cons_self) hfirst
    have hdiffer : ∀ other ∈ rest, ¬ itself job l other.id := by
      intro other hother hself
      exact hn.1 (hself.2 ▸ List.mem_map_of_mem hother)
    obtain ⟨parts, rfl, hall, hframe', ⟨rows', hrows', hadded'⟩, hothers'⟩ := ih hn.2
      (fun other hother =>
        (hown other (List.mem_cons_of_mem job hother)).frame hframe (hdiffer other hother)) hrest
    have hmem : job.id ∈ m.owned l := by
      rw [hframe.owned l]
      exact (hown job List.mem_cons_self).mem
    have hkept : Stands l job ending w'.store :=
      hstands.frame hframe' hmem fun hamong => hn.1 hamong.2
    refine ⟨⟨log₁, ending⟩ :: parts, rfl,
      ⟨.cons hhandled hall.handled, .cons hkept hall.stands⟩, ?_,
      ⟨rows ++ rows', List.rel_append hrows hrows', ?_⟩, fun l' hne => ?_⟩
    · refine (hframe.mono ?_).trans (hframe'.mono ?_)
      · rintro l' id ⟨rfl, rfl⟩
        exact ⟨rfl, List.mem_cons_self⟩
      · rintro l' id ⟨rfl, hid⟩
        exact ⟨rfl, List.mem_cons_of_mem _ hid⟩
    · rw [hadded', hadded, List.append_assoc]
    · rw [hothers' l' hne, hothers l' hne]

/-- **What a claim of the pass brings**: jobs it then owns, each once, each queued before at one
    revision less, no more of them than the limit; nothing else moves. -/
theorem claim_call {dueThrough : LocalSchedule} {limit : Nat} {jobs : List l.Job}
    (h : TickHandles (.claim l dueThrough now limit) w (.ok jobs) w') (hnone : w.owned l = []) :
    (jobs.map (·.id)).Nodup ∧ (∀ job ∈ jobs, Owned l w' job) ∧
      (∀ job ∈ jobs, ∃ row, (l.queue.jobs w.store).find? job.id = some row ∧
        row.state = PublishState.queued.db ∧ job.revision = row.revision + 1) ∧
      jobs.length ≤ min limit maxClaimBatch ∧
      (∀ l', w'.added l' = w.added l') ∧ (∀ l' : Lane, l'.history w'.store = l'.history w.store) ∧
      ∀ l', l' ≠ l → w'.owned l' = w.owned l' ∧
        l'.queue.jobs w'.store = l'.queue.jobs w.store := by
  obtain ⟨hn, hjobs, hlen, hs⟩ := QueueTable.claim_jobs h.1
  have hhist : ∀ l' : Lane, l'.history w'.store = l'.history w.store := fun l' => by
    rw [hs, Lane.history_raise]
  refine ⟨hn, fun job hjob => ?_, fun job hjob => ?_, hlen, fun l' => ?_, hhist, fun l' hne => ?_⟩
  · obtain ⟨row, current, hrow, hread, -, rfl⟩ := hjobs job hjob
    obtain ⟨-, -, hrev, hrequest, -⟩ := QueueTable.rowToJob_ok hread
    refine ⟨?_, QueueTable.advanced .dispatching now row, ?_, rfl, ?_, hrequest⟩
    · rw [h.2.1 l, hnone]
      change _ ∈ [] ++ (if l = l then jobs.map (·.id) else [])
      rw [if_pos rfl]
      exact List.mem_map_of_mem hjob
    · rw [hs]
      exact QueueTable.find?_raise_of_mem hrow (List.mem_map_of_mem hjob)
    · rw [QueueTable.advanced_revision, ← hrev]
      rfl
  · obtain ⟨row, current, hrow, hread, hstate, rfl⟩ := hjobs job hjob
    obtain ⟨-, hdb, hrev, -⟩ := QueueTable.rowToJob_ok hread
    refine ⟨row, hrow, hstate ▸ hdb, ?_⟩
    rw [← hrev]
    rfl
  · rw [h.2.2 l', hhist l', List.drop_length, List.append_nil]
  · refine ⟨?_, by rw [hs, Lane.jobs_raise_other hne]⟩
    rw [h.2.1 l']
    change w.owned l' ++ (if l = l' then jobs.map (·.id) else []) = _
    rw [if_neg (Ne.symm hne), List.append_nil]

end Lane

/-! ## 5. The whole pass -/

/-- A claim of the pass, and all its jobs: where they stand at the end, and the history rows the
    calls of the pass have added, one for each completed job and no other. -/
structure ClaimHandled (l : Lane) (configured : Bool) (dueThrough : LocalSchedule)
    (now : DateTime) (limit : Nat) (jobs : List l.Job) (parts : List (CallLog × JobEnd l))
    (w' : TickWorld) : Prop where
  claimed : ∃ before after, Sql.Runs (l.queue.claim dueThrough now limit) before (.ok jobs) after ∧
    ∀ job ∈ jobs, ∃ row, (l.queue.jobs before).find? job.id = some row ∧
      row.state = PublishState.queued.db ∧ job.revision = row.revision + 1
  distinct : (jobs.map (·.id)).Nodup
  within : jobs.length ≤ min limit maxClaimBatch
  handled : List.Forall₂ (fun job part => Handled l configured now job part.1 part.2) jobs parts
  stands : List.Forall₂ (fun job part => Stands l job part.2 w'.store) jobs parts
  added : List.Forall₂ l.IsRow (parts.flatMap (·.2.records)) (w'.added l)

section Pass
variable {w w' : TickWorld} {l : Lane} {log : CallLog} {now : DateTime} {configured : Bool}
  {dueThrough : LocalSchedule} {limit : Nat}

/-- A claim that fails leaves everything alone. -/
theorem claim_failed {e : DomainError}
    (h : TickHandles (.claim l dueThrough now limit) w (.error e) w') : TickEnv w w' :=
  frame_of_store h (fun _ => rfl) (QueueTable.claim_error h.1)

/-- What one lane has of another's pass: its claims, their rows and its account stay. -/
def Aside (l : Lane) (w w' : TickWorld) : Prop :=
  w'.owned l = w.owned l ∧ w'.added l = w.added l ∧
  (∀ id ∈ w.owned l, (l.queue.jobs w'.store).find? id = (l.queue.jobs w.store).find? id) ∧
  ∃ more, l.history w'.store = l.history w.store ++ more

theorem aside_of_env (h : TickEnv w w') (l : Lane) : Aside l w w' :=
  ⟨h.1.owned l, h.2 l, fun id hid => h.1.rows l id hid fun hno => hno, h.1.history l⟩

theorem Aside.trans {w₁ w₂ w₃ : TickWorld} (h : Aside l w₁ w₂) (h' : Aside l w₂ w₃) :
    Aside l w₁ w₃ := by
  obtain ⟨howned, hadded, hrows, more, hmore⟩ := h
  obtain ⟨howned', hadded', hrows', more', hmore'⟩ := h'
  refine ⟨howned'.trans howned, hadded'.trans hadded, fun id hid => ?_, more ++ more', ?_⟩
  · exact (hrows' id (howned ▸ hid)).trans (hrows id hid)
  · rw [hmore', hmore, List.append_assoc]

/-- A claim, and the loop over what it brought. -/
theorem claimHandled_exec {m n : TickWorld} {jobs : List l.Job} (hnone : w.owned l = [])
    (hadded : w.added l = []) (henv : TickEnv w m)
    (hcall : TickHandles (.claim l dueThrough now limit) m (.ok jobs) n)
    (hloop : TickRuns (Prog.forEach jobs (handleClaimed l configured now)) n log () w') :
    (∃ parts, log = (parts.map Prod.fst).flatten ∧
      ClaimHandled l configured dueThrough now limit jobs parts w') ∧
    (∀ job ∈ jobs, job.id ∈ w'.owned l) ∧ ∀ l', l' ≠ l → Aside l' w w' := by
  have hnone' : m.owned l = [] := (henv.1.owned l).trans hnone
  obtain ⟨hn, hown, hbefore, hlen, hadd, hhist, hother⟩ := claim_call hcall hnone'
  obtain ⟨parts, rfl, hall, hframe, ⟨rows, hrows, hadd'⟩, hadd''⟩ := handleAll_exec hn hown hloop
  refine ⟨⟨parts, rfl, ⟨m.store, n.store, hcall.1, hbefore⟩, hn, hlen, hall.handled,
    hall.stands, ?_⟩,
    fun job hjob => ?_, fun l' hne => (aside_of_env henv l').trans ?_⟩
  · rw [hadd', hadd l, henv.2 l, hadded, List.nil_append]
    exact hrows
  · rw [hframe.owned l]
    exact (hown job hjob).mem
  · obtain ⟨howned, hjobs⟩ := hother l' hne
    refine ⟨?_, ?_, fun id hid => ?_, ?_⟩
    · rw [hframe.owned l', howned]
    · rw [hadd'' l' hne, hadd l']
    · rw [hframe.rows l' id (howned ▸ hid) fun hamong => hne hamong.1, hjobs]
    · obtain ⟨more, hmore⟩ := hframe.history l'
      exact ⟨more, by rw [hmore, hhist l']⟩

theorem ClaimHandled.aside {jobs : List l.Job} {parts : List (CallLog × JobEnd l)}
    (h : ClaimHandled l configured dueThrough now limit jobs parts w)
    (hmem : ∀ job ∈ jobs, job.id ∈ w.owned l) (ha : Aside l w w') :
    ClaimHandled l configured dueThrough now limit jobs parts w' := by
  obtain ⟨-, hadded, hrows, hhist⟩ := ha
  have hall := AllHandled.of_rows ⟨h.handled, h.stands⟩
    (fun job hjob => hrows job.id (hmem job hjob)) hhist
  exact ⟨h.claimed, h.distinct, h.within, h.handled, hall.stands, hadded ▸ h.added⟩

end Pass

/-- **One pass of the scheduler.** Whatever the services answer, whichever writes fail, and
    whatever others do beside the jobs the pass has claimed: the pass fails at its first claim and
    does nothing more; or every video job of that claim is dispatched once, its schedule cleared,
    and left completed with its one record, requeued, or dispatching, by what its own writes
    answered. Then it fails at its second claim; or the same holds of every article job of that
    claim, within what the videos left of the batch. -/
theorem tick_safety {articleRunner : Bool} {dueThrough : LocalSchedule} {now : DateTime}
    {batchSize : Nat} {w w' : TickWorld} {log : CallLog} {reply : Except DomainError Unit}
    (hnone : ∀ l, w.owned l = []) (hadded : ∀ l, w.added l = [])
    (h : TickRuns (runSchedulerTickAt articleRunner dueThrough now batchSize) w log reply w') :
    (∃ e, log = [⟨.claim .video dueThrough now batchSize, Except.error e⟩] ∧ reply = .error e ∧
      ∀ l, w'.added l = []) ∨
    ∃ videos parts, ClaimHandled .video true dueThrough now batchSize videos parts w' ∧
      ((∃ e, log = ⟨.claim .video dueThrough now batchSize, Except.ok videos⟩ ::
            ((parts.map Prod.fst).flatten ++
              [⟨.claim .article dueThrough now (batchSize - videos.length), Except.error e⟩]) ∧
          reply = .error e ∧ w'.added .article = []) ∨
        ∃ articles parts', ClaimHandled .article articleRunner dueThrough now
            (batchSize - videos.length) articles parts' w' ∧
          log = ⟨.claim .video dueThrough now batchSize, Except.ok videos⟩ ::
            ((parts.map Prod.fst).flatten ++
              ⟨.claim .article dueThrough now (batchSize - videos.length), Except.ok articles⟩ ::
              (parts'.map Prod.fst).flatten) ∧
          reply = .ok ()) := by
  obtain ⟨claimed, log', m, n, rfl, henv, hcall, hrest⟩ := exec_call h
  rcases claimed with e | videos
  · obtain ⟨rfl, rfl, henv'⟩ := exec_ret hrest
    refine .inl ⟨e, rfl, rfl, fun l => ?_⟩
    rw [henv'.2 l, (claim_failed hcall).2 l, henv.2 l, hadded l]
  right
  obtain ⟨log₁, log₂, u, p, rfl, hloop, hrest'⟩ := exec_bind tickEnv_refl hrest
  obtain ⟨⟨parts, rfl, hvideos⟩, hmem, hother⟩ :=
    claimHandled_exec (hnone .video) (hadded .video) henv hcall hloop
  obtain ⟨hnone', hadded', -⟩ := hother .article (by decide)
  rw [hnone .article] at hnone'
  rw [hadded .article] at hadded'
  obtain ⟨claimed', log'', m', n', rfl, henv', hcall', hrest''⟩ := exec_call hrest'
  rcases claimed' with e | articles
  · obtain ⟨rfl, rfl, henv''⟩ := exec_ret hrest''
    have haside : ∀ l, Aside l p w' := fun l =>
      ((aside_of_env henv' l).trans (aside_of_env (claim_failed hcall') l)).trans
        (aside_of_env henv'' l)
    refine ⟨videos, parts, hvideos.aside hmem (haside .video), .inl ⟨e, rfl, rfl, ?_⟩⟩
    exact (haside .article).2.1.trans hadded'
  · obtain ⟨log₃, log₄, u', p', rfl, hloop', hlast⟩ := exec_bind tickEnv_refl hrest''
    obtain ⟨rfl, rfl, henv''⟩ := exec_ret hlast
    obtain ⟨⟨parts', rfl, harticles⟩, hmem', hother'⟩ :=
      claimHandled_exec hnone' hadded' henv' hcall' hloop'
    refine ⟨videos, parts, ?_, .inr ⟨articles, parts', ?_, ?_, rfl⟩⟩
    · exact hvideos.aside hmem ((hother' .video (by decide)).trans (aside_of_env henv'' .video))
    · exact harticles.aside hmem' (aside_of_env henv'' .article)
    · rw [List.append_nil]

/-! ## 6. A pass, evaluated -/

/-- The world after a call. -/
def TickWorld.after (w : TickWorld) (c : Call) (r : c.Reply) (s : Store) : TickWorld where
  store := s
  owned l := w.owned l ++ c.claims r l
  added l := w.added l ++ (l.history s).drop (l.history w.store).length

theorem tickHandles_after {w : TickWorld} {c : Call} {r : c.Reply} {s : Store}
    (h : c.Handles w.store r s) : TickHandles c w r (w.after c r s) :=
  ⟨h, fun _ => rfl, fun _ => rfl⟩

/-- A provider for every platform, which queues all it is given. -/
def queueingRegistry : ProviderRegistry where
  providers _ := some ⟨.available, fun _ => .ok (.queued "1")⟩
  runners _ := none

/-- What it answers to the dispatch of `sampleJob`. -/
def sampleReply : Except DomainError ProviderDispatchReport :=
  (queueingRegistry.dispatchAll (Lane.unscheduled .video scheduledRequest)).2

theorem sample_terminal :
    schedulerOutcome sampleReply = (.published, scheduledLocalRunnerComplete) := by
  decide +kernel

@[irreducible] def sampleSettled : Store :=
  (completeJobWithHistory "job-1" 1 .published sampleNow (some scheduledLocalRunnerComplete)
    ⟨sampleClaimed, []⟩).2.store

theorem sample_settle : ∃ reply, Sql.Runs (completeJobWithHistory "job-1" 1 .published sampleNow
    (some scheduledLocalRunnerComplete)) sampleClaimed (.ok reply) sampleSettled := by
  refine ⟨({ sampleJob with state := .published, revision := 2 }, historyRecord
    "scheduled-history" 1 scheduledRequest.runnerSafe .published sampleNow
    (some scheduledLocalRunnerComplete)), ?_⟩
  unfold sampleSettled
  refine Sql.runs_of_reply ?_
  decide +kernel

@[irreducible] def sampleIdle : Store :=
  (articleQueue.claim sampleDue sampleNow 4 ⟨sampleSettled, []⟩).2.store

theorem sample_idle :
    Sql.Runs (articleQueue.claim sampleDue sampleNow 4) sampleSettled (.ok []) sampleIdle := by
  unfold sampleIdle
  refine Sql.runs_of_reply ?_
  decide +kernel

/-- A database with one due job, and nothing claimed yet. -/
def sampleWorld : TickWorld := ⟨sampleQueued, fun _ => [], fun _ => []⟩

/-- The job is claimed, dispatched and completed; no article is due. -/
theorem sample_pass : ∃ log w',
    TickRuns (runSchedulerTickAt true sampleDue sampleNow 5) sampleWorld
      (⟨.claim .video sampleDue sampleNow 5,
        Except.ok [QueueTable.claimedJob sampleNow sampleJob]⟩ :: log) (.ok ()) w' := by
  obtain ⟨settled, hsettle⟩ := sample_settle
  have hdispatch : Call.Handles (.dispatch .video (Lane.unscheduled .video scheduledRequest))
      sampleClaimed sampleReply sampleClaimed := ⟨⟨queueingRegistry, rfl⟩, rfl⟩
  have hcomplete : Call.Handles (.complete .video "job-1" 1 (schedulerOutcome sampleReply).1
      sampleNow (some (schedulerOutcome sampleReply).2)) sampleClaimed (Except.ok settled)
      sampleSettled := by
    rw [sample_terminal]
    exact hsettle
  exact ⟨_, _, .call (tickEnv_refl _) (tickHandles_after sample_claim)
    (.call (tickEnv_refl _) (tickHandles_after hdispatch)
      (.call (tickEnv_refl _) (tickHandles_after hcomplete)
        (.call (tickEnv_refl _) (tickHandles_after sample_idle) (.ret (tickEnv_refl _)))))⟩

theorem tick_safety_sample : ∃ w' parts,
    ClaimHandled .video true sampleDue sampleNow 5 [QueueTable.claimedJob sampleNow sampleJob]
      parts w' := by
  obtain ⟨log, w', hpass⟩ := sample_pass
  rcases tick_safety (fun _ => rfl) (fun _ => rfl) hpass with
    ⟨e, -, herr, -⟩ | ⟨videos, parts, h, hend⟩
  · cases herr
  rcases hend with ⟨e, -, herr, -⟩ | ⟨articles, parts', -, hlog, -⟩
  · cases herr
  cases (List.cons.inj hlog).1
  exact ⟨w', parts, h⟩

end MatriXpost
