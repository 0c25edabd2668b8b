/-
  File:      MatriXpost/Process/Quiet.lean
  Subject:   A PASS OF THE SCHEDULER WHEN NOTHING FAILS: no statement of the database, and nobody
             else at work on it meanwhile. Providers and article runner answer as they like.

  * `Serviceable` is what such a pass needs of a store: every row reads back, and the ids of the
    article history lie within its sequence;
  * `Lane.complete_quiet`: then every claimed job can be completed, in whatever terminal state;
  * `PassDone` says what the pass does: it claims the first jobs due, dispatches each once, ends
    each with one record, and moves nothing else (`quiet_pass`);
  * `quiet_pass_exists`: and it comes to its end, whatever the services answer.
-/
import MatriXpost.Process.Tick
import MatriXpost.Queue.Readable

namespace MatriXpost

/-! ## 1. Calls without faults -/

/-- The call on a database that works. Services answer as they like. -/
def Call.Quiet : (c : Call) → Store → c.Reply → Store → Prop
  | .allocate request now, s, r, s' => Sql.Clean (enqueueBegin request now) s r s'
  | .insert job, s, r, s' => Sql.Clean (insertJob job) s r s'
  | .claim lane dueThrough now limit, s, r, s' =>
    Sql.Clean (lane.queue.claim dueThrough now limit) s r s'
  | .dispatch lane request, s, r, s' => lane.Dispatches request r ∧ s' = s
  | .complete lane id revision next now detail, s, r, s' =>
    Sql.Clean (lane.complete id revision next now detail) s r s'
  | .requeue lane id revision now, s, r, s' => Sql.Clean (lane.queue.requeue id revision now) s r s'
  | .recordDispatch request report now, s, r, s' =>
    Sql.Clean (recordProviderDispatchHistory request report now) s r s'
  | .execute _ _, s, _, s' => s' = s

/-- Nobody else is at work. -/
def Alone (s s' : Store) : Prop := s' = s

theorem alone_refl (s : Store) : Alone s s := rfl

/-- A run of a task that is alone with a database that works. -/
abbrev QuietRuns {α : Type} (p : Task α) (s : Store) (log : CallLog) (a : α) (s' : Store) : Prop :=
  Exec Alone Call.Quiet p s log a s'

/-- The job ids a log has claimed. -/
def claimedIn (l : Lane) (log : CallLog) : List String :=
  log.flatMap fun c => c.call.claims c.reply l

theorem claimedIn_append (l : Lane) (log log' : CallLog) :
    claimedIn l (log ++ log') = claimedIn l log ++ claimedIn l log' := List.flatMap_append

/-! ## 2. What a pass needs -/

/-- A completion can write its record. -/
def Lane.Recordable : (l : Lane) → l.Request → Prop
  | video => fun _ => True
  | article => fun request => ∃ platform, request.articlePlatform = .ok platform

/-- The row reads as a job whose completion can be recorded. -/
def Lane.Serves (l : Lane) (row : JobRow) : Prop :=
  ∃ job, l.queue.rowToJob row = .ok job ∧ l.Recordable job.request

/-- The id of the article history's `n`th row. -/
def articleHistoryId (n : Nat) : String := "article-scheduled-history-" ++ toString n

/-- Every row reads back, and the article history has used no number its sequence has not made. -/
structure Serviceable (s : Store) : Prop where
  rows : ∀ l : Lane, ∀ row ∈ (l.queue.jobs s).rows, l.Serves row
  ids : ∀ row ∈ s.articleHistory.rows, ∃ n ≤ s.articleHistorySequence, row.id = articleHistoryId n

section Serviceable
variable {l : Lane} {s s' : Store} {now : DateTime}

theorem articleHistoryId_injective : Function.Injective articleHistoryId :=
  fun _ _ h => toString_injective (String.append_right_inj _ |>.mp h)

/-- A state change at a clock of four digits leaves every row readable. -/
theorem serves_advanced {row : JobRow} {next : PublishState} (h : l.Serves row)
    (hnow : now.FourDigitYear) : l.Serves (QueueTable.advanced next now row) := by
  obtain ⟨job, hread, hrecord⟩ := h
  obtain ⟨-, -, -, hrequest, hdue, -⟩ := QueueTable.rowToJob_ok hread
  exact ⟨_, QueueTable.rowToJob_of hrequest rfl hdue (QueueTable.parseTime_toRfc3339 hnow), hrecord⟩

theorem serves_raise {ids : List String} {next : PublishState} (hs : Serviceable s)
    (hnow : now.FourDigitYear) (l' : Lane) :
    ∀ row ∈ (l'.queue.jobs (l.queue.raise s ids next now)).rows, l'.Serves row := by
  intro row hrow
  by_cases hl : l' = l
  · subst hl
    rcases QueueTable.mem_raise hrow with ⟨hold, -⟩ | ⟨old, hold, -, rfl⟩
    · exact hs.rows l' row hold
    · exact serves_advanced (hs.rows l' old hold) hnow
  · rw [Lane.jobs_raise_other hl] at hrow
    exact hs.rows l' row hrow

theorem serviceable_raise {ids : List String} {next : PublishState} (hs : Serviceable s)
    (hnow : now.FourDigitYear) : Serviceable (l.queue.raise s ids next now) := by
  refine ⟨serves_raise hs hnow, ?_⟩
  cases l with
  | video => exact hs.ids
  | article => exact hs.ids

/-- **A claimed job can be completed.** -/
theorem Lane.complete_quiet {job : l.Job} {row : JobRow} {next : PublishState}
    (detail : Option String) (hs : Serviceable s) (hrow : (l.queue.jobs s).find? job.id = some row)
    (hread : l.queue.rowToJob row = .ok job) (hstate : job.state = .dispatching)
    (hrecord : l.Recordable job.request) (hterm : next.terminal = true) :
    ∃ job' record s', Sql.Clean (l.complete job.id job.revision next now detail) s
      (.ok (job', record)) s' := by
  cases l with
  | video =>
    have hedge : PublishState.canTransitionTo job.state next = true := by
      rw [hstate, PublishState.dispatching_canTransitionTo, hterm]
    obtain ⟨record, s', h⟩ := completeJobWithHistory_clean now detail hrow hread hedge
    exact ⟨_, record, s', h⟩
  | article =>
    obtain ⟨platform, hplatform⟩ := hrecord
    -- The id to come is past every id in use.
    have hfree : s.articleHistory.find?
        (articleRecord job platform (s.articleHistorySequence + 1) next now).toRow.id = none := by
      refine Table.find?_eq_none.mpr fun hmem => ?_
      obtain ⟨old, hold, hid⟩ := List.mem_map.mp hmem
      obtain ⟨n, hle, hn⟩ := hs.ids old hold
      have he : n = s.articleHistorySequence + 1 := articleHistoryId_injective (hn.symm.trans hid)
      omega
    obtain ⟨rows, hins⟩ := Table.insert_of_find?_none hfree
    have hclean :
        Sql.Clean (completeArticleWithHistory job.id job.revision next now detail) s _ _ :=
      completeArticleWithHistory_clean hrow hread hstate hterm hplatform hins
    exact ⟨_, _, _, hclean⟩

/-- And a completion keeps what passes need. -/
theorem Lane.complete_serviceable {id : String} {revision : Nat} {next : PublishState}
    {detail : Option String} {job : l.Job} {record : l.History} (hs : Serviceable s)
    (hnow : now.FourDigitYear)
    (h : Sql.Runs (l.complete id revision next now detail) s (.ok (job, record)) s') :
    Serviceable s' := by
  obtain ⟨-, hjobs, -, hothers⟩ := Lane.complete_ok h
  have hrows : ∀ l' : Lane, ∀ row ∈ (l'.queue.jobs s').rows, l'.Serves row := by
    intro l'
    have hsame : l'.queue.jobs s' = l'.queue.jobs (l.queue.raise s [id] next now) := by
      by_cases hl : l' = l
      · subst hl
        exact hjobs
      · rw [(hothers l' hl).1, Lane.jobs_raise_other hl]
    rw [hsame]
    exact serves_raise hs hnow l'
  refine ⟨hrows, ?_⟩
  cases l with
  | video =>
    obtain ⟨row, current, rowid, hrow, history, -, -, -, -, -, -, -, -, -, rfl⟩ :=
      completeJobWithHistory_ok h
    exact hs.ids
  | article =>
    have harticle : Sql.Runs (completeArticleWithHistory id revision next now detail) s
        (.ok (job, record)) s' := h
    obtain ⟨row, current, platform, rows, -, -, -, -, -, -, -, rfl, hins, rfl⟩ :=
      completeArticleWithHistory_ok harticle
    intro row' hrow'
    change row' ∈ rows.rows at hrow'
    rw [(Table.insert_eq_some hins).2, List.mem_append, List.mem_singleton] at hrow'
    rcases hrow' with hold | rfl
    · obtain ⟨n, hle, hn⟩ := hs.ids row' hold
      exact ⟨n, Nat.le_succ_of_le hle, hn⟩
    · exact ⟨s.articleHistorySequence + 1, le_rfl, rfl⟩

end Serviceable

/-! ## 3. The jobs of a claim -/

/-- How many jobs of a lane are queued and due through a time. -/
def backlog (l : Lane) (due : LocalSchedule) (s : Store) : Nat :=
  (l.queue.jobs s).count (QueueTable.isDue due)

/-- What serving the jobs of `ids` does to the rest. -/
structure Serving (l : Lane) (ids : List String) (s s' : Store) : Prop where
  others : ∀ id, id ∉ ids → (l.queue.jobs s').find? id = (l.queue.jobs s).find? id
  aside : ∀ l', l' ≠ l → l'.queue.jobs s' = l'.queue.jobs s ∧ l'.history s' = l'.history s
  history : ∃ more, l.history s' = l.history s ++ more ∧ more.length = ids.length
  backlog : ∀ due, backlog l due s' = backlog l due s
  serviceable : Serviceable s'

/-- The job is claimed and stands as the claim returned it. -/
def Claimed (l : Lane) (s : Store) (job : l.Job) : Prop :=
  ∃ row, (l.queue.jobs s).find? job.id = some row ∧ l.queue.rowToJob row = .ok job ∧
    job.state = .dispatching ∧ l.Recordable job.request

/-- A part of the log dispatched the job once and ended it with one record, and so it stands. -/
def Served (l : Lane) (configured : Bool) (now : DateTime) (job : l.Job) (log : CallLog)
    (s : Store) : Prop :=
  ∃ before part after state record, log = before ++ part ++ after ∧
    Handled l configured now job part (.completed state record) ∧
    Stands l job (.completed state record) s

section Serving
variable {l : Lane} {s m s' : Store} {now : DateTime} {configured : Bool} {job : l.Job}
  {log log' : CallLog} {ids ids' : List String}

/-- A write that leaves no named row queued takes these rows from the backlog. -/
theorem backlog_raise {next : PublishState} (hnext : next ≠ .queued) (due : LocalSchedule) :
    backlog l due (l.queue.raise s ids next now) =
      (l.queue.jobs s).rows.countP fun row =>
        QueueTable.isDue due row && decide (row.id ∉ ids) := by
  unfold backlog Table.count QueueTable.raise
  rw [l.queue.jobs_setJobs, Table.update_rows, List.countP_map]
  refine List.countP_congr fun row _ => ?_
  by_cases hid : row.id ∈ ids
  · have hdb : next.db ≠ PublishState.queued.db := fun h => hnext (PublishState.db_inj.mp h)
    simp [hid, QueueTable.isDue, hdb]
  · simp [hid]

theorem Serving.refl (l : Lane) (hs : Serviceable s) : Serving l [] s s :=
  ⟨fun _ _ => rfl, fun _ _ => ⟨rfl, rfl⟩, ⟨[], (List.append_nil _).symm, rfl⟩, fun _ => rfl, hs⟩

theorem Serving.trans (h : Serving l ids s m) (h' : Serving l ids' m s') :
    Serving l (ids ++ ids') s s' := by
  refine ⟨fun id hnot => ?_, fun l' hne => ?_, ?_, fun due => ?_, h'.serviceable⟩
  · rw [List.mem_append, not_or] at hnot
    rw [h'.others id hnot.2, h.others id hnot.1]
  · exact ⟨(h'.aside l' hne).1.trans (h.aside l' hne).1,
      (h'.aside l' hne).2.trans (h.aside l' hne).2⟩
  · obtain ⟨more, hmore, hlen⟩ := h.history
    obtain ⟨more', hmore', hlen'⟩ := h'.history
    refine ⟨more ++ more', by rw [hmore', hmore, List.append_assoc], ?_⟩
    rw [List.length_append, List.length_append, hlen, hlen']
  · rw [h'.backlog, h.backlog]

theorem Claimed.serving (h : Claimed l s job) (hserve : Serving l ids s s') (hid : job.id ∉ ids) :
    Claimed l s' job := by
  obtain ⟨row, hrow, hrest⟩ := h
  exact ⟨row, (hserve.others job.id hid).trans hrow, hrest⟩

/-- A served job stays served while its row stays and the history keeps what it has. -/
theorem Served.of_row (h : Served l configured now job log s)
    (hrow : (l.queue.jobs s').find? job.id = (l.queue.jobs s).find? job.id)
    (hhist : ∃ more, l.history s' = l.history s ++ more) :
    Served l configured now job log s' := by
  obtain ⟨before, part, after, state, record, hlog, hhandled, hstands⟩ := h
  exact ⟨before, part, after, state, record, hlog, hhandled, hstands.of_row hrow hhist⟩

/-- Its part of the log is a part of any longer one. -/
theorem Served.within (h : Served l configured now job log s) (first last : CallLog) :
    Served l configured now job (first ++ log ++ last) s := by
  obtain ⟨before, part, after, state, record, rfl, hhandled, hstands⟩ := h
  exact ⟨first ++ before, part, after ++ last, state, record, by simp, hhandled, hstands⟩

/-- The dispatch of a job, and its answer. -/
theorem quiet_dispatch {request : l.Request} {terminal : PublishState × String}
    (h : QuietRuns (dispatchClaimed l configured request) s log terminal s') :
    Dispatched l request configured log terminal ∧ terminal.1.terminal = true ∧ s' = s ∧
      ∀ l', claimedIn l' log = [] := by
  cases configured with
  | false =>
    obtain ⟨rfl, rfl, rfl⟩ := exec_ret h
    exact ⟨.notConfigured, rfl, rfl, fun _ => rfl⟩
  | true =>
    obtain ⟨result, log', m, m', rfl, rfl, hcall, hrest⟩ := exec_call h
    obtain ⟨rfl, rfl, rfl⟩ := exec_ret hrest
    exact ⟨.sent result hcall.1, Lane.terminalOf_terminal l result, hcall.2, fun _ => rfl⟩

/-- What a completion of a claimed job does to the rest. -/
theorem serving_complete {revision : Nat} {next : PublishState} {detail : Option String}
    {id : String} {row : JobRow} {job' : l.Job} {record : l.History} (hs : Serviceable s)
    (hnow : now.FourDigitYear) (hrow : (l.queue.jobs s).find? id = some row)
    (hstate : row.state = PublishState.dispatching.db) (hterm : next.terminal = true)
    (h : Sql.Runs (l.complete id revision next now detail) s (.ok (job', record)) s') :
    Serving l [id] s s' := by
  obtain ⟨-, hjobs, ⟨added, -, hhistory⟩, hothers⟩ := Lane.complete_ok h
  refine ⟨fun k hnot => ?_, hothers, ⟨[added], hhistory, rfl⟩, fun due => ?_,
    Lane.complete_serviceable hs hnow h⟩
  · rw [hjobs]
    exact QueueTable.find?_raise_of_not_mem hnot
  · have hnext : next ≠ .queued := by
      rintro rfl
      cases hterm
    have hcount : backlog l due (l.queue.raise s [id] next now) = _ := backlog_raise hnext due
    unfold backlog at hcount ⊢
    rw [hjobs, hcount]
    -- The row is dispatching, so it was not in the backlog.
    refine List.countP_congr fun r hr => ?_
    by_cases hid : r.id = id
    · have he : r = row := Option.some.inj ((hid ▸ Table.find?_of_mem hr).symm.trans hrow)
      have hnot : row.state ≠ PublishState.queued.db := by
        rw [hstate]
        decide
      simp [he, QueueTable.isDue, hnot]
    · simp [hid]

/-- **One claimed job is dispatched and completed.** -/
theorem serve_job (hs : Serviceable s) (hnow : now.FourDigitYear) (hclaimed : Claimed l s job)
    (h : QuietRuns (handleClaimed l configured now job) s log () s') :
    Served l configured now job log s' ∧ Serving l [job.id] s s' ∧
      ∀ l', claimedIn l' log = [] := by
  obtain ⟨log₁, log₂, terminal, m, rfl, hdispatch, hsettle⟩ := exec_bind alone_refl h
  obtain ⟨hd, hterm, rfl, hnone⟩ := quiet_dispatch hdispatch
  obtain ⟨reply, log', m', n, rfl, rfl, hcall, hrest⟩ := exec_call hsettle
  obtain ⟨row, hrow, hread, hstate, hrecord⟩ := hclaimed
  obtain ⟨job', record, n', hclean⟩ := @Lane.complete_quiet l _ now _ _ terminal.1
    (some terminal.2) hs hrow hread hstate hrecord hterm
  obtain ⟨rfl, rfl⟩ := Sql.Clean.unique hcall hclean
  obtain ⟨rfl, -, rfl⟩ := exec_ret hrest
  obtain ⟨-, hdb, hrevision, hrequest, -⟩ := QueueTable.rowToJob_ok hread
  obtain ⟨⟨row', current, hrow', hread', -, -, hmatch⟩, hjobs, ⟨added, hisrow, hhistory⟩, -⟩ :=
    Lane.complete_ok hclean.runs
  rw [hrow] at hrow'
  cases hrow'
  rw [hread] at hread'
  cases hread'
  refine ⟨⟨[], _, [], terminal.1, record, (List.append_nil _).symm,
    ⟨log₁, _, terminal, rfl, hd, .completed job' record⟩, hterm, hmatch,
    ⟨QueueTable.advanced terminal.1 now row, ?_, rfl, ?_⟩, added, ?_, hisrow⟩, ?_, fun l' => ?_⟩
  · rw [hjobs]
    exact QueueTable.find?_raise_of_mem hrow (List.mem_singleton_self job.id)
  · rw [QueueTable.advanced_revision, hrevision]
  · rw [hhistory]
    exact List.mem_append_right _ (List.mem_singleton_self added)
  · rw [hstate] at hdb
    exact serving_complete hs hnow hrow hdb hterm hclean.runs
  · rw [claimedIn_append, hnone]
    rfl

/-- **And so is every job of a claim.** -/
theorem serve_all {jobs : List l.Job} (hs : Serviceable s) (hnow : now.FourDigitYear)
    (hn : (jobs.map (·.id)).Nodup) (hclaimed : ∀ job ∈ jobs, Claimed l s job)
    (h : QuietRuns (Prog.forEach jobs (handleClaimed l configured now)) s log () s') :
    (∀ job ∈ jobs, Served l configured now job log s') ∧ Serving l (jobs.map (·.id)) s s' ∧
      ∀ l', claimedIn l' log = [] := by
  induction jobs generalizing s log with
  | nil =>
    obtain ⟨rfl, -, rfl⟩ := exec_ret h
    exact ⟨fun job hjob => (by cases hjob), Serving.refl l hs, fun _ => rfl⟩
  | cons job rest ih =>
    rw [List.map_cons, List.nodup_cons] at hn
    obtain ⟨log₁, log₂, m, rfl, hfirst, hrest⟩ := exec_forEach alone_refl h
    obtain ⟨hserved, hserving, hnone⟩ := serve_job hs hnow (hclaimed job List.mem_cons_self) hfirst
    have hleft : ∀ other ∈ rest, Claimed l m other := by
      intro other hother
      refine (hclaimed other (List.mem_cons_of_mem job hother)).serving hserving fun hid => ?_
      exact hn.1 (List.mem_singleton.mp hid ▸ List.mem_map_of_mem hother)
    obtain ⟨hserved', hserving', hnone'⟩ := ih hserving.serviceable hn.2 hleft hrest
    refine ⟨fun other hother => ?_, hserving.trans hserving', fun l' => ?_⟩
    · rcases List.mem_cons.mp hother with rfl | hother
      · obtain ⟨more, hmore, -⟩ := hserving'.history
        exact (hserved.of_row (hserving'.others other.id hn.1) ⟨more, hmore⟩).within [] log₂
      · have hlater := (hserved' other hother).within log₁ []
        rwa [List.append_nil] at hlater
    · rw [claimedIn_append, hnone, hnone']
      rfl

end Serving

/-! ## 4. The pass -/

/-- There is a runner for the jobs of the lane: providers answer for themselves, the article runner
    may be missing. -/
def Lane.configured (articleRunner : Bool) : Lane → Bool
  | video => true
  | article => articleRunner

/-- How many jobs of the lane the pass asks for: articles get what the videos leave of the batch. -/
def Lane.limit (batchSize : Nat) (log : CallLog) : Lane → Nat
  | video => batchSize
  | article => batchSize - (claimedIn .video log).length

/-- What a pass does to the jobs it claims in a lane, and that it touches no other of them. -/
structure LaneDone (l : Lane) (configured : Bool) (due : LocalSchedule) (now : DateTime)
    (limit : Nat) (s : Store) (jobs : List l.Job) (log : CallLog) (s' : Store) : Prop where
  claimed : jobs.map (·.id) = (l.queue.dueRows s due (min limit maxClaimBatch)).map (·.id)
  served : ∀ job ∈ jobs, Served l configured now job log s'
  stood : ∀ job ∈ jobs, ∃ row, (l.queue.jobs s).find? job.id = some row ∧
    row.state = PublishState.queued.db ∧ job.revision = row.revision + 1 ∧
    l.queue.decode row.requestJson = .ok job.request
  others : ∀ id, id ∉ jobs.map (·.id) →
    (l.queue.jobs s').find? id = (l.queue.jobs s).find? id
  history : ∃ more, l.history s' = l.history s ++ more ∧ more.length = jobs.length
  leaves : ∀ due', backlog l due' s' = (l.queue.jobs s).rows.countP fun row =>
    QueueTable.isDue due' row && decide (row.id ∉ jobs.map (·.id))

/-- **What a pass does that nothing disturbs.** -/
structure PassDone (articleRunner : Bool) (due : LocalSchedule) (now : DateTime) (batchSize : Nat)
    (s : Store) (log : CallLog) (s' : Store) : Prop where
  lanes : ∀ l : Lane, ∃ jobs, claimedIn l log = jobs.map (·.id) ∧
    LaneDone l (l.configured articleRunner) due now (l.limit batchSize log) s jobs log s'
  serviceable : Serviceable s'

section Pass
variable {l : Lane} {s s' : Store} {now : DateTime} {due : LocalSchedule} {limit batchSize : Nat}
  {articleRunner : Bool} {log : CallLog}

/-- The first rows due read as jobs. -/
theorem dueRows_read (hs : Serviceable s) (due : LocalSchedule) (n : Nat) :
    ∃ candidates, (l.queue.dueRows s due n).mapM l.queue.rowToJob = .ok candidates := by
  refine exists_mapM_ok fun row hrow => ?_
  obtain ⟨job, hjob, -⟩ := hs.rows l row (mem_select hrow).1
  exact ⟨job, hjob⟩

/-- A row whose job changes state reads as that job. -/
theorem rowToJob_advanced {R δ : Type} {q : QueueTable R δ} {row : JobRow} {job : Job R δ}
    {next : PublishState} (hread : q.rowToJob row = .ok job) (hnow : now.FourDigitYear) :
    q.rowToJob (QueueTable.advanced next now row) =
      .ok { job with state := next, revision := job.revision + 1, updatedAt := now } := by
  obtain ⟨hid, -, hrevision, hrequest, hdue, -⟩ := QueueTable.rowToJob_ok hread
  have hadvanced : q.rowToJob (QueueTable.advanced next now row) = .ok _ :=
    QueueTable.rowToJob_of hrequest rfl hdue (QueueTable.parseTime_toRfc3339 hnow)
  rw [hadvanced, hid, hrevision]
  rfl

/-- **A claim brings the first jobs due**, each claimed and as it stood. -/
theorem quiet_claim {reply : Except DomainError (List l.Job)} (hs : Serviceable s)
    (hnow : now.FourDigitYear) (h : Sql.Clean (l.queue.claim due now limit) s reply s') :
    ∃ jobs, reply = .ok jobs ∧
      jobs.map (·.id) = (l.queue.dueRows s due (min limit maxClaimBatch)).map (·.id) ∧
      s' = l.queue.raise s (jobs.map (·.id)) .dispatching now ∧
      ∀ job ∈ jobs, Claimed l s' job ∧ ∃ row, (l.queue.jobs s).find? job.id = some row ∧
        row.state = PublishState.queued.db ∧ job.revision = row.revision + 1 ∧
        l.queue.decode row.requestJson = .ok job.request := by
  obtain ⟨candidates, hread⟩ := dueRows_read hs due (min limit maxClaimBatch)
  have hall := mapM_ok_iff.mp hread
  obtain ⟨rfl, rfl⟩ := Sql.Clean.unique h (QueueTable.claim_clean hall)
  have hids : (candidates.map (QueueTable.claimedJob now)).map (·.id) = candidates.map (·.id) := by
    rw [List.map_map]
    rfl
  refine ⟨_, rfl, hids.trans (QueueTable.ids_of_forall₂ hall), by rw [hids], fun job hjob => ?_⟩
  obtain ⟨current, hcurrent, rfl⟩ := List.mem_map.mp hjob
  obtain ⟨row, hrow, hreads⟩ := QueueTable.row_of_mem hall hcurrent
  obtain ⟨hfind, hstate, -⟩ := QueueTable.mem_dueRows hrow
  obtain ⟨hid, -, hrevision, hrequest, -⟩ := QueueTable.rowToJob_ok hreads
  have hfound : (l.queue.jobs s).find? current.id = some row := by rw [hid, hfind]
  have hraised : current.id ∈ candidates.map (·.id) := List.mem_map_of_mem hcurrent
  refine ⟨⟨_, QueueTable.find?_raise_of_mem hfound hraised, rowToJob_advanced hreads hnow, rfl, ?_⟩,
    row, hfound, hstate, by rw [← hrevision]; rfl, hrequest⟩
  obtain ⟨job, hjob, hrecord⟩ := hs.rows l row (mem_select hrow).1
  rw [hreads] at hjob
  cases hjob
  exact hrecord

/-- A claim, and the loop over what it brought. -/
theorem quiet_lane {configured : Bool} {m : Store} {jobs : List l.Job} (hs : Serviceable s)
    (hnow : now.FourDigitYear)
    (hcall : Sql.Clean (l.queue.claim due now limit) s (.ok jobs) m)
    (hloop : QuietRuns (Prog.forEach jobs (handleClaimed l configured now)) m log () s') :
    LaneDone l configured due now limit s jobs log s' ∧
      (∀ l', l' ≠ l → l'.queue.jobs s' = l'.queue.jobs s ∧ l'.history s' = l'.history s) ∧
      Serviceable s' ∧ ∀ l', claimedIn l' log = [] := by
  obtain ⟨jobs', he, hids, rfl, hjobs⟩ := quiet_claim hs hnow hcall
  cases he
  have hn : (jobs.map (·.id)).Nodup := by
    rw [hids]
    exact QueueTable.dueRows_nodup _ _
  obtain ⟨hserved, hserving, hnone⟩ := serve_all (serviceable_raise hs hnow) hnow hn
    (fun job hjob => (hjobs job hjob).1) hloop
  refine ⟨⟨hids, hserved, fun job hjob => (hjobs job hjob).2, fun id hid => ?_, ?_, fun due' => ?_⟩,
    fun l' hne => ?_, hserving.serviceable, hnone⟩
  · rw [hserving.others id hid]
    exact QueueTable.find?_raise_of_not_mem hid
  · obtain ⟨more, hmore, hlen⟩ := hserving.history
    rw [Lane.history_raise] at hmore
    rw [List.length_map] at hlen
    exact ⟨more, hmore, hlen⟩
  · rw [hserving.backlog, backlog_raise (by decide)]
  · obtain ⟨htable, hhistory⟩ := hserving.aside l' hne
    rw [Lane.jobs_raise_other hne] at htable
    rw [Lane.history_raise] at hhistory
    exact ⟨htable, hhistory⟩

section Aside
variable {configured : Bool} {m : Store} {jobs : List l.Job}

/-- What follows in the other lane leaves it done. -/
theorem LaneDone.before (h : LaneDone l configured due now limit s jobs log m)
    (haside : l.queue.jobs s' = l.queue.jobs m ∧ l.history s' = l.history m) :
    LaneDone l configured due now limit s jobs log s' := by
  obtain ⟨htable, hhistory⟩ := haside
  refine ⟨h.claimed, fun job hjob => ?_, h.stood, fun id hid => ?_, ?_, fun due' => ?_⟩
  · exact (h.served job hjob).of_row (by rw [htable]) ⟨[], by rw [hhistory, List.append_nil]⟩
  · rw [htable, h.others id hid]
  · rw [hhistory]
    exact h.history
  · rw [← h.leaves due', backlog, htable]
    rfl

/-- What came before in the other lane is as if it had not been. -/
theorem LaneDone.since (h : LaneDone l configured due now limit m jobs log s')
    (haside : l.queue.jobs m = l.queue.jobs s ∧ l.history m = l.history s) :
    LaneDone l configured due now limit s jobs log s' := by
  obtain ⟨htable, hhistory⟩ := haside
  have hrows : l.queue.dueRows m due (min limit maxClaimBatch) =
      l.queue.dueRows s due (min limit maxClaimBatch) := by
    unfold QueueTable.dueRows
    rw [htable]
  refine ⟨hrows ▸ h.claimed, h.served, fun job hjob => ?_, fun id hid => ?_, ?_, fun due' => ?_⟩
  · rw [← htable]
    exact h.stood job hjob
  · rw [← htable]
    exact h.others id hid
  · rw [← hhistory]
    exact h.history
  · rw [← htable]
    exact h.leaves due'

theorem LaneDone.within (h : LaneDone l configured due now limit s jobs log s')
    (first last : CallLog) :
    LaneDone l configured due now limit s jobs (first ++ log ++ last) s' :=
  { h with served := fun job hjob => (h.served job hjob).within first last }

/-- The log of a pass: the video claim, its jobs, the article claim, its jobs. -/
def passLog (due : LocalSchedule) (now : DateTime) (batchSize : Nat)
    (videos : List (Lane.Job .video)) (log : CallLog) (articles : List (Lane.Job .article))
    (log' : CallLog) : CallLog :=
  ⟨.claim .video due now batchSize, Except.ok videos⟩ :: (log ++
    ⟨.claim .article due now (batchSize - videos.length), Except.ok articles⟩ :: log')

theorem passDone_of_lanes {videos : List (Lane.Job .video)} {articles : List (Lane.Job .article)}
    {log' : CallLog} (hnone : ∀ l, claimedIn l log = []) (hnone' : ∀ l, claimedIn l log' = [])
    (hvideos : LaneDone .video true due now batchSize s videos log s')
    (harticles : LaneDone .article articleRunner due now (batchSize - videos.length) s articles log'
      s') (hs : Serviceable s') :
    PassDone articleRunner due now batchSize s (passLog due now batchSize videos log articles log')
      s' := by
  have hclaims : ∀ l, claimedIn l (passLog due now batchSize videos log articles log') =
      Call.claims (.claim .video due now batchSize) (Except.ok videos) l ++
      Call.claims (.claim .article due now (batchSize - videos.length)) (Except.ok articles) l := by
    intro l
    unfold passLog claimedIn
    rw [List.flatMap_cons, List.flatMap_append, List.flatMap_cons]
    have hfirst := hnone l
    have hsecond := hnone' l
    unfold claimedIn at hfirst hsecond
    rw [hfirst, hsecond, List.nil_append, List.append_nil]
  have hvideo : claimedIn .video (passLog due now batchSize videos log articles log') =
      videos.map (·.id) := (hclaims .video).trans (List.append_nil _)
  refine ⟨fun l => ?_, hs⟩
  cases l with
  | video =>
    refine ⟨videos, hvideo, ?_⟩
    exact hvideos.within [_] (_ :: log')
  | article =>
    refine ⟨articles, hclaims .article, ?_⟩
    have hlimit : Lane.limit batchSize (passLog due now batchSize videos log articles log')
        .article = batchSize - videos.length := by
      unfold Lane.limit
      rw [hvideo, List.length_map]
    rw [hlimit]
    have hwithin := harticles.within (⟨.claim .video due now batchSize, Except.ok videos⟩ :: log ++
      [⟨.claim .article due now (batchSize - videos.length), Except.ok articles⟩]) []
    rw [List.append_nil, List.append_assoc] at hwithin
    exact hwithin

end Aside

/-- **A pass that nothing disturbs claims the first jobs due, dispatches each of them once, ends
    each with one record, and moves nothing else.** -/
theorem quiet_pass {reply : Except DomainError Unit} (hs : Serviceable s)
    (hnow : now.FourDigitYear)
    (h : QuietRuns (runSchedulerTickAt articleRunner due now batchSize) s log reply s') :
    reply = .ok () ∧ PassDone articleRunner due now batchSize s log s' := by
  obtain ⟨claimed, log', m, n, rfl, rfl, hcall, hrest⟩ := exec_call h
  obtain ⟨videos, rfl, -⟩ := quiet_claim (l := .video) hs hnow hcall
  obtain ⟨log₁, log₂, u, p, rfl, hloop, hrest'⟩ := exec_bind alone_refl hrest
  obtain ⟨hvideos, hother, hserviceable, hnone⟩ := quiet_lane (l := .video) hs hnow hcall hloop
  obtain ⟨claimed', log'', m', n', rfl, rfl, hcall', hrest''⟩ := exec_call hrest'
  obtain ⟨articles, rfl, -⟩ := quiet_claim (l := .article) hserviceable hnow hcall'
  obtain ⟨log₃, log₄, u', p', rfl, hloop', hlast⟩ := exec_bind alone_refl hrest''
  obtain ⟨harticles, hother', hserviceable', hnone'⟩ :=
    quiet_lane (l := .article) hserviceable hnow hcall' hloop'
  obtain ⟨rfl, rfl, rfl⟩ := exec_ret hlast
  rw [List.append_nil]
  refine ⟨rfl, passDone_of_lanes hnone hnone' (hvideos.before (hother' .video (by decide)))
    (harticles.since (hother .article (by decide))) hserviceable'⟩

end Pass

/-! ## 5. Every pass comes to its end -/

/-- Providers and article runner, each with an answer to every request. -/
structure Services where
  answer : (l : Lane) → l.Request → Except DomainError l.Outcome
  dispatches : ∀ (l : Lane) (request : l.Request), l.Dispatches request (answer l request)

/-- A dispatch was answered by them. -/
def AnsweredBy (services : Services) : Called Call Call.Reply → Prop
  | ⟨.dispatch l request, reply⟩ => reply = services.answer l request
  | _ => True

section Ends
variable {l : Lane} {s : Store} {now : DateTime} {due : LocalSchedule} {limit batchSize : Nat}
  {configured articleRunner : Bool} {job : l.Job}
  {services : Services}

theorem alone_trans (s m s' : Store) (h : Alone s m) (h' : Alone m s') : Alone s s' := h'.trans h

theorem exists_dispatch (services : Services) (configured : Bool) (request : l.Request)
    (s : Store) :
    ∃ log terminal, QuietRuns (dispatchClaimed l configured request) s log terminal s ∧
      ∀ c ∈ log, AnsweredBy services c := by
  cases configured with
  | false => exact ⟨[], _, .ret rfl, fun c hc => (by cases hc)⟩
  | true =>
    refine ⟨_, _, .call rfl ⟨services.dispatches l (l.unscheduled request), rfl⟩ (.ret rfl),
      fun c hc => ?_⟩
    rw [List.mem_singleton.mp hc]
    rfl

theorem exists_job (services : Services) (configured : Bool) (now : DateTime)
    (hs : Serviceable s) (hclaimed : Claimed l s job) :
    ∃ log s', QuietRuns (handleClaimed l configured now job) s log () s' ∧
      ∀ c ∈ log, AnsweredBy services c := by
  obtain ⟨log, terminal, hdispatch, hall⟩ :=
    exists_dispatch services configured job.request s
  obtain ⟨-, hterm, -, -⟩ := quiet_dispatch hdispatch
  obtain ⟨row, hrow, hread, hstate, hrecord⟩ := hclaimed
  obtain ⟨job', record, s', hclean⟩ := @Lane.complete_quiet l _ now _ _ terminal.1
    (some terminal.2) hs hrow hread hstate hrecord hterm
  have hsettle : QuietRuns (settle l now job terminal) s
      [⟨.complete l job.id job.revision terminal.1 now (some terminal.2),
        Except.ok (job', record)⟩] () s' := .call rfl hclean (.ret rfl)
  refine ⟨_, s', exec_then alone_trans hdispatch hsettle, fun c hc => ?_⟩
  rcases List.mem_append.mp hc with hc | hc
  · exact hall c hc
  · rw [List.mem_singleton.mp hc]
    trivial

theorem exists_jobs (services : Services) (configured : Bool) {jobs : List l.Job}
    (hs : Serviceable s) (hnow : now.FourDigitYear)
    (hn : (jobs.map (·.id)).Nodup) (hclaimed : ∀ job ∈ jobs, Claimed l s job) :
    ∃ log s', QuietRuns (Prog.forEach jobs (handleClaimed l configured now)) s log () s' ∧
      ∀ c ∈ log, AnsweredBy services c := by
  induction jobs generalizing s with
  | nil => exact ⟨[], s, .ret rfl, fun c hc => (by cases hc)⟩
  | cons job rest ih =>
    rw [List.map_cons, List.nodup_cons] at hn
    obtain ⟨log, m, hfirst, hall⟩ :=
      exists_job services configured now hs (hclaimed job List.mem_cons_self)
    obtain ⟨-, hserving, -⟩ := serve_job hs hnow (hclaimed job List.mem_cons_self) hfirst
    obtain ⟨log', s', hrest, hall'⟩ := ih hserving.serviceable hn.2 fun other hother =>
      (hclaimed other (List.mem_cons_of_mem job hother)).serving hserving fun hid =>
        hn.1 (List.mem_singleton.mp hid ▸ List.mem_map_of_mem hother)
    refine ⟨log ++ log', s', exec_then alone_trans hfirst hrest, fun c hc => ?_⟩
    rcases List.mem_append.mp hc with hc | hc
    · exact hall c hc
    · exact hall' c hc

theorem exists_claim (l : Lane) (due : LocalSchedule) (now : DateTime) (limit : Nat)
    (hs : Serviceable s) :
    ∃ jobs s', Sql.Clean (l.queue.claim due now limit) s (.ok jobs) s' := by
  obtain ⟨candidates, hread⟩ := dueRows_read hs due (min limit maxClaimBatch)
  exact ⟨_, _, QueueTable.claim_clean (mapM_ok_iff.mp hread)⟩

/-- The claim of a lane, and the loop over it. -/
theorem exists_lane (services : Services) (due : LocalSchedule) (l : Lane) (configured : Bool)
    (limit : Nat) (hs : Serviceable s) (hnow : now.FourDigitYear) :
    ∃ jobs m log s', Sql.Clean (l.queue.claim due now limit) s (.ok jobs) m ∧
      QuietRuns (Prog.forEach jobs (handleClaimed l configured now)) m log () s' ∧
      (∀ c ∈ log, AnsweredBy services c) ∧ Serviceable s' := by
  obtain ⟨jobs, m, hclaim⟩ := exists_claim l due now limit hs
  obtain ⟨jobs', he, hids, hraise, hjobs⟩ := quiet_claim hs hnow hclaim
  cases he
  have hn : (jobs.map (·.id)).Nodup := by
    rw [hids]
    exact QueueTable.dueRows_nodup _ _
  have hm : Serviceable m := by
    rw [hraise]
    exact serviceable_raise hs hnow
  obtain ⟨log, s', hloop, hall⟩ := exists_jobs services configured hm hnow hn
    fun job hjob => (hjobs job hjob).1
  obtain ⟨-, -, hserviceable, -⟩ := quiet_lane hs hnow hclaim hloop
  exact ⟨jobs, m, log, s', hclaim, hloop, hall, hserviceable⟩

/-- What a pass does after the videos. -/
def articlesPass (articleRunner : Bool) (due : LocalSchedule) (now : DateTime) (remaining : Nat) :
    Task (Except DomainError Unit) := do
  match ← Task.claim .article due now remaining with
  | .error e => pure (.error e)
  | .ok articles => do
    Prog.forEach articles (handleClaimed .article articleRunner now)
    pure (.ok ())

/-- **Whatever providers and runner answer, a pass comes to its end.** -/
theorem quiet_pass_exists (services : Services) (hs : Serviceable s) (hnow : now.FourDigitYear) :
    ∃ log s', QuietRuns (runSchedulerTickAt articleRunner due now batchSize) s log (.ok ()) s' ∧
      ∀ c ∈ log, AnsweredBy services c := by
  obtain ⟨videos, m, log, p, hclaim, hloop, hall, hp⟩ :=
    exists_lane services due .video true batchSize hs hnow
  obtain ⟨articles, m', log', s', hclaim', hloop', hall', -⟩ :=
    exists_lane services due .article articleRunner (batchSize - videos.length) hp hnow
  have harticles : QuietRuns (articlesPass articleRunner due now (batchSize - videos.length)) p
      (⟨.claim .article due now (batchSize - videos.length), Except.ok articles⟩ :: (log' ++ []))
      (.ok ()) s' := exec_perform rfl hclaim' (exec_then alone_trans hloop' (.ret rfl))
  have hpass : QuietRuns (runSchedulerTickAt articleRunner due now batchSize) s _ (.ok ()) s' :=
    exec_perform rfl hclaim (exec_then alone_trans hloop harticles)
  refine ⟨_, s', hpass, fun c hc => ?_⟩
  simp only [List.mem_cons, List.mem_append, List.not_mem_nil, or_false] at hc
  rcases hc with rfl | hc | rfl | hc
  · trivial
  · exact hall c hc
  · trivial
  · exact hall' c hc

end Ends

end MatriXpost
