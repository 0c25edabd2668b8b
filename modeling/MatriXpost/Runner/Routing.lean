/-
  File:      MatriXpost/Runner/Routing.lean
  Subject:   ACCOUNT ROUTING NEVER CROSSES THE RUNNER OR HISTORY BOUNDARY.

  Two requests that differ in account routing alone are told apart by nothing that is posted to a
  runner or stored in a row.

  * `sameButRouting_iff`: they are the requests with one runner-safe copy, so every program that
    uses the copy is one program for both;
  * a completion reads its request from the store. `QueueTable.SameBut rel` relates two stores
    that differ in the requests of their jobs alone, and in these as `rel` allows;
    `agree_changeState` says that a state change cannot tell them apart, and
    `agree_completeJobWithHistory`, `agree_completeArticleWithHistory` that a completion writes
    the same rows on both;
  * **`account_routing_never_crosses`** puts the boundaries together.
-/
import MatriXpost.Lib.TwoRuns
import MatriXpost.Runner.Client
import MatriXpost.Queue.ArticleRun

namespace MatriXpost

/-! ## 1. Requests that differ in routing alone -/

/-- The same override, but for its account. -/
def PlatformOverride.SameButAccount (a b : PlatformOverride) : Prop :=
  { a with account := b.account } = b

/-- The same video request, but for its account and the accounts of its overrides. -/
structure PublishRequest.SameButRouting (a b : PublishRequest) : Prop where
  overrides : List.Forall₂ PlatformOverride.SameButAccount a.overrides b.overrides
  rest : { a with account := b.account, overrides := b.overrides } = b

/-- The same article request, but for its account. -/
def PublishArticleRequest.SameButRouting (a b : PublishArticleRequest) : Prop :=
  { a with account := b.account } = b

namespace PublishRequest

theorem forall₂_sameButAccount {a b : List PlatformOverride} :
    List.Forall₂ PlatformOverride.SameButAccount a b ↔
      (a.map fun o => { o with account := none }) = b.map fun o => { o with account := none } := by
  induction a generalizing b with
  | nil => cases b <;> simp
  | cons x xs ih =>
    cases b with
    | nil => simp
    | cons y ys =>
      rw [List.forall₂_cons, ih, List.map_cons, List.map_cons, List.cons.injEq]
      refine and_congr_left fun _ => ⟨fun h => ?_, fun h => ?_⟩
      · have h : { x with account := y.account } = y := h
        rw [← h]
      · show { x with account := y.account } = y
        obtain ⟨_, _, _, _, _, _, _⟩ := x
        obtain ⟨_, _, _, _, _, _, _⟩ := y
        simp_all

/-- **They are the requests with one runner-safe copy.** -/
theorem sameButRouting_iff {a b : PublishRequest} :
    a.SameButRouting b ↔ a.runnerSafe = b.runnerSafe := by
  constructor
  · intro h
    obtain ⟨hoverrides, hrest⟩ := h
    have hsafe : b.runnerSafe =
        runnerSafe { a with account := b.account, overrides := b.overrides } := by rw [hrest]
    rw [hsafe]
    unfold runnerSafe
    rw [forall₂_sameButAccount.mp hoverrides]
  · intro h
    refine ⟨forall₂_sameButAccount.mpr (congrArg PublishRequest.overrides h), ?_⟩
    obtain ⟨_, _, _, _, _, _, _, _, _, _, _, _, _⟩ := a
    obtain ⟨_, _, _, _, _, _, _, _, _, _, _, _, _⟩ := b
    simp_all [runnerSafe]

end PublishRequest

/-! ## 2. What is posted, and what is enqueued or recorded at once -/

section Boundaries

theorem enqueueWith_routing (provider : TcpRunnerProvider) {a b : PublishRequest}
    (h : a.SameButRouting b) : provider.enqueueWith a = provider.enqueueWith b := by
  unfold TcpRunnerProvider.enqueueWith
  rw [PublishRequest.sameButRouting_iff.mp h]

theorem dispatchWith_routing (runner : ArticleRunner) {a b : PublishArticleRequest}
    (h : a.SameButRouting b) : runner.dispatchWith a = runner.dispatchWith b := by
  have hb : { a with account := b.account } = b := h
  rw [← hb]
  rfl

theorem enqueue_routing {a b : PublishRequest} (h : a.SameButRouting b) (now : DateTime) :
    enqueue a now = enqueue b now := by
  have hsafe := PublishRequest.sameButRouting_iff.mp h
  have hvalid : a.validate = b.validate := by
    rw [← PublishRequest.validate_runnerSafe, hsafe, PublishRequest.validate_runnerSafe]
  have hdraft : a.runnerSafe.draft = b.runnerSafe.draft := by rw [hsafe]
  have hscheduled : a.runnerSafe.scheduledAt = b.runnerSafe.scheduledAt := by rw [hsafe]
  change a.draft = b.draft at hdraft
  change a.scheduledAt = b.scheduledAt at hscheduled
  have hjob : ∀ id, enqueuedJob a id now = enqueuedJob b id now := by
    intro id
    unfold enqueuedJob
    rw [hsafe, hdraft, hscheduled]
  unfold enqueue
  rw [hvalid]
  simp only [hjob]

theorem enqueueArticle_routing {a b : PublishArticleRequest} (h : a.SameButRouting b)
    (now : DateTime) : enqueueArticle a now = enqueueArticle b now := by
  have hb : { a with account := b.account } = b := h
  rw [← hb]
  rfl

theorem recordProviderDispatchHistory_routing {a b : PublishRequest} (h : a.SameButRouting b)
    (report : ProviderDispatchReport) (recordedAt : DateTime) :
    recordProviderDispatchHistory a report recordedAt =
      recordProviderDispatchHistory b report recordedAt := by
  unfold recordProviderDispatchHistory
  rw [PublishRequest.sameButRouting_iff.mp h]

end Boundaries

/-! ## 3. Stores that differ in the requests of their jobs alone -/

namespace QueueTable

variable {R δ : Type} {q : QueueTable R δ} {rel : R → R → Prop}

/-- Two rows that differ in their requests alone, and in these as `rel` allows. -/
structure RowsMatch (q : QueueTable R δ) (rel : R → R → Prop) (a b : JobRow) : Prop where
  id : a.id = b.id
  state : a.state = b.state
  dueAt : a.dueAt = b.dueAt
  revision : a.revision = b.revision
  updatedAt : a.updatedAt = b.updatedAt
  request : ∃ r r', q.decode a.requestJson = .ok r ∧ q.decode b.requestJson = .ok r' ∧ rel r r'

/-- Two jobs likewise. -/
def JobsMatch (rel : R → R → Prop) (a b : Job R δ) : Prop :=
  { a with request := b.request } = b ∧ rel a.request b.request

/-- Two stores that differ in the requests of this queue's jobs alone. -/
structure SameBut (q : QueueTable R δ) (rel : R → R → Prop) (s t : Store) : Prop where
  jobs : List.Forall₂ (q.RowsMatch rel) (q.jobs s).rows (q.jobs t).rows
  rest : q.setJobs s .empty = q.setJobs t .empty

theorem find?_match {s t : Table JobRow.id}
    (h : List.Forall₂ (q.RowsMatch rel) s.rows t.rows) (id : String) :
    Option.Rel (q.RowsMatch rel) (s.find? id) (t.find? id) := by
  unfold Table.find?
  generalize s.rows = rows, t.rows = rows' at h
  induction h with
  | nil => exact .none
  | @cons a b rows rows' hrow _ ih =>
    rw [List.find?_cons, List.find?_cons]
    by_cases hid : a.id = id
    · rw [decide_eq_true hid, decide_eq_true (hrow.id ▸ hid)]
      exact .some hrow
    · rw [decide_eq_false hid, decide_eq_false (hrow.id ▸ hid)]
      exact ih

/-- Rows that match are read as jobs that match, or both not at all. -/
theorem rowToJob_match {a b : JobRow} (h : q.RowsMatch rel a b) :
    Sql.Replies (JobsMatch rel) (q.rowToJob a) (q.rowToJob b) := by
  obtain ⟨r, r', hr, hr', hrel⟩ := h.request
  unfold rowToJob
  rw [hr, hr', h.state, h.dueAt, h.updatedAt, h.revision, h.id]
  cases PublishState.fromDb b.state with
  | error e => exact .error e
  | ok state =>
    cases q.parseDue b.dueAt with
    | error e => exact .error e
    | ok due =>
      cases parseTime b.updatedAt with
      | error e => exact .error e
      | ok updatedAt => exact .ok ⟨rfl, hrel⟩

theorem agree_currentJob (id : String) :
    Sql.Agree (q.SameBut rel) (JobsMatch rel) (q.currentJob id) (q.currentJob id) := by
  refine Sql.agree_bind (Q := Option.Rel (JobsMatch rel)) ?_ ?_
  · refine Sql.agree_bind (Q := Option.Rel (q.RowsMatch rel))
      (Sql.agree_query fun s t h => find?_match h.jobs id) ?_
    intro row row' h
    cases h with
    | none => exact Sql.agree_pure .none
    | some hrow =>
      exact Sql.agree_bind (Sql.agree_lift (rowToJob_match hrow)) fun a b h =>
        Sql.agree_pure (.some h)
  · intro job job' h
    cases h with
    | none => exact Sql.agree_fail _
    | some hjob => exact Sql.agree_pure hjob

/-- The guarded UPDATE touches the same rows of both stores, in the same way. -/
theorem agree_updateJob (id : String) (state : Option PublishState) (expected : Nat)
    (next : PublishState) (now : DateTime) :
    Sql.Agree (q.SameBut rel) (fun _ _ => True) (q.updateJob id state expected next now)
      (q.updateJob id state expected next now) := by
  have hguard : ∀ a b : JobRow, q.RowsMatch rel a b →
      guarded id state expected a = guarded id state expected b := by
    intro a b h
    unfold guarded
    rw [h.id, h.state, h.revision]
  refine Sql.agree_bind (Q := Eq) (Sql.agree_execute fun s t h => ⟨?_, ?_, ?_⟩) ?_
  · show (q.jobs s).rows.countP _ = (q.jobs t).rows.countP _
    have hjobs := h.jobs
    generalize (q.jobs s).rows = rows, (q.jobs t).rows = rows' at hjobs
    induction hjobs with
    | nil => rfl
    | cons hrow _ ih => rw [List.countP_cons, List.countP_cons, hguard _ _ hrow, ih]
  · rw [jobs_setJobs, jobs_setJobs, Table.update_rows, Table.update_rows]
    have hjobs := h.jobs
    generalize (q.jobs s).rows = rows, (q.jobs t).rows = rows' at hjobs
    induction hjobs with
    | nil => exact .nil
    | @cons a b _ _ hrow _ ih =>
      rw [List.map_cons, List.map_cons, hguard _ _ hrow]
      refine .cons ?_ ih
      by_cases hb : guarded id state expected b = true
      · rw [if_pos hb, if_pos hb]
        exact ⟨hrow.id, rfl, hrow.dueAt, rfl, rfl, hrow.request⟩
      · rw [if_neg hb, if_neg hb]
        exact hrow
  · rw [setJobs_setJobs, setJobs_setJobs]
    exact h.rest
  · rintro changed _ rfl
    by_cases hone : changed ≠ 1
    · rw [if_pos hone]
      exact Sql.agree_fail _
    · rw [if_neg hone]
      exact Sql.agree_pure trivial

/-- **A state change cannot tell the two stores apart.** -/
theorem agree_changeState (state : Option PublishState) (id : String) (expected : Nat)
    (next : PublishState) (now : DateTime) :
    Sql.Agree (q.SameBut rel) (JobsMatch rel) (q.changeState state id expected next now)
      (q.changeState state id expected next now) := by
  refine Sql.agree_bind (agree_currentJob id) fun a b h => ?_
  obtain ⟨hrest, hrel⟩ := h
  have hstate : a.state = b.state := by rw [← hrest]
  have hrevision : a.revision = b.revision := by rw [← hrest]
  refine Sql.agree_bind (Q := fun _ _ => True) ?_ fun _ _ _ => ?_
  · rw [hstate]
    cases b.state.transition next with
    | error e => exact Sql.agree_fail e
    | ok s => exact Sql.agree_pure trivial
  refine Sql.agree_bind (Q := fun _ _ => True) ?_ fun _ _ _ => ?_
  · unfold checkRevision
    rw [hrevision]
    by_cases hstale : b.revision ≠ expected
    · rw [if_pos hstale]
      exact Sql.agree_fail _
    · rw [if_neg hstale]
      exact Sql.agree_pure trivial
  exact Sql.agree_bind (agree_updateJob id state expected next now) fun _ _ _ =>
    Sql.agree_pure ⟨hrest, hrel⟩

end QueueTable

/-! ## 4. Completions -/

section Completions
variable {rel : PublishRequest → PublishRequest → Prop}

/-- Beside the jobs, the two stores are one. -/
theorem sameBut_history {s t : Store} (h : videoQueue.SameBut rel s t) :
    s.history = t.history ∧ s.historySequence = t.historySequence := by
  have hhistory := congrArg Store.history h.rest
  have hsequence := congrArg Store.historySequence h.rest
  exact ⟨hhistory, hsequence⟩

/-- Writing one history and one number to both keeps them so. -/
theorem sameBut_setHistory {s t : Store} (h : videoQueue.SameBut rel s t)
    (history : Table HistoryRow.id) (n : Nat) :
    videoQueue.SameBut rel { s with history := history, historySequence := n }
      { t with history := history, historySequence := n } := by
  refine ⟨h.jobs, ?_⟩
  have hrest := h.rest
  show { videoQueue.setJobs s .empty with history := history, historySequence := n } =
    { videoQueue.setJobs t .empty with history := history, historySequence := n }
  rw [hrest]

/-- Both take one row id from the sequence. -/
theorem agree_nextHistory :
    Sql.Agree (ε := DomainError) (videoQueue.SameBut rel) Eq (Sql.execute nextHistory)
      (Sql.execute nextHistory) := by
  refine Sql.agree_execute fun s t h => ?_
  obtain ⟨hhistory, hsequence⟩ := sameBut_history h
  have hset := sameBut_setHistory h t.history (t.historySequence + 1)
  rw [← hhistory, ← hsequence] at hset
  refine ⟨congrArg (· + 1) hsequence, ?_⟩
  have ht : (nextHistory t).2 = { t with
      history := s.history, historySequence := s.historySequence + 1 } := by
    rw [hhistory, hsequence]
    rfl
  rw [ht]
  exact hset

/-- Both meet the same id held, or write the same row. -/
theorem agree_insertOrIgnore (row : HistoryRow) :
    Sql.Agree (ε := DomainError) (videoQueue.SameBut rel) Eq
      (Sql.execute fun s => insertOrIgnore s row) (Sql.execute fun s => insertOrIgnore s row) := by
  refine Sql.agree_execute fun s t h => ?_
  obtain ⟨hhistory, hsequence⟩ := sameBut_history h
  unfold insertOrIgnore
  rw [hhistory]
  cases t.history.insert row with
  | none => exact ⟨rfl, h⟩
  | some history =>
    have hset := sameBut_setHistory h history t.historySequence
    rw [← hsequence] at hset
    refine ⟨rfl, ?_⟩
    have ht : { t with history := history } = { t with
        history := history, historySequence := s.historySequence } := by rw [hsequence]
    show videoQueue.SameBut rel { s with history := history } { t with history := history }
    rw [ht]
    exact hset

theorem agree_historyTurn (idPrefix : String) (request : PublishRequest) (state : PublishState)
    (recordedAt : DateTime) (detail : Option String) :
    Sql.Agree (videoQueue.SameBut rel) Eq
      (historyTurn idPrefix request state recordedAt detail)
      (historyTurn idPrefix request state recordedAt detail) := by
  refine Sql.agree_bind agree_nextHistory ?_
  rintro rowid _ rfl
  refine Sql.agree_bind (Q := Eq) ?_ ?_
  · cases (historyRecord idPrefix rowid request state recordedAt detail).toRow with
    | error e => exact Sql.agree_fail e
    | ok row => exact Sql.agree_pure rfl
  rintro row _ rfl
  refine Sql.agree_bind (agree_insertOrIgnore row) ?_
  rintro inserted _ rfl
  exact Sql.agree_pure rfl

theorem agree_insertTerminalHistory (idPrefix : String) (request : PublishRequest)
    (state : PublishState) (recordedAt : DateTime) (detail : Option String) :
    Sql.Agree (videoQueue.SameBut rel) Eq
      (insertTerminalHistory idPrefix request state recordedAt detail)
      (insertTerminalHistory idPrefix request state recordedAt detail) := by
  intro s t faults h
  unfold insertTerminalHistory
  rw [(sameBut_history h).1, insertTerminalHistoryLoop_eq]
  exact Sql.agree_loopFuel (agree_historyTurn idPrefix request state recordedAt detail) _ _
    s t faults h

/-- **A completed video job leaves the same record, whatever accounts its request names.** -/
theorem agree_completeJobWithHistory (id : String) (expected : Nat) (next : PublishState)
    (now : DateTime) (detail : Option String) :
    Sql.Agree (videoQueue.SameBut PublishRequest.SameButRouting)
      (fun a b => QueueTable.JobsMatch PublishRequest.SameButRouting a.1 b.1 ∧ a.2 = b.2)
      (completeJobWithHistory id expected next now detail)
      (completeJobWithHistory id expected next now detail) := by
  refine Sql.agree_transaction (Sql.agree_bind
    (QueueTable.agree_changeState none id expected next now) fun a b h => ?_)
  obtain ⟨hrest, hrel⟩ := h
  rw [PublishRequest.sameButRouting_iff.mp hrel]
  refine Sql.agree_bind (agree_insertTerminalHistory _ _ _ _ _) ?_
  rintro record _ rfl
  refine Sql.agree_pure ⟨⟨?_, hrel⟩, rfl⟩
  show ({ a with
    request := b.request, state := next, revision := expected + 1, updatedAt := now } :
      ScheduledJob) = { b with state := next, revision := expected + 1, updatedAt := now }
  rw [← hrest]

/-- Article requests of which a history row holds the same. -/
def PublishArticleRequest.SameInHistory (a b : PublishArticleRequest) : Prop :=
  a.title = b.title ∧ a.platform = b.platform

theorem articlePlatform_sameInHistory {a b : PublishArticleRequest} (h : a.SameInHistory b) :
    a.articlePlatform = b.articlePlatform := by
  unfold PublishArticleRequest.articlePlatform
  rw [h.2]

/-- **A completed article job leaves a record of its title, platform and new state**, whatever
    the rest of its request is and whatever detail the caller passes. -/
theorem agree_completeArticleWithHistory (id : String) (expected : Nat) (next : PublishState)
    (now : DateTime) (detail detail' : Option String) :
    Sql.Agree (articleQueue.SameBut PublishArticleRequest.SameInHistory)
      (fun a b => QueueTable.JobsMatch PublishArticleRequest.SameInHistory a.1 b.1 ∧ a.2 = b.2)
      (completeArticleWithHistory id expected next now detail)
      (completeArticleWithHistory id expected next now detail') := by
  refine Sql.agree_transaction (Sql.agree_bind
    (QueueTable.agree_changeState (some .dispatching) id expected next now) fun a b h => ?_)
  obtain ⟨hrest, hrel⟩ := h
  refine Sql.agree_bind (Q := Eq) (Sql.agree_execute fun s t h => ?_) ?_
  · have hsequence := congrArg Store.articleHistorySequence h.rest
    change s.articleHistorySequence = t.articleHistorySequence at hsequence
    refine ⟨congrArg (· + 1) hsequence, h.jobs, ?_⟩
    show { articleQueue.setJobs s .empty with
        articleHistorySequence := s.articleHistorySequence + 1 } =
      { articleQueue.setJobs t .empty with
        articleHistorySequence := t.articleHistorySequence + 1 }
    rw [h.rest, hsequence]
  rintro rowid _ rfl
  refine Sql.agree_bind (Q := Eq) ?_ ?_
  · rw [articlePlatform_sameInHistory hrel]
    cases b.request.articlePlatform with
    | error e => exact Sql.agree_fail e
    | ok platform => exact Sql.agree_pure rfl
  rintro platform _ rfl
  have hrecord : articleRecord a platform rowid next now =
      articleRecord b platform rowid next now := by
    unfold articleRecord
    rw [hrel.1]
  rw [hrecord]
  refine Sql.agree_bind (Q := fun _ _ => True) (Sql.agree_statement fun s t h => ?_) fun _ _ _ =>
    Sql.agree_pure ⟨⟨?_, hrel⟩, rfl⟩
  · have hhistory := congrArg Store.articleHistory h.rest
    change s.articleHistory = t.articleHistory at hhistory
    unfold insertArticleHistory
    rw [hhistory]
    cases t.articleHistory.insert (articleRecord b platform rowid next now).toRow with
    | none => exact .error _
    | some rows =>
      refine .ok ⟨trivial, h.jobs, ?_⟩
      show { articleQueue.setJobs s .empty with articleHistory := rows } =
        { articleQueue.setJobs t .empty with articleHistory := rows }
      rw [h.rest]
  · show ({ a with
      request := b.request, state := next, revision := expected + 1, updatedAt := now } :
        ArticleScheduledJob) = { b with state := next, revision := expected + 1, updatedAt := now }
    rw [← hrest]

end Completions

/-! ## 5. All boundaries -/

/-- **Account routing never crosses the runner or history boundary.**  Two video requests `a`, `b`
    and two article requests `c`, `d` that differ in routing alone make the same posts, of any
    replies, and store the same rows; a completion of jobs that hold them stores one record, and
    an article's record depends on title and platform alone. -/
theorem account_routing_never_crosses {a b : PublishRequest} {c d : PublishArticleRequest}
    (hvideo : a.SameButRouting b) (harticle : c.SameButRouting d) :
    (∀ provider : TcpRunnerProvider, provider.enqueueWith a = provider.enqueueWith b) ∧
      (∀ runner : ArticleRunner, runner.dispatchWith c = runner.dispatchWith d) ∧
      (∀ now, enqueue a now = enqueue b now) ∧
      (∀ now, enqueueArticle c now = enqueueArticle d now) ∧
      (∀ report recordedAt, recordProviderDispatchHistory a report recordedAt =
        recordProviderDispatchHistory b report recordedAt) ∧
      (∀ id expected next now detail,
        Sql.Agree (videoQueue.SameBut PublishRequest.SameButRouting)
          (fun x y => QueueTable.JobsMatch PublishRequest.SameButRouting x.1 y.1 ∧ x.2 = y.2)
          (completeJobWithHistory id expected next now detail)
          (completeJobWithHistory id expected next now detail)) ∧
      (∀ id expected next now detail detail',
        Sql.Agree (articleQueue.SameBut PublishArticleRequest.SameInHistory)
          (fun x y => QueueTable.JobsMatch PublishArticleRequest.SameInHistory x.1 y.1 ∧ x.2 = y.2)
          (completeArticleWithHistory id expected next now detail)
          (completeArticleWithHistory id expected next now detail')) :=
  ⟨fun provider => enqueueWith_routing provider hvideo,
    fun runner => dispatchWith_routing runner harticle,
    enqueue_routing hvideo,
    enqueueArticle_routing harticle,
    recordProviderDispatchHistory_routing hvideo,
    agree_completeJobWithHistory,
    agree_completeArticleWithHistory⟩

/-- A video for one account, with an override for another. -/
def routedRequest (phone : String) : PublishRequest :=
  { sampleRequest with
    account := ⟨some phone, none⟩
    overrides := [⟨.douyin, none, none, none, none, some ⟨some phone, some "main"⟩, none⟩] }

/-- An article for one account. -/
def routedArticle (phone : String) : PublishArticleRequest :=
  { sampleArticle with account := ⟨some phone, none⟩ }

theorem account_routing_never_crosses_sample :
    enqueue (routedRequest "1") articleNow = enqueue (routedRequest "2") articleNow ∧
      enqueueArticle (routedArticle "1") articleNow =
        enqueueArticle (routedArticle "2") articleNow := by
  have h := account_routing_never_crosses (a := routedRequest "1") (b := routedRequest "2")
    (c := routedArticle "1") (d := routedArticle "2") ⟨.cons rfl .nil, rfl⟩ rfl
  exact ⟨h.2.2.1 articleNow, h.2.2.2.1 articleNow⟩

end MatriXpost
