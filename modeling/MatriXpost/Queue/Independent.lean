/-
  File:      MatriXpost/Queue/Independent.lean
  Subject:   THE TWO QUEUES IN ONE DATABASE. Videos and articles share a file, a connection and
             the shape of their tables; whatever the order of their operations, neither sees the
             other.

  * `lanes` cuts a store into video and article tables, `worlds` what the runs are about;
  * every operation of a queue is a program on its own tables: the shared ones by
    `QueueTable.On`, the others by the rules of `Sql.On`;
  * `queues_independent`: the runs of the repository are the pairs of a run of the video queue and
    a run of the article queue, in every interleaving.
-/
import MatriXpost.Lib.Split
import MatriXpost.Queue.Run
import MatriXpost.Queue.ArticleRun

namespace MatriXpost

/-! ## 1. Two parts of one store -/

/-- The video tables of one store and the article tables of another. -/
def Store.mix (s t : Store) : Store :=
  { s with
    articleJobs := t.articleJobs
    articleHistory := t.articleHistory
    articleJobSequence := t.articleJobSequence
    articleHistorySequence := t.articleHistorySequence }

/-- Video tables first, article tables second. -/
def lanes : Split Store where
  mix := Store.mix
  mix_self _ := rfl
  mix_left _ _ _ := rfl
  mix_right _ _ _ := rfl

/-- A pending enqueue belongs to the videos. -/
def worlds : Split QueueWorld where
  mix w w' := ⟨lanes.mix w.store w'.store, w.pending⟩
  mix_self _ := rfl
  mix_left _ _ _ := rfl
  mix_right _ _ _ := rfl

/-! ## 2. What the queues share -/

/-- The job table of the queue is in the first part. -/
structure QueueTable.On {R δ : Type} (S : Split Store) (q : QueueTable R δ) : Prop where
  jobs : ∀ s t, q.jobs (S.mix s t) = q.jobs s
  setJobs : ∀ s t rows, q.setJobs (S.mix s t) rows = S.mix (q.setJobs s rows) t

theorem videoQueue_on : videoQueue.On lanes := ⟨fun _ _ => rfl, fun _ _ _ => rfl⟩

theorem articleQueue_on : articleQueue.On lanes.swap := ⟨fun _ _ => rfl, fun _ _ _ => rfl⟩

namespace QueueTable

section On
variable {R δ : Type} {q : QueueTable R δ} {S : Split Store}

theorem on_insertJob (h : q.On S) (column : String) (job : Job R δ) :
    Sql.On S (q.insertJob column job) := by
  refine Sql.on_bind (Sql.on_lift _) fun row => Sql.on_statement fun s t => ?_
  rw [h.jobs s t]
  cases (q.jobs s).insert row with
  | none => rfl
  | some jobs =>
    dsimp only
    rw [h.setJobs s t]
    rfl

theorem on_updateJob (h : q.On S) (id : String) (state : Option PublishState) (expected : Nat)
    (next : PublishState) (now : DateTime) : Sql.On S (q.updateJob id state expected next now) := by
  refine Sql.on_bind (Sql.on_execute fun s t => ?_) fun changed => ?_
  · rw [h.jobs s t, h.setJobs s t]
  · split
    · exact Sql.on_fail _
    · exact Sql.on_pure ()

theorem on_loadJob (h : q.On S) (id : String) : Sql.On S (q.loadJob id) := by
  refine Sql.on_bind (Sql.on_query fun s t => by rw [h.jobs s t]) fun row => ?_
  cases row with
  | none => exact Sql.on_pure none
  | some row => exact Sql.on_bind (Sql.on_lift _) fun job => Sql.on_pure (some job)

theorem on_currentJob (h : q.On S) (id : String) : Sql.On S (q.currentJob id) := by
  refine Sql.on_bind (on_loadJob h id) fun job => ?_
  cases job with
  | none => exact Sql.on_fail _
  | some job => exact Sql.on_pure job

theorem on_checkRevision (id : String) (job : Job R δ) (expected : Nat) :
    Sql.On S (checkRevision id job expected) := by
  unfold checkRevision
  split
  · exact Sql.on_fail _
  · exact Sql.on_pure ()

theorem on_changeState (h : q.On S) (state : Option PublishState) (id : String) (expected : Nat)
    (next : PublishState) (now : DateTime) :
    Sql.On S (q.changeState state id expected next now) := by
  refine Sql.on_bind (on_currentJob h id) fun current => ?_
  refine Sql.on_bind (Sql.on_lift _) fun st => ?_
  refine Sql.on_bind (on_checkRevision id current expected) fun u => ?_
  exact Sql.on_bind (on_updateJob h id state expected next now) fun u => Sql.on_pure current

theorem on_claimAll (h : q.On S) (now : DateTime) (jobs : List (Job R δ)) :
    Sql.On S (q.claimAll now jobs) := by
  induction jobs with
  | nil => exact Sql.on_pure []
  | cons current rest ih =>
    refine Sql.on_bind (on_updateJob h current.id (some .queued) current.revision .dispatching now)
      fun u => ?_
    exact Sql.on_bind ih fun claimed => Sql.on_pure _

/-- A claim is on the queue's own table. -/
theorem on_claim (h : q.On S) (dueThrough : LocalSchedule) (now : DateTime) (limit : Nat) :
    Sql.On S (q.claim dueThrough now limit) := by
  unfold claim
  dsimp only
  split
  · exact Sql.on_pure []
  · refine Sql.on_transaction (Sql.on_bind (Sql.on_query fun s t => ?_) fun rows => ?_)
    · unfold dueRows
      rw [h.jobs s t]
    · exact Sql.on_bind (Sql.on_lift _) fun candidates => on_claimAll h now candidates

/-- And so is a requeue. -/
theorem on_requeue (h : q.On S) (id : String) (expected : Nat) (now : DateTime) :
    Sql.On S (q.requeue id expected now) := by
  refine Sql.on_transaction (Sql.on_bind (on_currentJob h id) fun current => ?_)
  split
  · exact Sql.on_fail _
  · refine Sql.on_bind (on_checkRevision id current expected) fun u => ?_
    exact Sql.on_bind (on_updateJob h id (some .dispatching) expected .queued now)
      fun u => Sql.on_pure _

end On

end QueueTable

/-! ## 3. The video queue -/

theorem on_insertTerminalHistory (idPrefix : String) (request : PublishRequest)
    (state : PublishState) (recordedAt : DateTime) (detail : Option String) :
    Sql.On lanes (insertTerminalHistory idPrefix request state recordedAt detail) := by
  have hturn : Sql.On lanes (historyTurn idPrefix request state recordedAt detail) := by
    refine Sql.on_bind (Sql.on_execute fun _ _ => rfl) fun rowid => ?_
    refine Sql.on_bind (Sql.on_lift _) fun row => ?_
    refine Sql.on_bind (Sql.on_execute fun s t => ?_) fun inserted => Sql.on_pure _
    have hhistory : (lanes.mix s t).history = s.history := rfl
    unfold insertOrIgnore
    rw [hhistory]
    cases s.history.insert row <;> rfl
  intro s t faults
  -- The fuel is read off the video history, which both runs share.
  change insertTerminalHistoryLoop idPrefix request state recordedAt detail
    (s.history.rows.length + 1) ⟨lanes.mix s t, faults⟩ = _
  rw [insertTerminalHistoryLoop_eq, Sql.on_loopFuel hturn _ _ s t faults,
    ← insertTerminalHistoryLoop_eq]
  rfl

theorem on_enqueueBegin (request : PublishRequest) (now : DateTime) :
    Sql.On lanes (enqueueBegin request now) := by
  refine Sql.on_bind (Sql.on_lift _) fun u => Sql.on_bind ?_ fun id => Sql.on_pure _
  exact Sql.on_bind (Sql.on_execute fun _ _ => rfl) fun rowid => Sql.on_pure _

theorem on_transitionJob (id : String) (expected : Nat) (next : PublishState) (now : DateTime) :
    Sql.On lanes (transitionJob id expected next now) :=
  Sql.on_transaction (Sql.on_bind
    (QueueTable.on_changeState videoQueue_on none id expected next now) fun _ => Sql.on_pure _)

theorem on_completeJobWithHistory (id : String) (expected : Nat) (next : PublishState)
    (now : DateTime) (detail : Option String) :
    Sql.On lanes (completeJobWithHistory id expected next now detail) := by
  refine Sql.on_transaction (Sql.on_bind
    (QueueTable.on_changeState videoQueue_on none id expected next now) fun current => ?_)
  exact Sql.on_bind (on_insertTerminalHistory _ _ _ _ _) fun history => Sql.on_pure _

theorem on_recordProviderDispatchHistory (request : PublishRequest)
    (report : ProviderDispatchReport) (now : DateTime) :
    Sql.On lanes (recordProviderDispatchHistory request report now) :=
  Sql.on_transaction (on_insertTerminalHistory _ _ _ _ _)

theorem on_appendHistory (record : HistoryRecord) : Sql.On lanes (appendHistory record) := by
  refine Sql.on_bind (Sql.on_lift _) fun row => Sql.on_statement fun s t => ?_
  have hhistory : (lanes.mix s t).history = s.history := rfl
  rw [hhistory]
  cases s.history.insert row <;> rfl

/-- What a step of the queue does from a store. -/
theorem queueStep_beside {w w' : QueueWorld} {e : Nat × QueueEvent} (h : QueueStep w e w')
    (t : QueueWorld) : QueueStep (worlds.mix w t) e (worlds.mix w' t) := by
  cases h with
  | allocated h => exact .allocated ((on_enqueueBegin _ _).runs_beside h t.store)
  | notAllocated h => exact .notAllocated ((on_enqueueBegin _ _).runs_beside h t.store)
  | insert before after hpending h =>
    exact .insert before after hpending
      (Sql.On.runs_beside (QueueTable.on_insertJob videoQueue_on _ _) h t.store)
  | transition h => exact .transition ((on_transitionJob _ _ _ _).runs_beside h t.store)
  | complete h => exact .complete ((on_completeJobWithHistory _ _ _ _ _).runs_beside h t.store)
  | claim h =>
    exact .claim (Sql.On.runs_beside (QueueTable.on_claim videoQueue_on _ _ _) h t.store)
  | requeue h =>
    exact .requeue (Sql.On.runs_beside (QueueTable.on_requeue videoQueue_on _ _ _) h t.store)
  | recordDispatch h =>
    exact .recordDispatch ((on_recordProviderDispatchHistory _ _ _).runs_beside h t.store)
  | append h => exact .append ((on_appendHistory _).runs_beside h t.store)

/-- A step of the video queue leaves the article tables alone. -/
theorem queueStep_kept {w w' : QueueWorld} {e : Nat × QueueEvent} (h : QueueStep w e w') :
    lanes.mix w'.store w.store = w'.store := by
  cases h with
  | allocated h => exact (on_enqueueBegin _ _).runs_kept h
  | notAllocated h => exact (on_enqueueBegin _ _).runs_kept h
  | insert before after hpending h =>
    exact Sql.On.runs_kept (QueueTable.on_insertJob videoQueue_on _ _) h
  | transition h => exact (on_transitionJob _ _ _ _).runs_kept h
  | complete h => exact (on_completeJobWithHistory _ _ _ _ _).runs_kept h
  | claim h => exact Sql.On.runs_kept (QueueTable.on_claim videoQueue_on _ _ _) h
  | requeue h => exact Sql.On.runs_kept (QueueTable.on_requeue videoQueue_on _ _ _) h
  | recordDispatch h => exact (on_recordProviderDispatchHistory _ _ _).runs_kept h
  | append h => exact (on_appendHistory _).runs_kept h

theorem queueStep_onFirst : worlds.OnFirst QueueStep where
  kept _ _ w' h := congrArg (fun s => QueueWorld.mk s w'.pending) (queueStep_kept h)
  beside _ _ _ t h := queueStep_beside h t

/-! ## 4. The article queue -/

theorem on_enqueueArticle (request : PublishArticleRequest) (now : DateTime) :
    Sql.On lanes.swap (enqueueArticle request now) := by
  refine Sql.on_bind (Sql.on_lift _) fun u => Sql.on_bind (Sql.on_lift _) fun due => ?_
  refine Sql.on_bind (Sql.on_execute fun _ _ => rfl) fun rowid => ?_
  exact Sql.on_bind (QueueTable.on_insertJob articleQueue_on _ _) fun u => Sql.on_pure _

theorem on_completeArticleWithHistory (id : String) (expected : Nat) (next : PublishState)
    (now : DateTime) (detail : Option String) :
    Sql.On lanes.swap (completeArticleWithHistory id expected next now detail) := by
  refine Sql.on_transaction (Sql.on_bind
    (QueueTable.on_changeState articleQueue_on (some .dispatching) id expected next now)
    fun current => ?_)
  refine Sql.on_bind (Sql.on_execute fun _ _ => rfl) fun rowid => ?_
  refine Sql.on_bind (Sql.on_lift _) fun platform => ?_
  refine Sql.on_bind (Sql.on_statement fun s t => ?_) fun u => Sql.on_pure _
  have hhistory : (lanes.swap.mix s t).articleHistory = s.articleHistory := rfl
  unfold insertArticleHistory
  rw [hhistory]
  cases s.articleHistory.insert _ <;> rfl

/-- The program of an operation of the article queue is on the article tables. -/
theorem articleStep_onFirst : lanes.swap.OnFirst ArticleStep where
  kept s e s' h := by
    cases e with
    | enqueue request now reply => exact (on_enqueueArticle request now).runs_kept h
    | claim dueThrough now limit reply =>
      exact Sql.On.runs_kept (QueueTable.on_claim articleQueue_on dueThrough now limit) h
    | complete id expected next now detail reply =>
      exact (on_completeArticleWithHistory id expected next now detail).runs_kept h
    | requeue id expected now reply =>
      exact Sql.On.runs_kept (QueueTable.on_requeue articleQueue_on id expected now) h
  beside s e s' t h := by
    cases e with
    | enqueue request now reply => exact (on_enqueueArticle request now).runs_beside h t
    | claim dueThrough now limit reply =>
      exact Sql.On.runs_beside (QueueTable.on_claim articleQueue_on dueThrough now limit) h t
    | complete id expected next now detail reply =>
      exact (on_completeArticleWithHistory id expected next now detail).runs_beside h t
    | requeue id expected now reply =>
      exact Sql.On.runs_beside (QueueTable.on_requeue articleQueue_on id expected now) h t

/-! ## 5. Both -/

/-- An operation of the article queue, beside enqueues of videos that are under way. -/
def ArticleWorldStep (w : QueueWorld) (e : ArticleEvent) (w' : QueueWorld) : Prop :=
  ArticleStep w.store e w'.store ∧ w'.pending = w.pending

/-- A step of the repository. -/
abbrev RepositoryStep : QueueWorld → (Nat × QueueEvent) ⊕ ArticleEvent → QueueWorld → Prop :=
  Split.Either QueueStep ArticleWorldStep

theorem articleWorldStep_onFirst : worlds.swap.OnFirst ArticleWorldStep where
  kept w e w' h := by
    have hkept := articleStep_onFirst.kept _ _ _ h.1
    change QueueWorld.mk (lanes.swap.mix w'.store w.store) w.pending = w'
    rw [hkept, ← h.2]
  beside w e w' t h := ⟨articleStep_onFirst.beside _ _ _ t.store h.1, rfl⟩

theorem articleWorld_trace {w w' : QueueWorld} {events : List ArticleEvent} :
    Trace ArticleWorldStep w events w' ↔
      Trace ArticleStep w.store events w'.store ∧ w'.pending = w.pending := by
  constructor
  · intro h
    induction h with
    | nil => exact ⟨.nil, rfl⟩
    | cons hs _ ih => exact ⟨.cons hs.1 ih.1, ih.2.trans hs.2⟩
  · intro h
    obtain ⟨h, hpending⟩ := h
    obtain ⟨s, pending⟩ := w
    obtain ⟨s', pending'⟩ := w'
    dsimp only at h hpending
    subst hpending
    induction h with
    | nil => exact .nil
    | @cons s s₁ s' e rest hs _ ih =>
      have hfirst : ArticleWorldStep ⟨s, pending'⟩ e ⟨s₁, pending'⟩ := ⟨hs, rfl⟩
      exact .cons hfirst ih

/-- **Neither queue sees the other.** Videos and articles share one database. Its runs are exactly
    the interleavings of a run of the video queue with a run of the article queue from the same
    store: every operation answers what it answers in the run of its own queue alone, and the
    tables that run leaves are the tables of that queue at the end. -/
theorem queues_independent {w w' : QueueWorld} {events : List ((Nat × QueueEvent) ⊕ ArticleEvent)} :
    Trace RepositoryStep w events w' ↔
      Trace QueueStep w (Split.firsts events) ⟨lanes.mix w'.store w.store, w'.pending⟩ ∧
      Trace ArticleStep w.store (Split.seconds events) (lanes.mix w.store w'.store) := by
  rw [Split.either_trace queueStep_onFirst articleWorldStep_onFirst, articleWorld_trace]
  exact and_congr_right fun _ => and_iff_left rfl

end MatriXpost
