/-
  File:      MatriXpost/Lifecycle/Run.lean
  Subject:   RUNS OF THE LIFECYCLE STORE, AND OPTIMISTIC CONCURRENCY OF ITS OBJECTS: any number of
             clients over one database, their steps in any order, with any arguments and under
             any faults, beside the steps of the publication queue.

  An event is one atomic step of one client with its reply. An insert is two of them, its checks
  and its INSERT (`LifecycleRecord.insert_eq` of `Lifecycle.Store`); what has passed its checks is
  `pending`. Clients transition with whatever revision they like, those they read among them.

  * `lifecycleStep_cases` says once what a step can do to the store: nothing, one checked record
    inserted, one object advanced, or a step of the queue, which keeps its history;
  * `lifecycle_versioned`: successful transitions win their object at the revision it has;
  * **`lifecycle_concurrency`**: at most one success for each object and revision, revisions count
    successes, every success follows the transition graphs and writes one row, failures write
    none, and what an object was inserted with never changes.
-/
import MatriXpost.Lifecycle.Store
import MatriXpost.Queue.Run

namespace MatriXpost

/-! ## 1. Events and steps -/

/-- One atomic step of a client, with its reply. -/
inductive LifecycleEvent where
  | check (record : LifecycleRecord) (reply : Except DomainError Unit)
  | insert (record : LifecycleRecord) (reply : Except DomainError Unit)
  | read (id : String) (reply : Except DomainError (Option BusinessObject))
  | transition (id : String) (expected : Nat) (nextLifecycle : BusinessObjectStatus)
      (nextApproval : ApprovalStatus) (updatedAt : DateTime)
      (reply : Except DomainError BusinessObject)
  | publication (event : QueueEvent)

/-- The database, the records between checks and INSERT, and the jobs whose enqueue has begun. -/
structure LifecycleWorld where
  store : BusinessStore
  pending : List LifecycleRecord
  jobs : List ScheduledJob

namespace LifecycleWorld

def initial : LifecycleWorld := ⟨.initial, [], []⟩

/-- The part of the world the publication queue steps in. -/
def queue (w : LifecycleWorld) : QueueWorld := ⟨w.store.publication, w.jobs⟩

def setQueue (w : LifecycleWorld) (q : QueueWorld) : LifecycleWorld :=
  { w with store := { w.store with publication := q.store }, jobs := q.pending }

end LifecycleWorld

/-- A step of client number `e.1`. -/
inductive LifecycleStep : LifecycleWorld → Nat × LifecycleEvent → LifecycleWorld → Prop
  | checked {w : LifecycleWorld} {n : Nat} {record : LifecycleRecord} {s : BusinessStore} :
      Sql.Runs record.check w.store (.ok ()) s →
      LifecycleStep w (n, .check record (.ok ())) ⟨s, record :: w.pending, w.jobs⟩
  | refused {w : LifecycleWorld} {n : Nat} {record : LifecycleRecord} {e : DomainError}
      {s : BusinessStore} :
      Sql.Runs record.check w.store (.error e) s →
      LifecycleStep w (n, .check record (.error e)) ⟨s, w.pending, w.jobs⟩
  | insert {w : LifecycleWorld} {n : Nat} {record : LifecycleRecord}
      {reply : Except DomainError Unit} {s : BusinessStore} (before after : List LifecycleRecord) :
      w.pending = before ++ record :: after →
      Sql.Runs (Sql.statement record.insertRow) w.store reply s →
      LifecycleStep w (n, .insert record reply) ⟨s, before ++ after, w.jobs⟩
  | read {w : LifecycleWorld} {n : Nat} {id : String}
      {reply : Except DomainError (Option BusinessObject)} {s : BusinessStore} :
      Sql.Runs (businessObject id) w.store reply s →
      LifecycleStep w (n, .read id reply) ⟨s, w.pending, w.jobs⟩
  | transition {w : LifecycleWorld} {n : Nat} {id : String} {expected : Nat}
      {nextLifecycle : BusinessObjectStatus} {nextApproval : ApprovalStatus}
      {updatedAt : DateTime} {reply : Except DomainError BusinessObject} {s : BusinessStore} :
      Sql.Runs (transitionBusinessObject id expected nextLifecycle nextApproval updatedAt)
        w.store reply s →
      LifecycleStep w (n, .transition id expected nextLifecycle nextApproval updatedAt reply)
        ⟨s, w.pending, w.jobs⟩
  | publication {w : LifecycleWorld} {n : Nat} {event : QueueEvent} {q : QueueWorld} :
      QueueStep w.queue (n, event) q →
      LifecycleStep w (n, .publication event) (w.setQueue q)

namespace LifecycleEvent

/-- The object a successful transition wins, with the revision it had before. -/
def wins : LifecycleEvent → List (String × Nat)
  | .transition id expected _ _ _ (.ok _) => [(id, expected)]
  | _ => []

/-- The record a successful INSERT accepts. -/
def accepted : LifecycleEvent → List LifecycleRecord
  | .insert record (.ok _) => [record]
  | _ => []

end LifecycleEvent

/-- The number of successful transitions of an object. -/
def transitions (events : List (Nat × LifecycleEvent)) (id : String) : Nat :=
  (events.flatMap (·.2.wins)).countP fun p => p.1 = id

/-! ## 2. What a step does -/

/-- The four things a step does to the store. -/
inductive BusinessChange (w w' : LifecycleWorld) (e : LifecycleEvent) : Prop
  | same : e.wins = [] → e.accepted = [] → w'.store = w.store → BusinessChange w w' e
  | inserted (record : LifecycleRecord) :
      e = .insert record (.ok ()) → record ∈ w.pending →
      record.insertRow w.store = .ok ((), w'.store) → BusinessChange w w' e
  | advanced (id : String) (nextLifecycle : BusinessObjectStatus) (nextApproval : ApprovalStatus)
      (updatedAt : DateTime) (object : BusinessObject) (row : BusinessObjectRow)
      (current : BusinessObject) :
      e = .transition id row.revision nextLifecycle nextApproval updatedAt (.ok object) →
      w.store.businessObjects.find? id = some row → rowToBusinessObject row = .ok current →
      LegalTransition current.lifecycleStatus nextLifecycle current.approvalStatus nextApproval →
      w'.store = w.store.advance id nextLifecycle nextApproval updatedAt → BusinessChange w w' e
  | publication (event : QueueEvent) (p : Store) (rows : List HistoryRow) :
      e = .publication event → p.history.rows = w.store.publication.history.rows ++ rows →
      w'.store = { w.store with publication := p } → BusinessChange w w' e

/-- What stands between checks and INSERT is valid. -/
def LifecycleWorld.PendingValid (w : LifecycleWorld) : Prop :=
  ∀ record ∈ w.pending, record.validate = .ok ()

section Steps
variable {w w' : LifecycleWorld} {e : Nat × LifecycleEvent}

/-- **What a step of any client does to the store.** -/
theorem lifecycleStep_cases (h : LifecycleStep w e w') : BusinessChange w w' e.2 := by
  cases h with
  | @checked n record s h => exact .same rfl rfl (record.readOnly_check _ _ _ h)
  | @refused n record e s h => exact .same rfl rfl (record.readOnly_check _ _ _ h)
  | @insert n record reply s before after hpending h =>
    cases reply with
    | error e => exact .same rfl rfl (Sql.runs_statement_error h)
    | ok u => exact .inserted record rfl (by rw [hpending]; simp) (Sql.runs_statement_ok.mp h)
  | read h => exact .same rfl rfl (readOnly_businessObject _ _ _ _ h)
  | @transition n id expected nextLifecycle nextApproval updatedAt reply s h =>
    cases reply with
    | error e => exact .same rfl rfl (transitionBusinessObject_error h)
    | ok object =>
      obtain ⟨row, current, hrow, hread, rfl, hlegal, hs, -⟩ := transitionBusinessObject_ok h
      exact .advanced id nextLifecycle nextApproval updatedAt object row current rfl hrow hread
        hlegal hs
  | @publication n event q h =>
    obtain ⟨rows, -, hrows⟩ := queueStep_history h
    exact .publication event q.store rows rfl hrows rfl

theorem lifecycleStep_pending (hv : w.PendingValid) (h : LifecycleStep w e w') :
    w'.PendingValid := by
  cases h with
  | checked h =>
    intro record hrecord
    rcases List.mem_cons.mp hrecord with rfl | hrecord
    · exact LifecycleRecord.check_ok h
    · exact hv record hrecord
  | insert before after hpending h =>
    intro record hrecord
    refine hv record ?_
    rw [hpending]
    rcases List.mem_append.mp hrecord with hrecord | hrecord
    · exact List.mem_append_left _ hrecord
    · exact List.mem_append_right _ (List.mem_cons_of_mem _ hrecord)
  | refused h => exact hv
  | read h => exact hv
  | transition h => exact hv
  | publication h => exact hv

/-- **In a run from an empty database what stands between checks and INSERT is valid.** -/
theorem pendingValid_run {events : List (Nat × LifecycleEvent)}
    (h : Trace LifecycleStep .initial events w) : w.PendingValid :=
  h.invariant (I := LifecycleWorld.PendingValid) (fun _ hr => absurd hr List.not_mem_nil)
    fun _ _ _ hI hstep => lifecycleStep_pending hI hstep

/-! ## 3. The objects over a step -/

/-- What a step leaves of a row: the columns written at insertion, the final statuses, and a
    revision that never falls. -/
structure Descends (old new : BusinessObjectRow) : Prop where
  id : new.id = old.id
  kind : new.kind = old.kind
  externalId : new.externalId = old.externalId
  displayName : new.displayName = old.displayName
  attributesJson : new.attributesJson = old.attributesJson
  createdAt : new.createdAt = old.createdAt
  revision : old.revision ≤ new.revision
  archived : old.lifecycleStatus = BusinessObjectStatus.archived.db →
    new.lifecycleStatus = BusinessObjectStatus.archived.db
  approved : old.approvalStatus = ApprovalStatus.approved.db →
    new.approvalStatus = ApprovalStatus.approved.db

theorem Descends.refl (row : BusinessObjectRow) : Descends row row :=
  ⟨rfl, rfl, rfl, rfl, rfl, rfl, Nat.le_refl _, fun h => h, fun h => h⟩

theorem Descends.trans {a b c : BusinessObjectRow} (h : Descends a b) (h' : Descends b c) :
    Descends a c where
  id := h'.id.trans h.id
  kind := h'.kind.trans h.kind
  externalId := h'.externalId.trans h.externalId
  displayName := h'.displayName.trans h.displayName
  attributesJson := h'.attributesJson.trans h.attributesJson
  createdAt := h'.createdAt.trans h.createdAt
  revision := Nat.le_trans h.revision h'.revision
  archived hold := h'.archived (h.archived hold)
  approved hold := h'.approved (h.approved hold)

/-- A legal transition keeps what is final. -/
theorem descends_advanced {row : BusinessObjectRow} {current : BusinessObject}
    {nextLifecycle : BusinessObjectStatus} {nextApproval : ApprovalStatus} (updatedAt : DateTime)
    (hread : rowToBusinessObject row = .ok current)
    (hlegal : LegalTransition current.lifecycleStatus nextLifecycle current.approvalStatus
      nextApproval) :
    Descends row (row.advanced nextLifecycle nextApproval updatedAt) := by
  obtain ⟨-, -, hlifecycle, happroval⟩ := rowToBusinessObject_ok hread
  refine ⟨rfl, rfl, rfl, rfl, rfl, rfl, Nat.le_succ _, fun harchived => ?_, fun happroved => ?_⟩
  · rw [hlifecycle] at harchived
    have hstatus : current.lifecycleStatus = .archived := by
      have hboth := congrArg BusinessObjectStatus.fromDb harchived
      rw [BusinessObjectStatus.fromDb_db, BusinessObjectStatus.fromDb_db] at hboth
      exact Except.ok.inj hboth
    by_cases hsame : current.lifecycleStatus = nextLifecycle
    · show nextLifecycle.db = _
      rw [← hsame, hstatus]
    · have hedge := hlegal.lifecycle hsame
      rw [hstatus, BusinessObjectStatus.archived_final] at hedge
      cases hedge
  · rw [happroval] at happroved
    have hstatus : current.approvalStatus = .approved := by
      have hboth := congrArg ApprovalStatus.fromDb happroved
      rw [ApprovalStatus.fromDb_db, ApprovalStatus.fromDb_db] at hboth
      exact Except.ok.inj hboth
    by_cases hsame : current.approvalStatus = nextApproval
    · show nextApproval.db = _
      rw [← hsame, hstatus]
    · have hedge := hlegal.approval hsame
      rw [hstatus, ApprovalStatus.approved_final] at hedge
      cases hedge

/-- **No step takes an object away or changes what it was inserted with.** -/
theorem lifecycleStep_descends (h : LifecycleStep w e w') {id : String} {row : BusinessObjectRow}
    (hrow : w.store.businessObjects.find? id = some row) :
    ∃ row', w'.store.businessObjects.find? id = some row' ∧ Descends row row' := by
  cases lifecycleStep_cases h with
  | same _ _ hs => exact ⟨row, hs ▸ hrow, .refl row⟩
  | inserted record _ _ hins =>
    rcases (insertRow_ok hins).objects with hsame | ⟨object, -, hinsert, -⟩
    · exact ⟨row, hsame ▸ hrow, .refl row⟩
    · exact ⟨row, Table.find?_insert_of_some hinsert hrow, .refl row⟩
  | advanced k nextLifecycle nextApproval updatedAt object old current _ hold hread hlegal hs =>
    have hfind : w'.store.businessObjects.find? id = _ := hs ▸ find?_advance id
    rw [hrow, Option.map_some] at hfind
    by_cases hid : id = k
    · subst hid
      obtain rfl : old = row := Option.some.inj (hold.symm.trans hrow)
      rw [if_pos rfl] at hfind
      exact ⟨_, hfind, descends_advanced updatedAt hread hlegal⟩
    · rw [if_neg hid] at hfind
      exact ⟨row, hfind, .refl row⟩
  | publication event p rows _ _ hs => exact ⟨row, by rw [hs]; exact hrow, .refl row⟩

/-- The same over a run. -/
theorem lifecycleRun_descends {events : List (Nat × LifecycleEvent)}
    (h : Trace LifecycleStep w events w') {id : String} {row : BusinessObjectRow}
    (hrow : w.store.businessObjects.find? id = some row) :
    ∃ row', w'.store.businessObjects.find? id = some row' ∧ Descends row row' := by
  refine h.invariant (I := fun w => ∃ row', w.store.businessObjects.find? id = some row' ∧
    Descends row row') ⟨row, hrow, .refl row⟩ ?_
  rintro w₁ e w₂ ⟨row₁, hrow₁, hdesc⟩ hstep
  obtain ⟨row₂, hrow₂, hdesc'⟩ := lifecycleStep_descends hstep hrow₁
  exact ⟨row₂, hrow₂, hdesc.trans hdesc'⟩

end Steps

/-! ## 4. Optimistic versions of the objects -/

/-- The revision of an object. -/
def LifecycleWorld.revision (w : LifecycleWorld) (id : String) : Option Nat :=
  (w.store.businessObjects.find? id).map (·.revision)

/-- **Successful transitions win their object at the revision it has, and nothing else moves a
    revision.** -/
theorem lifecycle_versioned :
    Versioned LifecycleStep LifecycleWorld.revision (·.2.wins) where
  distinct w e w' h := by
    obtain ⟨n, event⟩ := e
    show event.wins.Nodup
    cases lifecycleStep_cases h with
    | same hwins => exact hwins ▸ List.nodup_nil
    | inserted record he =>
      have hwins : event.wins = [] := congrArg LifecycleEvent.wins he
      exact hwins ▸ List.nodup_nil
    | advanced id _ _ _ _ row _ he =>
      have hwins : event.wins = [(id, row.revision)] := congrArg LifecycleEvent.wins he
      exact hwins ▸ List.nodup_singleton _
    | publication event' p rows he =>
      have hwins : event.wins = [] := congrArg LifecycleEvent.wins he
      exact hwins ▸ List.nodup_nil
  present w e w' h id v hmem := by
    cases lifecycleStep_cases h with
    | same hwins => exact absurd (hwins ▸ hmem) List.not_mem_nil
    | inserted record he => exact absurd (congrArg LifecycleEvent.wins he ▸ hmem) List.not_mem_nil
    | advanced k _ _ _ _ row _ he hrow =>
      have hwin := congrArg LifecycleEvent.wins he ▸ hmem
      obtain ⟨rfl, rfl⟩ := Prod.mk.inj (List.mem_singleton.mp hwin)
      show (w.store.businessObjects.find? id).map _ = _
      rw [hrow]
      rfl
    | publication event p rows he =>
      exact absurd (congrArg LifecycleEvent.wins he ▸ hmem) List.not_mem_nil
  raised w e w' h id v hmem := by
    cases lifecycleStep_cases h with
    | same hwins => exact absurd (hwins ▸ hmem) List.not_mem_nil
    | inserted record he => exact absurd (congrArg LifecycleEvent.wins he ▸ hmem) List.not_mem_nil
    | advanced k _ _ _ _ row _ he hrow _ _ hs =>
      have hwin := congrArg LifecycleEvent.wins he ▸ hmem
      obtain ⟨rfl, rfl⟩ := Prod.mk.inj (List.mem_singleton.mp hwin)
      show (w'.store.businessObjects.find? id).map _ = _
      rw [hs, find?_advance, hrow, Option.map_some, if_pos rfl]
      rfl
    | publication event p rows he =>
      exact absurd (congrArg LifecycleEvent.wins he ▸ hmem) List.not_mem_nil
  kept w e w' h id v hrev hnot := by
    obtain ⟨row, hrow, rfl⟩ := Option.map_eq_some_iff.mp hrev
    show (w'.store.businessObjects.find? id).map _ = _
    cases lifecycleStep_cases h with
    | same _ _ hs =>
      rw [hs, hrow]
      rfl
    | inserted record _ _ hins =>
      rcases (insertRow_ok hins).objects with hsame | ⟨object, -, hinsert, -⟩
      · rw [hsame, hrow]
        rfl
      · rw [Table.find?_insert_of_some hinsert hrow]
        rfl
    | advanced k _ _ _ _ old _ he hold _ _ hs =>
      rw [hs, find?_advance, hrow, Option.map_some]
      by_cases hid : id = k
      · subst hid
        obtain rfl : old = row := Option.some.inj (hold.symm.trans hrow)
        refine absurd ?_ hnot
        exact congrArg LifecycleEvent.wins he ▸ List.mem_singleton_self _
      · rw [if_neg hid]
        rfl
    | publication event p rows _ _ hs =>
      rw [hs]
      show (w.store.businessObjects.find? id).map _ = _
      rw [hrow]
      rfl

theorem transitions_append (es : List (Nat × LifecycleEvent)) (e : Nat × LifecycleEvent)
    (id : String) :
    transitions (es ++ [e]) id = transitions es id + e.2.wins.countP fun p => p.1 = id := by
  simp [transitions]

/-- Revisions count successful transitions; an object that is not there has had none. -/
def RevisionsCount (es : List (Nat × LifecycleEvent)) (w : LifecycleWorld) : Prop :=
  ∀ id, (w.store.businessObjects.find? id = none → transitions es id = 0) ∧
    ∀ row, w.store.businessObjects.find? id = some row → row.revision = transitions es id

theorem revisionsCount_step {es : List (Nat × LifecycleEvent)} {w w' : LifecycleWorld}
    {e : Nat × LifecycleEvent} (hv : w.PendingValid) (hI : RevisionsCount es w)
    (h : LifecycleStep w e w') : RevisionsCount (es ++ [e]) w' := by
  have hquiet : e.2.wins = [] → ∀ id, transitions (es ++ [e]) id = transitions es id := by
    intro hwins id
    rw [transitions_append, hwins]
    rfl
  have hsame : e.2.wins = [] → w'.store.businessObjects = w.store.businessObjects →
      RevisionsCount (es ++ [e]) w' := by
    intro hwins hobjects id
    rw [hobjects, hquiet hwins]
    exact hI id
  cases lifecycleStep_cases h with
  | same hwins _ hs => exact hsame hwins (by rw [hs])
  | inserted record he hpending hins =>
    have hwins : e.2.wins = [] := congrArg LifecycleEvent.wins he
    rcases (insertRow_ok hins).objects with hobjects | ⟨object, rfl, hinsert, -⟩
    · exact hsame hwins hobjects
    · intro id
      rw [hquiet hwins]
      by_cases hid : object.toRow.id = id
      · -- A new object has the revision zero, and no transition had found it before.
        have hnone := (Table.insert_eq_some hinsert).1
        rw [hid] at hnone
        have hzero : object.revision = 0 := (BusinessObject.validate_ok (hv _ hpending)).1
        rw [Table.find?_insert hinsert, if_pos hid]
        refine ⟨nofun, fun row hrow => ?_⟩
        obtain rfl := Option.some.inj hrow
        rw [(hI id).1 hnone]
        exact hzero
      · rw [Table.find?_insert hinsert, if_neg hid]
        exact hI id
  | advanced k nextLifecycle nextApproval updatedAt object old current he hold _ _ hs =>
    have hwins : e.2.wins = [(k, old.revision)] := congrArg LifecycleEvent.wins he
    intro id
    rw [hs, find?_advance, transitions_append, hwins]
    by_cases hid : id = k
    · subst hid
      rw [hold, Option.map_some, if_pos rfl]
      refine ⟨nofun, fun row hrow => ?_⟩
      obtain rfl := Option.some.inj hrow
      have hold' := (hI id).2 old hold
      show old.revision + 1 = _
      rw [hold', List.countP_cons_of_pos (by simp), List.countP_nil, Nat.zero_add]
    · rw [List.countP_cons_of_neg (by simpa using Ne.symm hid), List.countP_nil, Nat.add_zero]
      simp only [if_neg hid, Option.map_id']
      exact hI id
  | publication event p rows he _ hs =>
    exact hsame (congrArg LifecycleEvent.wins he) (by rw [hs])

theorem revisionsCount_run {events : List (Nat × LifecycleEvent)} {w : LifecycleWorld}
    (h : Trace LifecycleStep .initial events w) : RevisionsCount events w :=
  h.invariant_events (I := RevisionsCount) (fun _ => ⟨fun _ => rfl, nofun⟩)
    fun _ _ _ _ ht hI hstep => revisionsCount_step (pendingValid_run ht) hI hstep

/-! ## 5. No update is lost -/

/-- What the next transition of an object does, whatever client makes it: a success found the
    object at the revision presented, changes at least one status along the graphs, and writes its
    two statuses, its revision and its time of change; a failure writes nothing. -/
structure TransitionSound (w w' : LifecycleWorld) (id : String) (expected : Nat)
    (nextLifecycle : BusinessObjectStatus) (nextApproval : ApprovalStatus) (updatedAt : DateTime)
    (reply : Except DomainError BusinessObject) : Prop where
  success : ∀ object, reply = .ok object → ∃ row lifecycle approval,
    w.store.businessObjects.find? id = some row ∧ row.revision = expected ∧
    row.lifecycleStatus = lifecycle.db ∧ row.approvalStatus = approval.db ∧
    LegalTransition lifecycle nextLifecycle approval nextApproval ∧
    w'.store.businessObjects.find? id = some { row with
      lifecycleStatus := nextLifecycle.db, approvalStatus := nextApproval.db,
      revision := expected + 1, updatedAt := DateTime.toRfc3339 updatedAt }
  others : ∀ k, k ≠ id → w'.store.businessObjects.find? k = w.store.businessObjects.find? k
  tables : w'.store = w.store.setBusinessObjects w'.store.businessObjects
  failure : ∀ e, reply = .error e → w'.store = w.store

theorem transition_sound {w w' : LifecycleWorld} {n : Nat} {id : String} {expected : Nat}
    {nextLifecycle : BusinessObjectStatus} {nextApproval : ApprovalStatus} {updatedAt : DateTime}
    {reply : Except DomainError BusinessObject}
    (h : LifecycleStep w (n, .transition id expected nextLifecycle nextApproval updatedAt reply)
      w') :
    TransitionSound w w' id expected nextLifecycle nextApproval updatedAt reply := by
  cases h
  rename_i s h
  cases reply with
  | error e =>
    obtain rfl := transitionBusinessObject_error h
    exact ⟨fun _ he => absurd he (by simp), fun _ _ => rfl, rfl, fun _ _ => rfl⟩
  | ok object =>
    obtain ⟨row, current, hrow, hread, rfl, hlegal, rfl, -⟩ := transitionBusinessObject_ok h
    obtain ⟨-, -, hlifecycle, happroval⟩ := rowToBusinessObject_ok hread
    refine ⟨fun _ _ => ⟨row, current.lifecycleStatus, current.approvalStatus, hrow, rfl,
      hlifecycle, happroval, hlegal, ?_⟩, fun k hk => ?_, rfl, nofun⟩
    · show (w.store.advance _ _ _ _).businessObjects.find? id = _
      rw [find?_advance, hrow, Option.map_some, if_pos rfl]
      rfl
    · show (w.store.advance _ _ _ _).businessObjects.find? k = _
      rw [find?_advance]
      simp only [if_neg hk, Option.map_id']

/-- **No update is lost**, in any interleaving of any number of clients: of the events of a run
    from an empty database at most one wins an object at one revision; the revision of every object
    is the number of its successful transitions; whatever transition comes next is sound; and in
    every later state each object is still there, with what it was inserted with and with the
    final statuses it had reached. -/
theorem lifecycle_concurrency {events later : List (Nat × LifecycleEvent)}
    {w w' : LifecycleWorld} (h : Trace LifecycleStep .initial events w)
    (hlater : Trace LifecycleStep w later w') :
    (∀ (i j : Nat) (e₁ e₂ : Nat × LifecycleEvent) (p : String × Nat), events[i]? = some e₁ →
      events[j]? = some e₂ → p ∈ e₁.2.wins → p ∈ e₂.2.wins → i = j) ∧
    (∀ row ∈ w.store.businessObjects.rows, row.revision = transitions events row.id) ∧
    (∀ n id expected nextLifecycle nextApproval updatedAt reply w₁,
      LifecycleStep w (n, .transition id expected nextLifecycle nextApproval updatedAt reply) w₁ →
      TransitionSound w w₁ id expected nextLifecycle nextApproval updatedAt reply) ∧
    ∀ row ∈ w.store.businessObjects.rows, ∃ row' ∈ w'.store.businessObjects.rows,
      Descends row row' := by
  refine ⟨fun i j e₁ e₂ p h₁ h₂ hp₁ hp₂ => lifecycle_versioned.win_position h h₁ h₂ hp₁ hp₂,
    fun row hrow => ?_, fun _ _ _ _ _ _ _ _ hstep => transition_sound hstep, fun row hrow => ?_⟩
  · exact (revisionsCount_run h row.id).2 row (Table.find?_of_mem hrow)
  · obtain ⟨row', hrow', hdesc⟩ := lifecycleRun_descends hlater (Table.find?_of_mem hrow)
    exact ⟨row', Table.find?_mem hrow', hdesc⟩

/-! ## 6. Two clients, one stale -/

def sampleAttributes : Attributes := SortedMap.ofPairs [("colour", "red"), ("area.m2", "81")]

def sampleObject : BusinessObject where
  id := "asset-1"
  kind := "asset"
  externalId := some "A-1"
  displayName := "First asset"
  lifecycleStatus := .draft
  approvalStatus := .pending
  revision := 0
  attributes := sampleAttributes
  createdAt := sampleNow
  updatedAt := sampleNow

@[irreducible] def sampleStocked : BusinessStore :=
  (Sql.statement (LifecycleRecord.object sampleObject).insertRow
    (⟨.initial, []⟩ : Db BusinessStore)).2.store

@[irreducible] def sampleActive : BusinessStore :=
  (transitionBusinessObject "asset-1" 0 .active .approved sampleNow ⟨sampleStocked, []⟩).2.store

/-- The object after its transition. -/
def sampleActiveObject : BusinessObject :=
  { sampleObject with lifecycleStatus := .active, approvalStatus := .approved, revision := 1 }

/-- One client inserts the object; two transition it at the revision it has then. -/
def sampleLifecycle : List (Nat × LifecycleEvent) :=
  [(1, .check (.object sampleObject) (.ok ())), (1, .insert (.object sampleObject) (.ok ())),
    (2, .transition "asset-1" 0 .active .approved sampleNow (.ok sampleActiveObject)),
    (3, .transition "asset-1" 0 .archived .pending sampleNow
      (.error (.staleBusinessObjectRevision "asset-1" 0 1)))]

theorem sample_inserted :
    Sql.Runs (LifecycleRecord.object sampleObject).check .initial (.ok ()) .initial ∧
      Sql.Runs (Sql.statement (LifecycleRecord.object sampleObject).insertRow) .initial (.ok ())
        sampleStocked := by
  have hreplies :
      ((LifecycleRecord.object sampleObject).check (⟨.initial, []⟩ : Db BusinessStore)).1 =
        .ok () ∧
      (Sql.statement (LifecycleRecord.object sampleObject).insertRow
        (⟨.initial, []⟩ : Db BusinessStore)).1 = .ok () := by decide +kernel
  refine ⟨?_, ?_⟩
  · have hrun := Sql.runs_of_reply hreplies.1
    rwa [LifecycleRecord.readOnly_check _ _ _ _ hrun] at hrun
  · unfold sampleStocked
    exact Sql.runs_of_reply hreplies.2

theorem sample_transitioned :
    Sql.Runs (transitionBusinessObject "asset-1" 0 .active .approved sampleNow) sampleStocked
        (.ok sampleActiveObject) sampleActive ∧
      Sql.Runs (transitionBusinessObject "asset-1" 0 .archived .pending sampleNow) sampleActive
        (.error (.staleBusinessObjectRevision "asset-1" 0 1)) sampleActive := by
  have hreplies :
      (transitionBusinessObject "asset-1" 0 .active .approved sampleNow ⟨sampleStocked, []⟩).1 =
        .ok sampleActiveObject ∧
      (transitionBusinessObject "asset-1" 0 .archived .pending sampleNow ⟨sampleActive, []⟩).1 =
        .error (.staleBusinessObjectRevision "asset-1" 0 1) := by
    unfold sampleActive sampleStocked
    decide +kernel
  refine ⟨?_, ?_⟩
  · have hrun := Sql.runs_of_reply hreplies.1
    unfold sampleActive
    exact hrun
  · have hrun := Sql.runs_of_reply hreplies.2
    rwa [transitionBusinessObject_error hrun] at hrun

theorem sample_lifecycle : Trace LifecycleStep .initial sampleLifecycle ⟨sampleActive, [], []⟩ :=
  .cons (.checked sample_inserted.1)
    (.cons (.insert [] [] rfl sample_inserted.2)
      (.cons (.transition sample_transitioned.1)
        (.single (.transition sample_transitioned.2))))

theorem lifecycle_concurrency_sample :
    transitions sampleLifecycle "asset-1" = 1 ∧
      ∀ row ∈ sampleActive.businessObjects.rows,
        row.revision = transitions sampleLifecycle row.id :=
  ⟨by decide, (lifecycle_concurrency sample_lifecycle .nil).2.1⟩

end MatriXpost
