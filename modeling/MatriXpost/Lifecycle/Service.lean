/-
  File:      MatriXpost/Lifecycle/Service.lean
  Subject:   THE LIFECYCLE SERVICE: any number of requests to its four front ends over one
             database, each of which may crash anywhere, beside the processes of the publication
             queue.

  A request's handler calls the repository and then replies. Its calls interleave with those of the
  others in any order and under any faults.

  * `serviceCall_step`: a call of any process is a step of the register;
  * `keeps_of_shape`: what a handler writes is the operation of its request, once, and its reply is
    a true account of it (`Told`);
  * **`lifecycle_linearizable`**: every run over the store is, event by event, a run over the
    register; and every reply is such an account.
-/
import MatriXpost.Lifecycle.Handlers

namespace MatriXpost

/-! ## 1. Calls -/

/-- A call of the service: an operation of the repository, a call of the publication queue's
    processes, or a reply. -/
inductive ServiceCall where
  | business (c : BusinessCall)
  | publication (c : Call)
  | respond (a : FrontReply)

namespace ServiceCall

def Reply : ServiceCall → Type
  | business c => c.Reply
  | publication c => c.Reply
  | respond _ => Unit

/-- What a call may answer, and what it does to the database. -/
def Handles : (c : ServiceCall) → BusinessStore → c.Reply → BusinessStore → Prop
  | business c, s, reply, s' => Sql.Runs c.operation s reply s'
  | publication c, s, reply, s' =>
    ∃ p, c.Handles s.publication reply p ∧ s' = { s with publication := p }
  | respond _, s, _, s' => s' = s

/-- What a call is on a register; a publication only adds to the history. -/
def Registers : (c : ServiceCall) → Register → c.Reply → Register → Prop
  | business c, r, reply, r' => RegisterStep r c reply r'
  | publication _, r, _, r' => ∃ ids, r' = { r with history := r.history ++ ids }
  | respond _, r, _, r' => r' = r

end ServiceCall

/-- What a process has called so far. -/
abbrev ServiceLog := List (Called ServiceCall ServiceCall.Reply)

/-- What a handler has called so far. -/
abbrev HandlerLog := List (Called BusinessCall BusinessCall.Reply)

/-- A call whose times have four-digit years, if it is accepted. -/
def AcceptsYears : Called ServiceCall ServiceCall.Reply → Prop
  | ⟨.business c, reply⟩ => ∀ a, reply = .ok a → c.FourDigitYears
  | _ => True

/-- A call of a publication process only adds to the history. -/
theorem call_history {c : Call} {reply : c.Reply} {s s' : Store} (h : c.Handles s reply s') :
    ∃ rows, s'.history.rows = s.history.rows ++ rows := by
  have hsame : s' = s → ∃ rows, s'.history.rows = s.history.rows ++ rows := by
    intro he
    exact ⟨[], by rw [he, List.append_nil]⟩
  cases c with
  | allocate request now =>
    rcases reply with e | job
    · exact hsame (enqueueBegin_error h)
    · obtain ⟨-, -, rfl⟩ := enqueueBegin_ok h
      exact ⟨[], (List.append_nil _).symm⟩
  | insert job =>
    rcases reply with e | u
    · exact hsame (insertJob_error h)
    · obtain ⟨row, jobs, -, -, rfl⟩ := insertJob_ok h
      exact ⟨[], (List.append_nil _).symm⟩
  | claim l dueThrough now limit =>
    rcases reply with e | jobs
    · exact hsame (QueueTable.claim_error h)
    · obtain ⟨-, -, -, rfl⟩ := QueueTable.claim_jobs h
      refine ⟨[], ?_⟩
      rw [List.append_nil]
      exact Lane.history_raise (l := l) .video _ _ _
  | dispatch l request => exact hsame h.2
  | complete l id revision next now detail =>
    rcases reply with e | ⟨job, record⟩
    · exact hsame (Lane.complete_error h)
    · obtain ⟨-, -, ⟨row, -, hrow⟩, hothers⟩ := Lane.complete_ok h
      cases l with
      | video => exact ⟨[row], hrow⟩
      | article =>
        refine ⟨[], ?_⟩
        rw [List.append_nil]
        exact (hothers .video (by decide)).2
  | requeue l id revision now =>
    rcases reply with e | job
    · exact hsame (Sql.runs_transaction_error h)
    · obtain ⟨row, current, -, -, -, -, rfl, -⟩ := QueueTable.requeue_ok h
      refine ⟨[], ?_⟩
      rw [List.append_nil]
      exact Lane.history_raise (l := l) .video _ _ _
  | recordDispatch request report now =>
    rcases reply with e | record
    · exact hsame (Sql.runs_transaction_error h)
    · obtain ⟨rowid, row, history, -, -, hinsert, rfl⟩ := recordProviderDispatchHistory_ok h
      exact ⟨[row], (Table.insert_eq_some hinsert).2⟩
  | execute platform request => exact hsame h

/-- **A call of any process is a step of the register**, which the store goes on to hold. -/
theorem serviceCall_step (c : ServiceCall) (s : BusinessStore) (r : Register) (reply : c.Reply)
    (s' : BusinessStore) (hyears : AcceptsYears ⟨c, reply⟩) (h : HoldsRegister s r)
    (hdo : c.Handles s reply s') : ∃ r', c.Registers r reply r' ∧ HoldsRegister s' r' := by
  cases c with
  | business c => exact call_step h hdo hyears
  | publication c =>
    obtain ⟨p, hp, rfl⟩ := hdo
    obtain ⟨rows, hrows⟩ := call_history hp
    refine ⟨_, ⟨rows.map (·.id), rfl⟩, ⟨h.rows.objects, h.rows.entries, h.rows.attributions,
      h.rows.relations⟩, ?_, h.years⟩
    change p.history.rows.map (·.id) = _
    rw [hrows, List.map_append, h.history]
  | respond a =>
    obtain rfl := hdo
    exact ⟨r, rfl, h⟩

/-! ## 2. A true account -/

namespace BusinessCall

def isWrite : BusinessCall → Bool
  | insert _ | transition _ _ _ _ _ => true
  | _ => false

/-- The call was a write, and was accepted. -/
def wrote : (c : BusinessCall) → c.Reply → Bool
  | insert _, .ok _ | transition _ _ _ _ _, .ok _ => true
  | _, _ => false

theorem wrote_error (c : BusinessCall) (e : DomainError) : c.wrote (.error e) = false := by
  cases c <;> rfl

theorem wrote_of_read {c : BusinessCall} (h : c.isWrite = false) (reply : c.Reply) :
    c.wrote reply = false := by
  cases c with
  | insert record => cases h
  | transition id expected nextLifecycle nextApproval updatedAt => cases h
  | check record | object id | objects | ledgerEntries id | contentAttributions id
  | businessRelations id => rfl

/-- What a front end has no reply for is no write. -/
theorem wrote_of_hidden {f : FrontEnd} {c : BusinessCall} {v : c.Value}
    (h : f.present c v = none) : c.wrote (.ok v) = false := by
  cases c with
  | insert record => cases h
  | transition id expected nextLifecycle nextApproval updatedAt => cases h
  | check record | object id | objects | ledgerEntries id | contentAttributions id
  | businessRelations id => rfl

end BusinessCall

/-- Nothing in the log was written. -/
def Unwritten (log : HandlerLog) : Prop := ∀ e ∈ log, e.call.wrote e.reply = false

theorem unwritten_append {log : HandlerLog} {e : Called BusinessCall BusinessCall.Reply}
    (h : Unwritten log) (he : e.call.wrote e.reply = false) : Unwritten (log ++ [e]) := by
  intro e' he'
  rcases List.mem_append.mp he' with he' | he'
  · exact h e' he'
  · rw [List.mem_singleton.mp he']
    exact he

/-- The reply is a true account of the log: a success shows what the operation of the request has
    answered, and without success nothing was written. -/
structure Told (f : FrontEnd) (intent : Option BusinessCall) (log : HandlerLog) (a : FrontReply) :
    Prop where
  done : a.success = true →
    ∃ c v, intent = some c ∧ ⟨c, .ok v⟩ ∈ log ∧ f.present c v = some a
  undone : a.success = false → Unwritten log

/-- What a handler may call after its log: a write only of its operation, and only once. -/
def MayCall (intent : Option BusinessCall) (log : HandlerLog) (c : BusinessCall) : Prop :=
  c.isWrite = true → intent = some c ∧ Unwritten log

section Shape
variable {α : Type} {f : FrontEnd} {wrap : α → FrontReply} {intent : Option BusinessCall}
  {log : HandlerLog}

/-- A refusal, when nothing was written. -/
theorem told_refused {a : FrontReply} (h : a.success = false) (hlog : Unwritten log) :
    Told f intent log a := by
  refine ⟨fun hs => ?_, fun _ => hlog⟩
  rw [h] at hs
  cases hs

/-- What follows the answer of the operation tells it. -/
theorem keeps_presents {c : BusinessCall} {k : c.Reply → Handler α} (hk : Presents f wrap c k)
    (hintent : intent = some c) (hlog : Unwritten log) (reply : c.Reply) :
    (k reply).Keeps (fun _ => True) (MayCall intent)
      (fun log a => Told f intent log (wrap a)) (log ++ [⟨c, reply⟩]) := by
  cases reply with
  | error e =>
    obtain ⟨a, ha, hfail⟩ := hk.failed e
    rw [ha]
    exact told_refused hfail (unwritten_append hlog (c.wrote_error e))
  | ok v =>
    cases hv : f.present c v with
    | none =>
      obtain ⟨a, ha, hfail⟩ := hk.hidden v hv
      rw [ha]
      exact told_refused hfail (unwritten_append hlog (BusinessCall.wrote_of_hidden hv))
    | some shown =>
      obtain ⟨a, ha, rfl⟩ := hk.shown v shown hv
      rw [ha]
      refine ⟨fun _ => ⟨c, v, hintent, by simp, hv⟩, fun hfail => ?_⟩
      rw [FrontEnd.present_success hv] at hfail
      cases hfail

/-- **A handler of the shape writes its operation at most once and replies with a true account.** -/
theorem keeps_of_shape {p : Handler α} (h : HandlerShape f wrap intent p) (hlog : Unwritten log) :
    p.Keeps (fun _ => True) (MayCall intent) (fun log a => Told f intent log (wrap a)) log := by
  induction h generalizing log with
  | refused a ha _ => exact told_refused ha hlog
  | operation c k hintent _ hk =>
    exact ⟨fun _ => ⟨hintent, hlog⟩, fun reply _ => keeps_presents hk hintent hlog reply⟩
  | insert record k hintent hk =>
    have hchecked : ∀ reply : (BusinessCall.check record).Reply,
        Unwritten (log ++ [⟨.check record, reply⟩]) :=
      fun reply => unwritten_append hlog (BusinessCall.wrote_of_read rfl reply)
    refine keeps_bind ⟨nofun, fun reply _ => ?_⟩
    cases reply with
    | error e =>
      obtain ⟨a, ha, hfail⟩ := hk.failed e
      change (k (.error e)).Keeps _ _ _ _
      rw [ha]
      exact told_refused hfail (hchecked (.error e))
    | ok u =>
      exact ⟨fun _ => ⟨hintent, hchecked (.ok u)⟩,
        fun reply _ => keeps_presents hk hintent (hchecked (.ok u)) reply⟩
  | required id rest k hrest hnone herror _ _ ih =>
    have hread : ∀ reply : (BusinessCall.object id).Reply,
        Unwritten (log ++ [⟨.object id, reply⟩]) :=
      fun reply => unwritten_append hlog (BusinessCall.wrote_of_read rfl reply)
    refine ⟨nofun, fun reply _ => ?_⟩
    rcases reply with e | (_ | o)
    · obtain ⟨a, ha, hfail⟩ := herror e
      change (k (.error e)).Keeps _ _ _ _
      rw [ha]
      exact told_refused hfail (hread _)
    · obtain ⟨a, ha, hfail⟩ := hnone
      change (k (.ok none)).Keeps _ _ _ _
      rw [ha]
      exact told_refused hfail (hread _)
    · change (k (.ok (some o))).Keeps _ _ _ _
      rw [hrest o]
      exact ih (hread _)

end Shape

/-- **Every request writes its operation at most once and is told the truth.** -/
theorem keeps_handler (readTime : String → Option DateTime) (q : FrontRequest) :
    (q.handler readTime).Keeps (fun _ => True) (MayCall (q.intent readTime))
      (fun log a => Told q.front (q.intent readTime) log a) [] := by
  have hnew : Unwritten [] := fun e he => absurd he List.not_mem_nil
  cases q with
  | api request => exact keeps_bind (keeps_of_shape (api_shape readTime request) hnew)
  | cli command now => exact keeps_bind (keeps_of_shape (cli_shape command now) hnew)
  | mcp request now =>
    refine keeps_bind (keeps_bind ?_)
    refine keeps_mono (keeps_of_shape (mcp_shape request now) hnew) fun log result h => ?_
    cases result with
    | ok value => exact h
    | error e => exact h
  | desktop request now => exact keeps_bind (keeps_of_shape (desktop_shape request now) hnew)

/-! ## 3. The service -/

/-- The handler, and then its reply. -/
def Handler.respond : Handler FrontReply → Prog ServiceCall ServiceCall.Reply Unit
  | Prog.ret a => .call (.respond a) fun _ => .ret ()
  | Prog.call c k => .call (.business c) fun reply => respond (k reply)

/-- What a process is started for: a request, or a call of the publication queue. -/
inductive ServiceOrigin where
  | request (q : FrontRequest)
  | publication (c : Call)

section Program
variable (readTime : String → Option DateTime)

def ServiceOrigin.program : ServiceOrigin → Prog ServiceCall ServiceCall.Reply Unit
  | request q => (q.handler readTime).respond
  | publication c => .call (.publication c) fun _ => .ret ()

end Program

/-- The operations in a log. -/
def businessLog : ServiceLog → HandlerLog
  | [] => []
  | ⟨.business c, reply⟩ :: rest => ⟨c, reply⟩ :: businessLog rest
  | _ :: rest => businessLog rest

theorem businessLog_append (a b : ServiceLog) :
    businessLog (a ++ b) = businessLog a ++ businessLog b := by
  induction a with
  | nil => rfl
  | cons e rest ih =>
    obtain ⟨c, reply⟩ := e
    cases c with
    | business c => exact congrArg (⟨c, reply⟩ :: ·) ih
    | publication c => exact ih
    | respond a => exact ih

/-- What a process may call: a request's handler a write of its operation, once, and at its end a
    reply that is a true account. -/
def ServiceOrigin.Permits (readTime : String → Option DateTime) (origin : ServiceOrigin)
    (log : ServiceLog) (c : ServiceCall) : Prop :=
  match origin, c with
  | request q, .business c => MayCall (q.intent readTime) (businessLog log) c
  | request q, .respond a => Told q.front (q.intent readTime) (businessLog log) a
  | request _, .publication _ => False
  | publication c, c' => c' = .publication c

/-- A handler that keeps to its account keeps to it in the service. -/
theorem keeps_respond {readTime : String → Option DateTime} {q : FrontRequest}
    {p : Handler FrontReply} {log : ServiceLog}
    (h : p.Keeps (fun _ => True) (MayCall (q.intent readTime))
      (fun log a => Told q.front (q.intent readTime) log a) (businessLog log)) :
    p.respond.Keeps (fun _ => True) ((ServiceOrigin.request q).Permits readTime)
      (fun _ _ => True) log := by
  induction p generalizing log with
  | ret a => exact ⟨h, fun _ _ => trivial⟩
  | call c k ih =>
    refine ⟨h.1, fun reply _ => ih reply ?_⟩
    rw [businessLog_append]
    exact h.2 reply trivial

theorem keeps_service (readTime : String → Option DateTime) (origin : ServiceOrigin) :
    (origin.program readTime).Keeps (fun _ => True) (origin.Permits readTime)
      (fun _ _ => True) [] := by
  cases origin with
  | request q => exact keeps_respond (keeps_handler readTime q)
  | publication c => exact ⟨rfl, fun _ _ => trivial⟩

/-- Every call of an event is one its process may make. -/
def Accountable (readTime : String → Option DateTime) :
    PoolEvent ServiceOrigin ServiceCall ServiceCall.Reply → Prop
  | .called origin log c => origin.Permits readTime log c.call
  | _ => True

/-- **Every call of a run is one its process may make.** -/
theorem run_accountable {readTime : String → Option DateTime}
    {events : List (PoolEvent ServiceOrigin ServiceCall ServiceCall.Reply)}
    {w : Pool ServiceOrigin ServiceCall ServiceCall.Reply BusinessStore}
    (h : Trace (PoolStep (ServiceOrigin.program readTime) ServiceCall.Handles) ⟨.initial, []⟩
      events w)
    {e : PoolEvent ServiceOrigin ServiceCall ServiceCall.Reply} (he : e ∈ events) :
    Accountable readTime e := by
  obtain ⟨before, after, rfl⟩ := List.append_of_mem he
  obtain ⟨w₁, w₂, hbefore, hstep, -⟩ := h.at_event
  have hkeeps : w₁.Keeps (fun _ => True) (ServiceOrigin.Permits readTime) fun _ _ => True := by
    refine hbefore.invariant (I := fun w => w.Keeps (fun _ => True)
      (ServiceOrigin.Permits readTime) fun _ _ => True) (fun p hp => absurd hp List.not_mem_nil) ?_
    intro w e w' hI hs
    refine pool_keeps_step hI hs ?_ ?_
    · cases e <;> trivial
    · cases e with
      | started origin => exact keeps_service readTime origin
      | called origin log c => trivial
      | ended origin log => trivial
      | crashed origin log => trivial
  cases e with
  | called origin log c => exact pool_permitted hkeeps hstep
  | started origin => trivial
  | ended origin log => trivial
  | crashed origin log => trivial

/-- **Every run of the service over the store is a run of the service over the register**, with the
    same processes, calls and replies: each operation takes place at one moment of its request, and
    is answered by what the register holds at that moment, or with the message of a fault and
    without effect. And what a request writes is its operation, at most once, and its reply tells
    the truth: a success shows what the operation has answered, and without success nothing was
    written. -/
theorem lifecycle_linearizable {readTime : String → Option DateTime}
    {events : List (PoolEvent ServiceOrigin ServiceCall ServiceCall.Reply)}
    {w : Pool ServiceOrigin ServiceCall ServiceCall.Reply BusinessStore}
    (h : Trace (PoolStep (ServiceOrigin.program readTime) ServiceCall.Handles) ⟨.initial, []⟩
      events w)
    (hyears : ∀ e ∈ events, e.Follows AcceptsYears) :
    (∃ r, Trace (PoolStep (ServiceOrigin.program readTime) ServiceCall.Registers) ⟨.empty, []⟩
        events ⟨r, w.processes⟩ ∧ HoldsRegister w.state r) ∧
      ∀ e ∈ events, Accountable readTime e :=
  ⟨pool_simulates (fun c s r reply s' => serviceCall_step c s r reply s') h hyears held_initial,
    fun _ he => run_accountable h he⟩

/-- The request that creates the sample object on the desktop. -/
def sampleCreation : ServiceOrigin :=
  .request (.desktop (.createLifecycleObject sampleDraft) sampleNow)

/-- A run of this request from its start to its end. -/
def sampleServed : List (PoolEvent ServiceOrigin ServiceCall ServiceCall.Reply) :=
  let record := LifecycleRecord.object (sampleDraft.object sampleNow)
  let checked : Called ServiceCall ServiceCall.Reply := ⟨.business (.check record), .ok ()⟩
  let inserted : Called ServiceCall ServiceCall.Reply := ⟨.business (.insert record), .ok ()⟩
  let replied : Called ServiceCall ServiceCall.Reply :=
    ⟨.respond (.desktop (.ok (Desktop.objectEntry (sampleDraft.object sampleNow)))), ()⟩
  [.started sampleCreation, .called sampleCreation [] checked,
    .called sampleCreation [checked] inserted, .called sampleCreation [checked, inserted] replied,
    .ended sampleCreation [checked, inserted, replied]]

theorem lifecycle_linearizable_sample :
    ∃ w, Trace (PoolStep (ServiceOrigin.program fun _ => none) ServiceCall.Handles)
        ⟨.initial, []⟩ sampleServed w ∧
      (∃ r, Trace (PoolStep (ServiceOrigin.program fun _ => none) ServiceCall.Registers)
        ⟨.empty, []⟩ sampleServed ⟨r, w.processes⟩ ∧ HoldsRegister w.state r) ∧
      ∀ e ∈ sampleServed, Accountable (fun _ => none) e := by
  have hnow : NaiveDateTime.FourDigitYear sampleNow := by decide
  obtain ⟨s, hchecked, -⟩ := call_exact held_initial
    (.check (.object (sampleDraft.object sampleNow)))
  obtain rfl : s = .initial := LifecycleRecord.readOnly_check
    (.object (sampleDraft.object sampleNow)) _ _ _ hchecked.runs
  obtain ⟨s', hinserted, -⟩ := call_exact held_initial
    (.insert (.object (sampleDraft.object sampleNow)))
  have hrun : Trace (PoolStep (ServiceOrigin.program fun _ => none) ServiceCall.Handles)
      ⟨.initial, []⟩ sampleServed ⟨s', []⟩ := by
    refine .cons (.started sampleCreation) (.cons (poolStep_called hchecked.runs rfl)
      (.cons (poolStep_called hinserted.runs rfl) (.cons (poolStep_called ?_ rfl)
        (.cons (.ended [] []) .nil))))
    exact rfl
  refine ⟨_, hrun, lifecycle_linearizable hrun fun e he => ?_⟩
  simp only [sampleServed, List.mem_cons, List.not_mem_nil, or_false] at he
  rcases he with rfl | rfl | rfl | rfl | rfl
  · trivial
  · exact fun _ _ => trivial
  · exact fun _ _ => ⟨hnow, hnow⟩
  · trivial
  · trivial

end MatriXpost
