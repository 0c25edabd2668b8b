/-
  File:      MatriXpost/Lifecycle/Documents.lean
  Subject:   WHAT A CLIENT READS OUT OF A REPLY, over every run of the lifecycle service.

  The daemon, the CLI and the MCP server answer with the JSON documents of the records themselves.
  A record that was accepted may be shown much later, to another client and by another front end,
  and after any number of transitions.

  * `registerStep_writable`: a register of records that can be written out answers with such
    records only, and stays one. A transition keeps the revision within its width;
  * `pool_answered`: so in every run each process has been answered with such records;
  * **`documents_read_back`**: the document of every successful reply decodes to exactly the value
    the repository has answered the request's operation with.
-/
import MatriXpost.Lifecycle.Service

namespace MatriXpost

open Json

/-! ## 1. The records of an answer -/

/-- The record is among the accepted ones. -/
def Accepted.Holds (a : Accepted) : LifecycleRecord → Prop
  | .object o => o ∈ a.objects
  | .ledgerEntry e => e ∈ a.entries
  | .attribution t => t ∈ a.attributions
  | .relation b => b ∈ a.relations

/-- The records an answer is made of; the answer to an insert is shown as what was inserted. -/
def BusinessCall.records : (c : BusinessCall) → c.Value → List LifecycleRecord
  | check _, _ => []
  | insert record, _ => [record]
  | transition _ _ _ _ _, o => [.object o]
  | object _, found => found.toList.map fun o => .object o
  | objects, found => found.map fun o => .object o
  | ledgerEntries _, entries => entries.map fun e => .ledgerEntry e
  | contentAttributions _, attributions => attributions.map fun a => .attribution a
  | businessRelations _, relations => relations.map fun b => .relation b

/-- All records of an answer can be written out. -/
def AnswersWritable : Called BusinessCall BusinessCall.Reply → Prop
  | ⟨c, .ok v⟩ => ∀ record ∈ c.records v, record.Writable
  | ⟨_, .error _⟩ => True

/-- What is accepted can be written out: a record inserted, the time of a transition. -/
def AcceptsWritable : Called ServiceCall ServiceCall.Reply → Prop
  | ⟨.business (.insert record), .ok _⟩ => record.Writable
  | ⟨.business (.transition _ _ _ _ updatedAt), .ok _⟩ => updatedAt.FourDigitYear
  | _ => True

theorem AcceptsWritable.years {c : Called ServiceCall ServiceCall.Reply} (h : AcceptsWritable c) :
    AcceptsYears c := by
  obtain ⟨c, reply⟩ := c
  cases c with
  | business c =>
    intro v hv
    subst hv
    cases c with
    | insert record => exact h.1
    | transition id expected nextLifecycle nextApproval updatedAt => exact h
    | check record | object id | objects | ledgerEntries id | contentAttributions id
    | businessRelations id => trivial
  | publication c => trivial
  | respond a => trivial

namespace Register
variable {r r' : Register}

/-- Every record of the register can be written out. -/
def Writable (r : Register) : Prop := ∀ record, r.accepted.Holds record → record.Writable

theorem writable_empty : Register.empty.Writable := by
  intro record h
  cases record with
  | object o | ledgerEntry e | attribution t | relation b => exact absurd h List.not_mem_nil

theorem writable_add {record : LifecycleRecord} (h : r.Writable) (hrecord : record.Writable) :
    (r.add record).Writable := by
  have hnew : ∀ other, (r.add record).accepted.Holds other →
      r.accepted.Holds other ∨ other = record := by
    intro other hother
    cases record with
    | object o | ledgerEntry e | attribution t | relation b =>
      cases other with
      | object o' | ledgerEntry e' | attribution t' | relation b' =>
        first
          | exact .inl hother
          | simpa [Register.add, Accepted.add, Accepted.Holds] using hother
  intro other hother
  rcases hnew other hother with hold | rfl
  · exact h other hold
  · exact hrecord

theorem writable_set {object : BusinessObject} (h : r.Writable)
    (hobject : (LifecycleRecord.object object).Writable) : (r.set object).Writable := by
  intro other hother
  cases other with
  | object o =>
    obtain ⟨o', ho', he⟩ := List.mem_map.mp hother
    by_cases hid : o'.id = object.id
    · rw [if_pos hid] at he
      exact he ▸ hobject
    · rw [if_neg hid] at he
      exact he ▸ h (.object o') ho'
  | ledgerEntry e | attribution t | relation b => exact h _ hother

/-- The object a transition answers. -/
theorem writable_transition {id : String} {expected : Nat} {nextLifecycle : BusinessObjectStatus}
    {nextApproval : ApprovalStatus} {updatedAt : DateTime} {object : BusinessObject}
    (h : r.Writable) (hyear : updatedAt.FourDigitYear)
    (hok : r.transition id expected nextLifecycle nextApproval updatedAt = .ok object) :
    (LifecycleRecord.object object).Writable := by
  unfold Register.transition at hok
  cases hcurrent : r.object? id with
  | none =>
    rw [hcurrent] at hok
    cases hok
  | some current =>
    rw [hcurrent] at hok
    have hheld : r.accepted.Holds (.object current) := List.mem_of_find?_eq_some hcurrent
    have hcreated : current.createdAt.FourDigitYear := (h _ hheld).1.1
    obtain ⟨-, -, hok⟩ := except_bind_ok.mp hok
    obtain ⟨revision, hrevision, hok⟩ := except_bind_ok.mp hok
    have hwidth : revision ≤ u64Max := by
      unfold nextRevision at hrevision
      split at hrevision
      · cases hrevision
      · split at hrevision
        · cases hrevision
        · cases hrevision
          omega
    cases hok
    exact ⟨⟨hcreated, hyear⟩, hwidth⟩

/-- A listing is made of records of the register. -/
theorem listing_mem {α κ : Type} [LinearOrder κ] {id : String} {p : α → Bool} {key : α → κ}
    {rows found : List α}
    (h : (do r.requireObject id; Except.ok (orderBy p key rows) : Except DomainError (List α)) =
      .ok found) : ∀ a ∈ found, a ∈ rows := by
  obtain ⟨-, -, hok⟩ := except_bind_ok.mp h
  cases hok
  intro a ha
  exact (List.mem_filter.mp ((orderBy_perm p key rows).mem_iff.mp ha)).1

/-- **A read answers with records of the register.** -/
theorem records_held {c : BusinessCall} {v : c.Value} (hread : c.isWrite = false)
    (h : r.reply c = .ok v) : ∀ record ∈ c.records v, r.accepted.Holds record := by
  intro record hrecord
  cases c with
  | insert record => cases hread
  | transition id expected nextLifecycle nextApproval updatedAt => cases hread
  | check record => exact absurd hrecord List.not_mem_nil
  | object id =>
    cases h
    obtain ⟨o, ho, rfl⟩ := List.mem_map.mp hrecord
    exact List.mem_of_find?_eq_some (Option.mem_toList.mp ho)
  | objects =>
    cases h
    obtain ⟨o, ho, rfl⟩ := List.mem_map.mp hrecord
    exact (List.mem_filter.mp ((orderBy_perm _ _ _).mem_iff.mp ho)).1
  | ledgerEntries id | contentAttributions id | businessRelations id =>
    obtain ⟨a, ha, rfl⟩ := List.mem_map.mp hrecord
    exact listing_mem h a ha

end Register

/-- **What a register of such records answers can be written out, and so it stays.** -/
theorem registerStep_writable {r r' : Register} {c : BusinessCall} {reply : c.Reply}
    (h : r.Writable) (hstep : RegisterStep r c reply r')
    (haccepts : AcceptsWritable ⟨.business c, reply⟩) :
    r'.Writable ∧ AnswersWritable ⟨c, reply⟩ := by
  cases hstep with
  | failed message => exact ⟨h, trivial⟩
  | answered =>
    cases hreply : r.reply c with
    | error e =>
      have hanswer : r.answer c = (.error e, r) := by
        rw [Register.answer, hreply, Register.after_error]
      rw [hanswer]
      exact ⟨h, trivial⟩
    | ok v =>
      have hanswer : r.answer c = (.ok v, r.after c (.ok v)) := by rw [Register.answer, hreply]
      rw [hanswer] at haccepts ⊢
      cases c with
      | insert record =>
        refine ⟨Register.writable_add h haccepts, fun other hother => ?_⟩
        rw [List.mem_singleton.mp hother]
        exact haccepts
      | transition id expected nextLifecycle nextApproval updatedAt =>
        have hobject := Register.writable_transition h haccepts hreply
        refine ⟨Register.writable_set h hobject, fun other hother => ?_⟩
        rw [List.mem_singleton.mp hother]
        exact hobject
      | check record | object id | objects | ledgerEntries id | contentAttributions id
      | businessRelations id =>
        have hheld := Register.records_held rfl hreply
        exact ⟨h, fun record hrecord => h record (hheld record hrecord)⟩

/-! ## 2. Over a run -/

/-- The register and what every process has been answered can be written out. -/
structure PoolWritable (w : Pool ServiceOrigin ServiceCall ServiceCall.Reply Register) : Prop where
  state : w.state.Writable
  answered : ∀ p ∈ w.processes, ∀ e ∈ businessLog p.log, AnswersWritable e

/-- One call of the service. -/
theorem registers_writable {r r' : Register} {c : ServiceCall} {reply : c.Reply}
    (h : r.Writable) (hdo : c.Registers r reply r') (haccepts : AcceptsWritable ⟨c, reply⟩) :
    r'.Writable ∧ ∀ e ∈ businessLog [⟨c, reply⟩], AnswersWritable e := by
  cases c with
  | business c =>
    obtain ⟨hnext, hanswer⟩ := registerStep_writable h hdo haccepts
    refine ⟨hnext, fun e he => ?_⟩
    rw [List.mem_singleton.mp he]
    exact hanswer
  | publication c =>
    obtain ⟨ids, rfl⟩ := hdo
    exact ⟨h, fun e he => absurd he List.not_mem_nil⟩
  | respond a =>
    obtain rfl := hdo
    exact ⟨h, fun e he => absurd he List.not_mem_nil⟩

theorem poolWritable_step {program : ServiceOrigin → Prog ServiceCall ServiceCall.Reply Unit}
    {w w' : Pool ServiceOrigin ServiceCall ServiceCall.Reply Register}
    {e : PoolEvent ServiceOrigin ServiceCall ServiceCall.Reply} (h : PoolWritable w)
    (haccepts : e.Follows AcceptsWritable)
    (hstep : PoolStep program ServiceCall.Registers w e w') : PoolWritable w' := by
  cases hstep with
  | started origin =>
    refine ⟨h.state, fun p hp => ?_⟩
    rcases List.mem_cons.mp hp with rfl | hp
    · exact fun e he => absurd he List.not_mem_nil
    · exact h.answered p hp
  | @called origin log c k reply r r' before after hdo =>
    obtain ⟨hnext, hanswer⟩ := registers_writable h.state hdo haccepts
    have hold := h.answered ⟨origin, log, .call c k⟩ (by simp)
    refine ⟨hnext, fun p hp => ?_⟩
    rw [List.mem_append, List.mem_cons] at hp
    rcases hp with hp | rfl | hp
    · exact h.answered p (by simp [hp])
    · intro e he
      change e ∈ businessLog (log ++ [⟨c, reply⟩]) at he
      rw [businessLog_append] at he
      rcases List.mem_append.mp he with he | he
      · exact hold e he
      · exact hanswer e he
    · exact h.answered p (by simp [hp])
  | ended before after =>
    exact ⟨h.state, fun p hp => h.answered p (mem_of_mem_without hp)⟩
  | crashed before after =>
    exact ⟨h.state, fun p hp => h.answered p (mem_of_mem_without hp)⟩

/-- **Before every call of a run, its process has been answered with such records only.** -/
theorem pool_answered {program : ServiceOrigin → Prog ServiceCall ServiceCall.Reply Unit}
    {events : List (PoolEvent ServiceOrigin ServiceCall ServiceCall.Reply)}
    {w : Pool ServiceOrigin ServiceCall ServiceCall.Reply BusinessStore}
    (h : Trace (PoolStep program ServiceCall.Handles) ⟨.initial, []⟩ events w)
    (haccepts : ∀ e ∈ events, e.Follows AcceptsWritable) {origin : ServiceOrigin}
    {log : ServiceLog} {c : Called ServiceCall ServiceCall.Reply}
    (he : .called origin log c ∈ events) : ∀ e ∈ businessLog log, AnswersWritable e := by
  have hyears : ∀ e ∈ events, e.Follows AcceptsYears := by
    intro e he
    have haccept := haccepts e he
    cases e with
    | called origin log c => exact AcceptsWritable.years haccept
    | started origin | ended origin log | crashed origin log => trivial
  obtain ⟨r, hrun, -⟩ := pool_simulates (fun c s r reply s' => serviceCall_step c s r reply s') h
    hyears held_initial
  obtain ⟨before, after, rfl⟩ := List.append_of_mem he
  obtain ⟨w₁, w₂, hbefore, hstep, -⟩ := hrun.at_event
  have hI : PoolWritable w₁ := by
    refine hbefore.invariant_on (P := fun e => e.Follows AcceptsWritable)
      (fun e he => haccepts e (List.mem_append_left _ he))
      ⟨Register.writable_empty, fun p hp => absurd hp List.not_mem_nil⟩ ?_
    exact fun _ _ _ haccept hI hs => poolWritable_step hI haccept hs
  cases hstep with
  | @called _ _ c k reply r r' before' after' hdo =>
    exact hI.answered ⟨origin, log, .call c k⟩ (by simp)

/-! ## 3. Documents -/

section Shows
variable (readTime : String → Option DateTime)

/-- The document reads back as what the operation has answered. -/
def Shows : (c : BusinessCall) → c.Value → Json → Prop
  | .check _, _, _ => False
  | .insert (.object o), _, document => BusinessObject.decode readTime document = .ok o
  | .insert (.ledgerEntry e), _, document => LedgerEntry.decode readTime document = .ok e
  | .insert (.attribution a), _, document => ContentAttribution.decode readTime document = .ok a
  | .insert (.relation b), _, document => BusinessRelation.decode readTime document = .ok b
  | .transition _ _ _ _ _, o, document => BusinessObject.decode readTime document = .ok o
  | .object _, found, document =>
    ∃ o, found = some o ∧ BusinessObject.decode readTime document = .ok o
  | .objects, found, document => asList (BusinessObject.decode readTime) document = .ok found
  | .ledgerEntries _, entries, document =>
    asList (LedgerEntry.decode readTime) document = .ok entries
  | .contentAttributions _, attributions, document =>
    asList (ContentAttribution.decode readTime) document = .ok attributions
  | .businessRelations _, relations, document =>
    asList (BusinessRelation.decode readTime) document = .ok relations

end Shows

/-- **The document of an answer that can be written out reads back as the answer.** -/
theorem document_shows {readTime : String → Option DateTime} (hreads : ReadsRfc3339 readTime)
    {f : FrontEnd} (hf : f ≠ .desktop) {c : BusinessCall} {v : c.Value}
    (hv : ∀ record ∈ c.records v, record.Writable) {document : Json}
    (h : f.document c v = some document) : Shows readTime c v document := by
  have hobject : ∀ o, (LifecycleRecord.object o).Writable →
      BusinessObject.decode readTime (f.record (.object o)) = .ok o := by
    intro o ho
    rw [FrontEnd.record, if_neg hf]
    exact BusinessObject.decode_toJson hreads ho
  have hentry : ∀ e, (LifecycleRecord.ledgerEntry e).Writable →
      LedgerEntry.decode readTime (f.record (.ledgerEntry e)) = .ok e := by
    intro e he
    rw [FrontEnd.record, if_neg hf]
    exact LedgerEntry.decode_toJson hreads he
  have hattribution : ∀ a, (LifecycleRecord.attribution a).Writable →
      ContentAttribution.decode readTime (f.record (.attribution a)) = .ok a := by
    intro a ha
    rw [FrontEnd.record, if_neg hf]
    exact ContentAttribution.decode_toJson hreads ha
  have hrelation : ∀ b, (LifecycleRecord.relation b).Writable →
      BusinessRelation.decode readTime (f.record (.relation b)) = .ok b := by
    intro b hb
    rw [FrontEnd.record, if_neg hf]
    exact BusinessRelation.decode_toJson hreads hb
  cases c with
  | check record => cases h
  | insert record =>
    cases h
    have hrecord := hv record (List.mem_singleton.mpr rfl)
    cases record with
    | object o => exact hobject o hrecord
    | ledgerEntry e => exact hentry e hrecord
    | attribution a => exact hattribution a hrecord
    | relation b => exact hrelation b hrecord
  | transition id expected nextLifecycle nextApproval updatedAt =>
    cases h
    exact hobject v (hv _ (List.mem_singleton.mpr rfl))
  | object id =>
    obtain ⟨o, rfl, rfl⟩ := Option.map_eq_some_iff.mp h
    exact ⟨o, rfl, hobject o (hv _ (List.mem_singleton.mpr rfl))⟩
  | objects =>
    cases h
    exact asList_map fun o ho => hobject o (hv _ (List.mem_map_of_mem ho))
  | ledgerEntries id =>
    cases h
    exact asList_map fun e he => hentry e (hv _ (List.mem_map_of_mem he))
  | contentAttributions id =>
    cases h
    exact asList_map fun a ha => hattribution a (hv _ (List.mem_map_of_mem ha))
  | businessRelations id =>
    cases h
    exact asList_map fun b hb => hrelation b (hv _ (List.mem_map_of_mem hb))

/-- **What every client is shown reads back as what the repository has answered**, in every run in
    which what is accepted can be written out: where the daemon, the CLI or the MCP server answers
    a request with success, the document of the reply decodes to exactly the value its operation
    was answered with, however long ago and through whichever front end the records were written,
    and however often they have changed since. -/
theorem documents_read_back {readTime : String → Option DateTime}
    (hreads : ReadsRfc3339 readTime)
    {events : List (PoolEvent ServiceOrigin ServiceCall ServiceCall.Reply)}
    {w : Pool ServiceOrigin ServiceCall ServiceCall.Reply BusinessStore}
    (h : Trace (PoolStep (ServiceOrigin.program readTime) ServiceCall.Handles) ⟨.initial, []⟩
      events w)
    (haccepts : ∀ e ∈ events, e.Follows AcceptsWritable) {q : FrontRequest} {log : ServiceLog}
    {a : FrontReply} (he : .called (.request q) log ⟨.respond a, ()⟩ ∈ events)
    (hok : a.success = true) (hfront : q.front ≠ .desktop) :
    ∃ c v document, q.intent readTime = some c ∧ ⟨c, .ok v⟩ ∈ businessLog log ∧
      a = q.front.reply c document ∧ Shows readTime c v document := by
  have htold : Told q.front (q.intent readTime) (businessLog log) a := run_accountable h he
  obtain ⟨c, v, hintent, hanswered, hpresent⟩ := htold.done hok
  obtain ⟨document, hdocument, rfl⟩ := Option.map_eq_some_iff.mp hpresent
  have hwritable : AnswersWritable ⟨c, .ok v⟩ := pool_answered h haccepts he _ hanswered
  exact ⟨c, v, document, hintent, hanswered, rfl,
    document_shows hreads hfront hwritable hdocument⟩

/-- Another client asks the MCP server for the sample object. -/
def sampleQuestion : FrontRequest := .mcp (.getBusinessObject "object-1") sampleNow

/-- What it has called when it replies. -/
def sampleFound : ServiceLog :=
  [⟨.business (.object "object-1"), .ok (some (sampleDraft.object sampleNow))⟩]

/-- The reply. -/
def sampleShown : FrontReply := .mcp (structured (sampleDraft.object sampleNow).toJson)

/-- The sample object is created on the desktop, and then read. -/
def sampleReadBack : List (PoolEvent ServiceOrigin ServiceCall ServiceCall.Reply) :=
  sampleServed ++ [.started (.request sampleQuestion),
    .called (.request sampleQuestion) []
      ⟨.business (.object "object-1"), .ok (some (sampleDraft.object sampleNow))⟩,
    .called (.request sampleQuestion) sampleFound ⟨.respond sampleShown, ()⟩]

theorem documents_read_back_sample :
    ∃ w, Trace (PoolStep (ServiceOrigin.program DateTime.parseFromRfc3339) ServiceCall.Handles)
        ⟨.initial, []⟩ sampleReadBack w ∧
      ∃ c v document, sampleQuestion.intent DateTime.parseFromRfc3339 = some c ∧
        ⟨c, .ok v⟩ ∈ businessLog sampleFound ∧
        sampleShown = sampleQuestion.front.reply c document ∧
        Shows DateTime.parseFromRfc3339 c v document := by
  have hnow : NaiveDateTime.FourDigitYear sampleNow := by decide
  obtain ⟨s, hchecked, -⟩ := call_exact held_initial
    (.check (.object (sampleDraft.object sampleNow)))
  obtain rfl : s = .initial := LifecycleRecord.readOnly_check
    (.object (sampleDraft.object sampleNow)) _ _ _ hchecked.runs
  obtain ⟨s', hinserted, hheld⟩ := call_exact held_initial
    (.insert (.object (sampleDraft.object sampleNow)))
  obtain ⟨s'', hfound, -⟩ := call_exact (hheld ⟨hnow, hnow⟩) (.object "object-1")
  have hrespond : ∀ w shown, ServiceCall.Handles (.respond shown) w () w := fun _ _ => rfl
  have hrun : Trace (PoolStep (ServiceOrigin.program DateTime.parseFromRfc3339)
      ServiceCall.Handles) ⟨.initial, []⟩ sampleReadBack ⟨s'', [⟨.request sampleQuestion,
        sampleFound ++ [⟨.respond sampleShown, ()⟩], .ret ()⟩]⟩ := by
    exact .cons (.started sampleCreation) (.cons (poolStep_called hchecked.runs rfl)
      (.cons (poolStep_called hinserted.runs rfl)
        (.cons (poolStep_called (hrespond s' _) rfl) (.cons (.ended [] []) (.cons (.started _)
          (.cons (poolStep_called hfound.runs rfl)
            (.cons (poolStep_called (hrespond s'' _) rfl) .nil)))))))
  refine ⟨_, hrun, documents_read_back (fun _ _ h => h) hrun (fun e he => ?_) ?_ rfl nofun⟩
  · simp only [sampleReadBack, sampleServed, List.mem_append, List.mem_cons, List.not_mem_nil,
      or_false] at he
    rcases he with (rfl | rfl | rfl | rfl | rfl) | rfl | rfl | rfl
    · trivial
    · trivial
    · exact ⟨⟨hnow, hnow⟩, by decide⟩
    · trivial
    · trivial
    · trivial
    · trivial
    · trivial
  · simp [sampleReadBack]

end MatriXpost
