/-
  File:      MatriXpost/Lifecycle/Handlers.lean
  Subject:   WHAT A REQUEST TO THE LIFECYCLE STORE IS ANSWERED, whichever front end takes it.

  * `Register.serve` is the answer of the register to the one operation a request is for, and
    `FrontEnd.present` the reply by which a front end reports it done;
  * `HandlerShape` says once what every handler of the four front ends is made of: `api_shape`,
    `cli_shape`, `mcp_shape`, `desktop_shape`. The checks a front end makes of its own refuse
    nothing the register accepts;
  * **`front_end_exact`**: a request alone and without faults is answered by what the register
    answers to its operation, and leaves the store holding what the register holds then.
-/
import MatriXpost.Lifecycle.FrontEnds

namespace MatriXpost

/-! ## 1. What a request is answered on a register -/

namespace Register

/-- An operation of the repository at once: an insert is its checks and its INSERT. -/
def serve (r : Register) : (c : BusinessCall) → c.Reply × Register
  | .insert record =>
    match r.check record with
    | .ok _ => (.ok (), r.add record)
    | .error e => (.error e, r)
  | .check record => r.answer (.check record)
  | .transition id expected nextLifecycle nextApproval updatedAt =>
    r.answer (.transition id expected nextLifecycle nextApproval updatedAt)
  | .object id => r.answer (.object id)
  | .objects => r.answer .objects
  | .ledgerEntries id => r.answer (.ledgerEntries id)
  | .contentAttributions id => r.answer (.contentAttributions id)
  | .businessRelations id => r.answer (.businessRelations id)

/-- The register refuses the operation. -/
def Refuses (r : Register) (c : BusinessCall) : Prop := ∃ e, (r.serve c).1 = .error e

end Register

/-- The four front ends. -/
inductive FrontEnd where
  | api | cli | mcp | desktop
deriving DecidableEq

namespace FrontEnd

/-- A record as a front end shows it. -/
def record (f : FrontEnd) : LifecycleRecord → Json
  | .object o => if f = desktop then Desktop.objectEntry o else o.toJson
  | .ledgerEntry e => if f = desktop then Desktop.ledgerEntry e else e.toJson
  | .attribution a => if f = desktop then Desktop.contentAttributionEntry a else a.toJson
  | .relation b => if f = desktop then Desktop.businessRelationEntry b else b.toJson

/-- What an operation found or wrote, as a front end shows it. -/
def document (f : FrontEnd) : (c : BusinessCall) → c.Value → Option Json
  | .check _, _ => none
  | .insert record, _ => some (f.record record)
  | .transition _ _ _ _ _, object => some (f.record (.object object))
  | .object _, found => found.map fun object => f.record (.object object)
  | .objects, objects => some (.array (objects.map fun o => f.record (.object o)))
  | .ledgerEntries _, entries => some (.array (entries.map fun e => f.record (.ledgerEntry e)))
  | .contentAttributions _, attributions =>
    some (.array (attributions.map fun a => f.record (.attribution a)))
  | .businessRelations _, relations =>
    some (.array (relations.map fun b => f.record (.relation b)))

/-- The message of a route that succeeds. -/
def apiMessage : BusinessCall → String
  | .check _ => ""
  | .insert (.object _) => "business object created"
  | .insert (.ledgerEntry _) => "ledger entry created"
  | .insert (.attribution _) => "content attribution created"
  | .insert (.relation _) => "business relation created"
  | .transition _ _ _ _ _ => "business object transitioned"
  | .object _ => "business object retrieved"
  | .objects => "business objects listed"
  | .ledgerEntries _ => "ledger entries listed"
  | .contentAttributions _ => "content attributions listed"
  | .businessRelations _ => "business relations listed"

/-- The name a command that succeeds emits its result under. -/
def cliName : BusinessCall → String
  | .check _ => ""
  | .insert (.object _) | .transition _ _ _ _ _ | .object _ => "object"
  | .insert (.ledgerEntry _) => "ledger_entry"
  | .insert (.attribution _) => "content_attribution"
  | .insert (.relation _) => "business_relation"
  | .objects => "objects"
  | .ledgerEntries _ => "ledger_entries"
  | .contentAttributions _ => "content_attributions"
  | .businessRelations _ => "business_relations"

/-- The reply around a document. -/
def reply (c : BusinessCall) (document : Json) : FrontEnd → FrontReply
  | api =>
    match c with
    | .insert _ => .api (apiResponse 201 "created" document (apiMessage c))
    | _ => .api (apiResponse 200 "ok" document (apiMessage c))
  | cli => .cli (emit 0 (.object [(cliName c, document)]) none)
  | mcp => .mcp (structured document)
  | desktop => .desktop (.ok document)

/-- The reply by which a front end reports that the operation was done, if it has one. -/
def present (f : FrontEnd) (c : BusinessCall) (v : c.Value) : Option FrontReply :=
  (f.document c v).map fun document => f.reply c document

theorem present_success {f : FrontEnd} {c : BusinessCall} {v : c.Value} {a : FrontReply}
    (h : f.present c v = some a) : a.success = true := by
  obtain ⟨document, -, rfl⟩ := Option.map_eq_some_iff.mp h
  cases f with
  | api => cases c <;> rfl
  | cli => rfl
  | mcp => rfl
  | desktop => rfl

end FrontEnd

def FrontRequest.front : FrontRequest → FrontEnd
  | api _ => .api
  | cli _ _ => .cli
  | mcp _ _ => .mcp
  | desktop _ _ => .desktop

/-! ## 2. The shape of a handler -/

/-- The front end reports the operation done on an answer it has a reply for, and on no other. -/
structure Presents {α : Type} (f : FrontEnd) (wrap : α → FrontReply) (c : BusinessCall)
    (k : c.Reply → Handler α) : Prop where
  shown : ∀ v shown, f.present c v = some shown → ∃ a, k (.ok v) = pure a ∧ wrap a = shown
  hidden : ∀ v, f.present c v = none → ∃ a, k (.ok v) = pure a ∧ (wrap a).success = false
  failed : ∀ e, ∃ a, k (.error e) = pure a ∧ (wrap a).success = false

/-- A handler refuses at once, or does the operation it is for, an insert in two calls; before
    that it may ask for an object the operation needs. -/
inductive HandlerShape {α : Type} (f : FrontEnd) (wrap : α → FrontReply)
    (intent : Option BusinessCall) : Handler α → Prop
  | refused (a : α) : (wrap a).success = false →
      (∀ c, intent = some c → ∀ r : Register, r.Refuses c) → HandlerShape f wrap intent (pure a)
  | operation (c : BusinessCall) (k : c.Reply → Handler α) : intent = some c →
      (∀ r : Register, r.serve c = r.answer c) → Presents f wrap c k →
      HandlerShape f wrap intent (Handler.call c >>= k)
  | insert (record : LifecycleRecord) (k : (BusinessCall.insert record).Reply → Handler α) :
      intent = some (.insert record) → Presents f wrap (.insert record) k →
      HandlerShape f wrap intent (Handler.insert record >>= k)
  | required (id : String) (rest : Handler α) (k : (BusinessCall.object id).Reply → Handler α) :
      (∀ o, k (.ok (some o)) = rest) →
      (∃ a, k (.ok none) = pure a ∧ (wrap a).success = false) →
      (∀ e, ∃ a, k (.error e) = pure a ∧ (wrap a).success = false) →
      (∀ c, intent = some c → ∀ r : Register, r.object? id = none → r.Refuses c) →
      HandlerShape f wrap intent rest →
      HandlerShape f wrap intent (Handler.call (.object id) >>= k)

/-! ## 3. What a register refuses -/

namespace Register
variable {r : Register} {c : BusinessCall}

/-- **A register that refuses stays as it is.** -/
theorem serve_refused {e : DomainError} (h : (r.serve c).1 = .error e) : (r.serve c).2 = r := by
  cases c with
  | insert record =>
    unfold serve at h ⊢
    dsimp only at h ⊢
    split at h
    · cases h
    · rfl
  | check record => rfl
  | transition id expected nextLifecycle nextApproval updatedAt =>
    change r.after _ (r.serve _).1 = r
    rw [h, after_error]
  | object id => rfl
  | objects => rfl
  | ledgerEntries id => rfl
  | contentAttributions id => rfl
  | businessRelations id => rfl

theorem refuses_insert {record : LifecycleRecord} {e : DomainError}
    (h : r.check record = .error e) : r.Refuses (.insert record) := by
  refine ⟨e, ?_⟩
  unfold serve
  dsimp only
  rw [h]

/-- A record that does not pass its own checks is refused. -/
theorem refuses_invalid {record : LifecycleRecord} (h : record.validate ≠ .ok ()) :
    r.Refuses (.insert record) := by
  cases hcheck : r.check record with
  | error e => exact refuses_insert hcheck
  | ok u =>
    refine absurd ?_ h
    cases record with
    | object o =>
      obtain ⟨v, hv, -⟩ := except_bind_ok.mp hcheck
      exact hv
    | ledgerEntry e =>
      obtain ⟨v, hv, -⟩ := except_bind_ok.mp hcheck
      exact hv
    | attribution a =>
      obtain ⟨v, hv, -⟩ := except_bind_ok.mp hcheck
      exact hv
    | relation b =>
      obtain ⟨v, hv, -⟩ := except_bind_ok.mp hcheck
      exact hv

theorem requireObject_none {id : String} (h : r.object? id = none) :
    r.requireObject id = .error (.unknownBusinessObject id) := by
  unfold requireObject
  rw [h]
  rfl

/-- What a record belongs to must be there. -/
theorem refuses_orphan {record : LifecycleRecord} {id : String} (h : r.object? id = none)
    (hid : match record with
      | .object _ => False
      | .ledgerEntry e => e.businessObjectId = id
      | .attribution a => a.businessObjectId = id
      | .relation b => b.sourceBusinessObjectId = id) : r.Refuses (.insert record) := by
  have hmissing := requireObject_none h
  cases hcheck : r.check record with
  | error e => exact refuses_insert hcheck
  | ok u =>
    cases record with
    | object o => exact hid.elim
    | ledgerEntry e =>
      obtain rfl := hid
      obtain ⟨v, -, hcheck⟩ := except_bind_ok.mp hcheck
      obtain ⟨v', hrequired, -⟩ := except_bind_ok.mp hcheck
      rw [hmissing] at hrequired
      cases hrequired
    | attribution a =>
      obtain rfl := hid
      obtain ⟨v, -, hcheck⟩ := except_bind_ok.mp hcheck
      obtain ⟨v', hrequired, -⟩ := except_bind_ok.mp hcheck
      rw [hmissing] at hrequired
      cases hrequired
    | relation b =>
      obtain rfl := hid
      obtain ⟨v, -, hcheck⟩ := except_bind_ok.mp hcheck
      obtain ⟨v', hrequired, -⟩ := except_bind_ok.mp hcheck
      rw [hmissing] at hrequired
      cases hrequired

theorem requireObject_ok {id : String} (h : r.requireObject id = .ok ()) :
    (r.object? id).isNone = false := by
  unfold requireObject at h
  split at h
  · rename_i hsome
    rw [← Option.not_isSome, hsome]
    rfl
  · cases h

end Register

theorem refuse_ok {found : Bool} {error : DomainError} :
    refuse found error = .ok () ↔ found = false := by
  unfold refuse
  cases found <;> simp

/-- A check that passes, before the next. -/
theorem refuse_bind_ok {found : Bool} {error : DomainError} {rest : Except DomainError Unit} :
    (refuse found error >>= fun _ => rest) = .ok () ↔ found = false ∧ rest = .ok () := by
  cases found with
  | false => simp [refuse, Bind.bind, Except.bind]
  | true => simp [refuse, Bind.bind, Except.bind]

/-- **What passes its checks meets no conflict**, when nothing comes between. -/
theorem Register.conflict_of_check {r : Register} {record : LifecycleRecord}
    (h : r.check record = .ok ()) : r.conflict record = .ok () := by
  cases record with
  | object o =>
    obtain ⟨_, -, h⟩ := except_bind_ok.mp h
    obtain ⟨hid, hexternal⟩ := refuse_bind_ok.mp h
    refine refuse_bind_ok.mpr ⟨?_, refuse_ok.mpr hid⟩
    cases he : o.externalId with
    | none => rfl
    | some externalId =>
      rw [he] at hexternal
      exact refuse_ok.mp hexternal
  | ledgerEntry e =>
    obtain ⟨_, -, h⟩ := except_bind_ok.mp h
    obtain ⟨_, hobject, h⟩ := except_bind_ok.mp h
    exact refuse_bind_ok.mpr ⟨Register.requireObject_ok hobject, refuse_ok.mpr (refuse_ok.mp h)⟩
  | attribution a =>
    obtain ⟨_, -, h⟩ := except_bind_ok.mp h
    obtain ⟨_, hobject, h⟩ := except_bind_ok.mp h
    split at h
    · rename_i hhistory
      refine refuse_bind_ok.mpr ⟨?_, refuse_ok.mpr (refuse_ok.mp h)⟩
      rw [Register.requireObject_ok hobject, hhistory]
      rfl
    · cases h
  | relation b =>
    obtain ⟨_, -, h⟩ := except_bind_ok.mp h
    obtain ⟨_, hsource, h⟩ := except_bind_ok.mp h
    obtain ⟨_, htarget, h⟩ := except_bind_ok.mp h
    obtain ⟨hid, htriple⟩ := refuse_bind_ok.mp h
    refine refuse_bind_ok.mpr ⟨?_, refuse_bind_ok.mpr ⟨refuse_ok.mp htriple, refuse_ok.mpr hid⟩⟩
    rw [Register.requireObject_ok hsource, Register.requireObject_ok htarget]
    rfl

/-! ## 4. A request alone -/

namespace Register

/-- The register after a request. -/
def done (r : Register) : Option BusinessCall → Register
  | none => r
  | some c => (r.serve c).2

/-- The reply by which a front end reports what a request has found or written; none where the
    register refuses it. -/
def shown (r : Register) (f : FrontEnd) : Option BusinessCall → Option FrontReply
  | none => none
  | some c =>
    match (r.serve c).1 with
    | .ok v => f.present c v
    | .error _ => none

theorem shown_of_ok {r : Register} {f : FrontEnd} {c : BusinessCall} {v : c.Value}
    (h : (r.serve c).1 = .ok v) : r.shown f (some c) = f.present c v := by
  unfold shown
  dsimp only
  rw [h]

theorem shown_of_error {r : Register} {f : FrontEnd} {c : BusinessCall}
    (h : r.Refuses c) : r.shown f (some c) = none := by
  obtain ⟨e, he⟩ := h
  unfold shown
  dsimp only
  rw [he]

end Register

/-- A program leaves the register as the operation it is for does, and reports it done if it is. -/
structure AnswersAs {α : Type} (f : FrontEnd) (wrap : α → FrontReply) (intent : Option BusinessCall)
    (p : Handler α) (r : Register) : Prop where
  register : (p.eval (fun c r => r.answer c) r).2 = r.done intent
  shown : ∀ shown, r.shown f intent = some shown →
    wrap (p.eval (fun c r => r.answer c) r).1 = shown
  hidden : r.shown f intent = none →
    (wrap (p.eval (fun c r => r.answer c) r).1).success = false

section Alone
variable {α : Type} {f : FrontEnd} {wrap : α → FrontReply} {intent : Option BusinessCall}

/-- The two calls of an insert are one operation of the register. -/
theorem eval_insert (record : LifecycleRecord) (r : Register) :
    (Handler.insert record).eval (fun c r => r.answer c) r = r.serve (.insert record) := by
  have hfirst : (Handler.call (.check record)).eval (fun c r => r.answer c) r =
      (r.check record, r) := rfl
  unfold Handler.insert Register.serve
  rw [Prog.eval_bind, hfirst]
  dsimp only
  cases hcheck : r.check record with
  | error e => rfl
  | ok u =>
    have hconflict := Register.conflict_of_check hcheck
    change (r.conflict record, r.after (.insert record) (r.conflict record)) = _
    rw [hconflict]
    rfl

/-- A refusal leaves the register as it is and reports no success. -/
theorem answersAs_refused {p : Handler α} {r : Register} {a : α}
    (hp : p.eval (fun c r => r.answer c) r = (a, r)) (ha : (wrap a).success = false)
    (hrefuse : ∀ c, intent = some c → r.Refuses c) : AnswersAs f wrap intent p r := by
  cases intent with
  | none =>
    refine ⟨?_, (fun shown h => by cases h), fun _ => ?_⟩
    · rw [hp]
      rfl
    · rw [hp]
      exact ha
  | some c =>
    have hrefused := hrefuse c rfl
    refine ⟨?_, fun shown h => ?_, fun _ => ?_⟩
    · obtain ⟨e, he⟩ := hrefused
      rw [hp]
      exact (Register.serve_refused he).symm
    · rw [Register.shown_of_error hrefused] at h
      cases h
    · rw [hp]
      exact ha

/-- What is done with the answer of an operation reports it. -/
theorem answersAs_presents {p : Handler α} {r : Register} {c : BusinessCall}
    {k : c.Reply → Handler α} (hk : Presents f wrap c k)
    (hp : p.eval (fun c r => r.answer c) r =
      (k (r.serve c).1).eval (fun c r => r.answer c) (r.serve c).2) :
    AnswersAs f wrap (some c) p r := by
  have hpure : ∀ (a : α) (r : Register),
      (pure a : Handler α).eval (fun c r => r.answer c) r = (a, r) := fun _ _ => rfl
  cases hreply : (r.serve c).1 with
  | error e =>
    obtain ⟨a, ha, hfail⟩ := hk.failed e
    refine answersAs_refused (a := a) ?_ hfail fun c' hc' => ?_
    · rw [hp, hreply, ha, hpure, Register.serve_refused hreply]
    · cases hc'
      exact ⟨e, hreply⟩
  | ok v =>
    rw [hreply] at hp
    have hshown : r.shown f (some c) = f.present c v := Register.shown_of_ok hreply
    cases hv : f.present c v with
    | some shown =>
      obtain ⟨a, ha, hwrap⟩ := hk.shown v shown hv
      rw [ha, hpure] at hp
      refine ⟨by rw [hp]; rfl, fun shown' h => ?_, fun h => ?_⟩
      · rw [hshown, hv] at h
        rw [hp, ← Option.some.inj h]
        exact hwrap
      · rw [hshown, hv] at h
        cases h
    | none =>
      obtain ⟨a, ha, hfail⟩ := hk.hidden v hv
      rw [ha, hpure] at hp
      refine ⟨by rw [hp]; rfl, fun shown' h => ?_, fun _ => ?_⟩
      · rw [hshown, hv] at h
        cases h
      · rw [hp]
        exact hfail

/-- **A handler of the shape answers as the register answers its one operation.** -/
theorem answersAs_of_shape {p : Handler α} (h : HandlerShape f wrap intent p) (r : Register) :
    AnswersAs f wrap intent p r := by
  induction h with
  | refused a ha hrefuse => exact answersAs_refused rfl ha fun c hc => hrefuse c hc r
  | operation c k hintent hserve hk =>
    subst hintent
    refine answersAs_presents hk ?_
    rw [hserve r]
    rfl
  | insert record k hintent hk =>
    subst hintent
    refine answersAs_presents hk ?_
    rw [Prog.eval_bind, eval_insert]
  | required id rest k hrest hnone herror hneeds _ ih =>
    cases hobject : r.object? id with
    | some o =>
      have heval : (Handler.call (.object id) >>= k).eval (fun c r => r.answer c) r =
          rest.eval (fun c r => r.answer c) r := by
        change (k (.ok (r.object? id))).eval _ r = _
        rw [hobject, hrest o]
      exact ⟨by rw [heval]; exact ih.register, by rw [heval]; exact ih.shown,
        by rw [heval]; exact ih.hidden⟩
    | none =>
      obtain ⟨a, ha, hfail⟩ := hnone
      refine answersAs_refused (a := a) ?_ hfail fun c hc => hneeds c hc r hobject
      change (k (.ok (r.object? id))).eval _ r = _
      rw [hobject, ha]
      rfl

end Alone

/-! ## 5. The handlers have the shape -/

section Shapes
variable {intent : Option BusinessCall} {c : BusinessCall} {record : LifecycleRecord}

/-- A front end that reports every answer. -/
theorem presents_all {α : Type} {f : FrontEnd} {wrap : α → FrontReply} {k : c.Reply → Handler α}
    (hok : ∀ v, ∃ a, k (.ok v) = pure a ∧ f.present c v = some (wrap a))
    (herror : ∀ e, ∃ a, k (.error e) = pure a ∧ (wrap a).success = false) :
    Presents f wrap c k := by
  refine ⟨fun v shown h => ?_, fun v h => ?_, herror⟩
  · obtain ⟨a, ha, hpresent⟩ := hok v
    rw [hpresent] at h
    exact ⟨a, ha, Option.some.inj h⟩
  · obtain ⟨a, ha, hpresent⟩ := hok v
    rw [hpresent] at h
    cases h

/-- What asks for an object first needs it. -/
theorem refuses_listing {r : Register} {id : String} (h : r.object? id = none) :
    r.Refuses (.ledgerEntries id) ∧ r.Refuses (.contentAttributions id) ∧
      r.Refuses (.businessRelations id) := by
  have hmissing := Register.requireObject_none h
  refine ⟨⟨.unknownBusinessObject id, ?_⟩, ⟨.unknownBusinessObject id, ?_⟩,
    ⟨.unknownBusinessObject id, ?_⟩⟩
  · change r.ledgerEntries id = _
    unfold Register.ledgerEntries
    rw [hmissing]
    rfl
  · change r.contentAttributions id = _
    unfold Register.contentAttributions
    rw [hmissing]
    rfl
  · change r.businessRelations id = _
    unfold Register.businessRelations
    rw [hmissing]
    rfl

namespace Api

theorem objectError_ok (e : DomainError) : (objectError e).ok = false := by
  unfold objectError
  split <;> rfl

theorem read_shape {data : c.Value → Json} {message : String}
    {failed : DomainError → ApiResponse Json} (hserve : ∀ r : Register, r.serve c = r.answer c)
    (hpresent : ∀ v, FrontEnd.api.present c v =
      some (.api (apiResponse 200 "ok" (data v) message)))
    (hfailed : ∀ e, (failed e).ok = false) :
    HandlerShape .api .api (some c) (read c data message failed) :=
  .operation c _ rfl hserve
    (presents_all (fun v => ⟨_, rfl, hpresent v⟩) fun e => ⟨_, rfl, hfailed e⟩)

theorem create_shape {data : Json} {message : String} {failed : DomainError → ApiResponse Json}
    (hpresent : FrontEnd.api.present (.insert record) () =
      some (.api (apiResponse 201 "created" data message)))
    (hfailed : ∀ e, (failed e).ok = false) :
    HandlerShape .api .api (some (.insert record)) (create record data message failed) :=
  .insert record _ rfl
    (presents_all (fun _ => ⟨_, rfl, hpresent⟩) fun e => ⟨_, rfl, hfailed e⟩)

theorem require_shape {id : String} {rest : Handler (ApiResponse Json)}
    (hneeds : ∀ c, intent = some c → ∀ r : Register, r.object? id = none → r.Refuses c)
    (hrest : HandlerShape .api .api intent rest) :
    HandlerShape .api .api intent (requireBusinessObject id rest) :=
  .required id rest _ (fun _ => rfl) ⟨_, rfl, rfl⟩ (fun _ => ⟨_, rfl, rfl⟩) hneeds hrest

theorem refused_shape {response : ApiResponse Json} (hfail : response.ok = false) :
    HandlerShape .api .api none (pure response : Handler (ApiResponse Json)) :=
  .refused response hfail fun c hc => by cases hc

/-- A body that names its owner must name the one of the path. -/
theorem path_shape {α : Type} {a : α} {owner : α → String} {id message : String}
    {records : α → LifecycleRecord} {rest : Handler (ApiResponse Json)}
    (hrest : HandlerShape .api .api (some (.insert (records a))) rest)
    (howner : ∀ r : Register, r.object? (owner a) = none → r.Refuses (.insert (records a))) :
    HandlerShape .api .api
      (((Except.ok a : Except (ApiResponse Json) α).toOption.filter fun a => owner a = id).map
        fun a => .insert (records a))
      (if owner a ≠ id then pure (invalidReply message) else requireBusinessObject id rest) := by
  by_cases hid : owner a = id
  · simp only [Except.toOption, Option.filter, hid, ne_eq, not_true_eq_false, if_false,
      decide_true, if_true, Option.map_some]
    refine require_shape (fun c hc r hnone => ?_) hrest
    cases hc
    exact howner r (hid ▸ hnone)
  · simp only [Except.toOption, Option.filter, hid, ne_eq, not_false_eq_true, if_true,
      decide_false, Bool.false_eq_true, if_false, Option.map_none]
    exact refused_shape rfl

/-- What a body is refused with is no success. -/
theorem refusal_ok {α : Type} {decode : Json → Except String α} {body : Body}
    {allowedFields : List String} {resource : String} {response : ApiResponse Json}
    (h : parseLifecycleJson decode body allowedFields resource = .error response) :
    response.ok = false := by
  obtain ⟨message, rfl⟩ := parseLifecycleJson_error h
  rfl

end Api

/-- **The routes have the shape of a handler.** -/
theorem api_shape (readTime : String → Option DateTime) (request : Api.Request) :
    HandlerShape .api .api (request.intent readTime) (request.handler readTime) := by
  cases request with
  | listBusinessObjects =>
    exact Api.read_shape (fun _ => rfl) (fun _ => rfl) fun _ => rfl
  | createBusinessObject body =>
    unfold Api.Request.intent Api.Request.handler Api.createBusinessObject
    dsimp only
    cases hbody : parseBusinessObject readTime body with
    | error response => exact Api.refused_shape (Api.refusal_ok hbody)
    | ok object => exact Api.create_shape rfl fun _ => rfl
  | getBusinessObject id =>
    refine .operation (.object id) _ rfl (fun _ => rfl) ⟨fun v shown h => ?_, fun v h => ?_,
      fun e => ⟨_, rfl, rfl⟩⟩
    · cases v with
      | none => cases h
      | some o => exact ⟨_, rfl, Option.some.inj h⟩
    · cases v with
      | none => exact ⟨_, rfl, rfl⟩
      | some o => cases h
  | transitionBusinessObject id body =>
    unfold Api.Request.intent Api.Request.handler Api.transitionBusinessObject
    dsimp only
    cases hbody : parseTransition readTime body with
    | error response => exact Api.refused_shape (Api.refusal_ok hbody)
    | ok request => exact Api.read_shape (fun _ => rfl) (fun _ => rfl) Api.objectError_ok
  | listLedgerEntries id =>
    refine Api.require_shape (fun c hc r hnone => ?_)
      (Api.read_shape (fun _ => rfl) (fun _ => rfl) fun _ => rfl)
    cases hc
    exact (refuses_listing hnone).1
  | createLedgerEntry id body =>
    unfold Api.Request.intent Api.Request.handler Api.createLedgerEntry
    dsimp only
    cases hbody : parseLedgerEntry readTime body with
    | error response => exact Api.refused_shape (Api.refusal_ok hbody)
    | ok entry =>
      exact Api.path_shape (Api.create_shape rfl fun _ => rfl)
        fun r hnone => Register.refuses_orphan hnone rfl
  | listContentAttributions id =>
    refine Api.require_shape (fun c hc r hnone => ?_)
      (Api.read_shape (fun _ => rfl) (fun _ => rfl) fun _ => rfl)
    cases hc
    exact (refuses_listing hnone).2.1
  | createContentAttribution id body =>
    unfold Api.Request.intent Api.Request.handler Api.createContentAttribution
    dsimp only
    cases hbody : parseContentAttribution readTime body with
    | error response => exact Api.refused_shape (Api.refusal_ok hbody)
    | ok attribution =>
      exact Api.path_shape (Api.create_shape rfl fun _ => rfl)
        fun r hnone => Register.refuses_orphan hnone rfl
  | listBusinessRelations id =>
    refine Api.require_shape (fun c hc r hnone => ?_)
      (Api.read_shape (fun _ => rfl) (fun _ => rfl) Api.objectError_ok)
    cases hc
    exact (refuses_listing hnone).2.2
  | createBusinessRelation id body now =>
    unfold Api.Request.intent Api.Request.handler Api.createBusinessRelation
    dsimp only
    cases hbody : parseBusinessRelation readTime body with
    | error response => exact Api.refused_shape (Api.refusal_ok hbody)
    | ok request =>
      exact Api.path_shape (Api.create_shape rfl Api.objectError_ok)
        fun r hnone => Register.refuses_orphan hnone rfl

namespace Cli

theorem requireNonEmpty_of {field value : String} (h : isBlank value = false) :
    requireNonEmpty field value = .ok () := by
  unfold requireNonEmpty
  rw [h]
  rfl

theorem requireAllOptional_of {fields : List (String × Option String)}
    (h : ∀ f ∈ fields, ∀ value, f.2 = some value → isBlank value = false) :
    requireAllOptional fields = .ok () := by
  induction fields with
  | nil => rfl
  | cons f rest ih =>
    obtain ⟨field, value⟩ := f
    have hrest := ih fun f hf => h f (List.mem_cons_of_mem _ hf)
    cases value with
    | none => exact hrest
    | some value =>
      unfold requireAllOptional
      rw [requireNonEmpty_of (h _ List.mem_cons_self value rfl)]
      exact hrest

theorem requireAll_of {fields : List (String × String)}
    (h : ∀ f ∈ fields, isBlank f.2 = false) : requireAll fields = .ok () := by
  induction fields with
  | nil => rfl
  | cons f rest ih =>
    obtain ⟨field, value⟩ := f
    unfold requireAll
    rw [requireNonEmpty_of (h _ List.mem_cons_self)]
    exact ih fun f hf => h f (List.mem_cons_of_mem _ hf)

end Cli

theorem validateNonEmpty_ok {field value : String} (h : validateNonEmpty field value = .ok ()) :
    isBlank value = false := by
  unfold validateNonEmpty at h
  split at h
  · cases h
  · rename_i hblank
    simpa using hblank

theorem checkOptional_ok {fields : List (String × Option String)}
    (h : checkOptional fields = .ok ()) :
    ∀ f ∈ fields, ∀ value, f.2 = some value → isBlank value = false := by
  induction fields with
  | nil => exact fun f hf => absurd hf List.not_mem_nil
  | cons f rest ih =>
    obtain ⟨field, value⟩ := f
    intro f' hf' value' hvalue'
    cases value with
    | none =>
      rcases List.mem_cons.mp hf' with rfl | hf'
      · cases hvalue'
      · exact ih h f' hf' value' hvalue'
    | some value =>
      obtain ⟨_, hvalue, hrest⟩ := except_bind_ok.mp h
      rcases List.mem_cons.mp hf' with rfl | hf'
      · cases hvalue'
        exact validateNonEmpty_ok hvalue
      · exact ih hrest f' hf' value' hvalue'

namespace Cli

/-! The checks of a command refuse nothing that the repository would accept. -/

theorem ObjectCreateArgs.checks_of_validate {args : ObjectCreateArgs} {attributes : Attributes}
    {now : DateTime} (hparse : parseAttributes args.attributes = .ok attributes)
    (h : (args.object attributes now).validate = .ok ()) : args.checks = .ok attributes := by
  obtain ⟨_, hid, h⟩ := except_bind_ok.mp h
  obtain ⟨_, hkind, h⟩ := except_bind_ok.mp h
  obtain ⟨_, hname, h⟩ := except_bind_ok.mp h
  split at h
  · cases h
  obtain ⟨_, hexternal, h⟩ := except_bind_ok.mp h
  have hall : requireAll [("object id", args.id), ("object kind", args.kind),
      ("object display name", args.displayName)] = .ok () := by
    refine requireAll_of fun f hf => ?_
    simp only [List.mem_cons, List.not_mem_nil, or_false] at hf
    rcases hf with rfl | rfl | rfl
    · exact validateNonEmpty_ok hid
    · exact validateNonEmpty_ok hkind
    · exact validateNonEmpty_ok hname
  have hoptional : requireAllOptional [("object external id", args.externalId)] = .ok () := by
    refine requireAllOptional_of fun f hf value hvalue => ?_
    obtain rfl := List.mem_singleton.mp hf
    exact checkOptional_ok hexternal _ List.mem_cons_self value hvalue
  unfold ObjectCreateArgs.checks
  rw [hall, hoptional, hparse]
  rfl

theorem LedgerAddArgs.checks_of_validate {args : LedgerAddArgs} {now : DateTime}
    (h : (args.entry now).validate = .ok ()) : args.checks = .ok () := by
  obtain ⟨_, hid, h⟩ := except_bind_ok.mp h
  obtain ⟨_, hobject, h⟩ := except_bind_ok.mp h
  obtain ⟨_, hcategory, h⟩ := except_bind_ok.mp h
  split at h
  · cases h
  split at h
  · cases h
  have hall : requireAll [("ledger entry id", args.id), ("object id", args.businessObjectId),
      ("ledger category", args.category)] = .ok () := by
    refine requireAll_of fun f hf => ?_
    simp only [List.mem_cons, List.not_mem_nil, or_false] at hf
    rcases hf with rfl | rfl | rfl
    · exact validateNonEmpty_ok hid
    · exact validateNonEmpty_ok hobject
    · exact validateNonEmpty_ok hcategory
  unfold LedgerAddArgs.checks
  rw [hall]
  exact requireAllOptional_of (checkOptional_ok h)

theorem AttributionAddArgs.checks_of_validate {args : AttributionAddArgs} {now : DateTime}
    (h : (args.attribution now).validate = .ok ()) : args.checks = .ok () := by
  obtain ⟨_, hobject, h⟩ := except_bind_ok.mp h
  refine requireAll_of fun f hf => ?_
  simp only [List.mem_cons, List.not_mem_nil, or_false] at hf
  rcases hf with rfl | rfl
  · exact validateNonEmpty_ok hobject
  · exact validateNonEmpty_ok h

theorem RelationAddArgs.checks_of_validate {args : RelationAddArgs} {attributes : Attributes}
    {now : DateTime} (hparse : parseAttributes args.attributes = .ok attributes)
    (h : (args.relation attributes now).validate = .ok ()) : args.checks = .ok attributes := by
  obtain ⟨_, hid, h⟩ := except_bind_ok.mp h
  obtain ⟨_, hsource, h⟩ := except_bind_ok.mp h
  obtain ⟨_, htarget, h⟩ := except_bind_ok.mp h
  obtain ⟨_, htype, h⟩ := except_bind_ok.mp h
  have hall : requireAll [("business relation id", args.id),
      ("source object id", args.sourceBusinessObjectId),
      ("target object id", args.targetBusinessObjectId),
      ("business relation type", args.relationType)] = .ok () := by
    refine requireAll_of fun f hf => ?_
    simp only [List.mem_cons, List.not_mem_nil, or_false] at hf
    rcases hf with rfl | rfl | rfl | rfl
    · exact validateNonEmpty_ok hid
    · exact validateNonEmpty_ok hsource
    · exact validateNonEmpty_ok htarget
    · exact validateNonEmpty_ok htype
  unfold RelationAddArgs.checks
  rw [hall, hparse]
  rfl

theorem read_shape {name : String} {data : c.Value → Json}
    (hserve : ∀ r : Register, r.serve c = r.answer c)
    (hpresent : ∀ v, FrontEnd.cli.present c v =
      some (.cli (emit 0 (.object [(name, data v)]) none))) :
    HandlerShape .cli .cli (some c) (read c name data) :=
  .operation c _ rfl hserve
    (presents_all (fun v => ⟨_, rfl, hpresent v⟩) fun _ => ⟨_, rfl, rfl⟩)

theorem create_shape {name : String} {data : Json}
    (hpresent : FrontEnd.cli.present (.insert record) () =
      some (.cli (emit 0 (.object [(name, data)]) none))) :
    HandlerShape .cli .cli (some (.insert record)) (create record name data) :=
  .insert record _ rfl (presents_all (fun _ => ⟨_, rfl, hpresent⟩) fun _ => ⟨_, rfl, rfl⟩)

/-- A command that lists what belongs to an object. -/
theorem list_shape {id name : String} {data : c.Value → Json}
    (hneeds : ∀ r : Register, r.object? id = none → r.Refuses c)
    (hread : HandlerShape .cli .cli (some c) (read c name data)) :
    HandlerShape .cli .cli (if isBlank id then none else some c)
      (objectOrNotFound id fun _ => read c name data) := by
  unfold objectOrNotFound requireNonEmpty
  cases hblank : isBlank id with
  | true => exact .refused _ rfl fun c hc => by cases hc
  | false =>
    refine .required id _ _ (fun _ => rfl) ⟨_, rfl, rfl⟩ (fun _ => ⟨_, rfl, rfl⟩)
      (fun c' hc' r hnone => ?_) hread
    cases hc'
    exact hneeds r hnone

/-- A command that inserts what its checks let through. -/
theorem checked_shape {α : Type} {parsed checks : Except String α} {records : α → LifecycleRecord}
    {name : String} {data : α → Json}
    (hpresent : ∀ a, FrontEnd.cli.present (.insert (records a)) () =
      some (.cli (emit 0 (.object [(name, data a)]) none)))
    (hparsed : ∀ a, checks = .ok a → parsed = .ok a)
    (hvalid : ∀ a, parsed = .ok a → (records a).validate = .ok () → checks = .ok a) :
    HandlerShape .cli .cli (parsed.toOption.map fun a => .insert (records a))
      (checked checks fun a => create (records a) name (data a)) := by
  unfold checked
  cases hchecks : checks with
  | ok a =>
    rw [hparsed a hchecks]
    exact create_shape (hpresent a)
  | error e =>
    refine .refused _ rfl fun c hc r => ?_
    cases hp : parsed with
    | error e =>
      rw [hp] at hc
      cases hc
    | ok a =>
      rw [hp] at hc
      cases hc
      refine Register.refuses_invalid fun hv => ?_
      have hok := hvalid a hp hv
      rw [hchecks] at hok
      cases hok

end Cli

/-- **The commands have the shape of a handler.** -/
theorem cli_shape (command : Cli.LifecycleCommand) (now : DateTime) :
    HandlerShape .cli .cli (command.intent now) (Cli.executeLifecycle command now) := by
  cases command with
  | objects => exact Cli.read_shape (fun _ => rfl) fun _ => rfl
  | objectGet id =>
    unfold Cli.LifecycleCommand.intent Cli.executeLifecycle Cli.objectOrNotFound
      Cli.requireNonEmpty
    dsimp only
    cases hblank : isBlank id with
    | true => exact .refused _ rfl fun c hc => by cases hc
    | false =>
      refine .operation (.object id) _ rfl (fun _ => rfl) ⟨fun v shown h => ?_, fun v h => ?_,
        fun e => ⟨_, rfl, rfl⟩⟩
      · cases v with
        | none => cases h
        | some o => exact ⟨_, rfl, Option.some.inj h⟩
      · cases v with
        | none => exact ⟨_, rfl, rfl⟩
        | some o => cases h
  | objectCreate args =>
    refine Cli.checked_shape (fun _ => rfl) (fun a h => ?_) fun a hp hv =>
      args.checks_of_validate hp hv
    obtain ⟨_, -, h⟩ := except_bind_ok.mp h
    obtain ⟨_, -, h⟩ := except_bind_ok.mp h
    exact h
  | ledgerList id =>
    exact Cli.list_shape (fun r hnone => (refuses_listing hnone).1)
      (Cli.read_shape (fun _ => rfl) fun _ => rfl)
  | ledgerAdd args =>
    change HandlerShape .cli .cli ((Except.ok () : Except String Unit).toOption.map
      fun _ => .insert (.ledgerEntry (args.entry now))) _
    exact Cli.checked_shape (fun _ => rfl) (fun _ _ => rfl) fun _ _ hv => args.checks_of_validate hv
  | attributionList id =>
    exact Cli.list_shape (fun r hnone => (refuses_listing hnone).2.1)
      (Cli.read_shape (fun _ => rfl) fun _ => rfl)
  | attributionAdd args =>
    change HandlerShape .cli .cli ((Except.ok () : Except String Unit).toOption.map
      fun _ => .insert (.attribution (args.attribution now))) _
    exact Cli.checked_shape (fun _ => rfl) (fun _ _ => rfl) fun _ _ hv => args.checks_of_validate hv
  | relationList id =>
    exact Cli.list_shape (fun r hnone => (refuses_listing hnone).2.2)
      (Cli.read_shape (fun _ => rfl) fun _ => rfl)
  | relationAdd args =>
    refine Cli.checked_shape (fun _ => rfl) (fun a h => ?_) fun a hp hv =>
      args.checks_of_validate hp hv
    obtain ⟨_, -, h⟩ := except_bind_ok.mp h
    exact h
  | transition args =>
    unfold Cli.LifecycleCommand.intent Cli.executeLifecycle Cli.checked Cli.requireNonEmpty
    dsimp only
    cases hblank : isBlank args.id with
    | true => exact .refused _ rfl fun c hc => by cases hc
    | false => exact Cli.read_shape (fun _ => rfl) fun _ => rfl

/-- The result of a tool, as the tool answers it. -/
def Mcp.answered (result : Except DomainError Json) : FrontReply :=
  .mcp (match result with
    | .ok value => structured value
    | .error e => lifecycleToolError e)

namespace Mcp

theorem read_shape {data : c.Value → Json} (hserve : ∀ r : Register, r.serve c = r.answer c)
    (hpresent : ∀ v, FrontEnd.mcp.present c v = some (.mcp (structured (data v)))) :
    HandlerShape .mcp answered (some c) (read c data) :=
  .operation c _ rfl hserve
    (presents_all (fun v => ⟨_, rfl, hpresent v⟩) fun _ => ⟨_, rfl, rfl⟩)

theorem create_shape {data : Json}
    (hpresent : FrontEnd.mcp.present (.insert record) () = some (.mcp (structured data))) :
    HandlerShape .mcp answered (some (.insert record)) (create record data) :=
  .insert record _ rfl (presents_all (fun _ => ⟨_, rfl, hpresent⟩) fun _ => ⟨_, rfl, rfl⟩)

end Mcp

/-- **The tools have the shape of a handler.** -/
theorem mcp_shape (request : Mcp.Request) (now : DateTime) :
    HandlerShape .mcp Mcp.answered (some (request.intent now)) (request.result now) := by
  cases request with
  | getBusinessObject id =>
    refine .operation (.object id) _ rfl (fun _ => rfl) ⟨fun v shown h => ?_, fun v h => ?_,
      fun e => ⟨_, rfl, rfl⟩⟩
    · cases v with
      | none => cases h
      | some o => exact ⟨_, rfl, Option.some.inj h⟩
    · cases v with
      | none => exact ⟨_, rfl, rfl⟩
      | some o => cases h
  | createBusinessObject input => exact Mcp.create_shape rfl
  | appendLedgerEntry input => exact Mcp.create_shape rfl
  | addContentAttribution input => exact Mcp.create_shape rfl
  | addBusinessRelation input => exact Mcp.create_shape rfl
  | listBusinessObjects => exact Mcp.read_shape (fun _ => rfl) fun _ => rfl
  | listLedgerEntries id => exact Mcp.read_shape (fun _ => rfl) fun _ => rfl
  | listContentAttributions id => exact Mcp.read_shape (fun _ => rfl) fun _ => rfl
  | listBusinessRelations id => exact Mcp.read_shape (fun _ => rfl) fun _ => rfl
  | transitionBusinessObject input => exact Mcp.read_shape (fun _ => rfl) fun _ => rfl

namespace Desktop

theorem read_shape {data : c.Value → Json} (hserve : ∀ r : Register, r.serve c = r.answer c)
    (hpresent : ∀ v, FrontEnd.desktop.present c v = some (.desktop (.ok (data v)))) :
    HandlerShape .desktop .desktop (some c) (read c data) :=
  .operation c _ rfl hserve
    (presents_all (fun v => ⟨_, rfl, hpresent v⟩) fun _ => ⟨_, rfl, rfl⟩)

theorem create_shape {data : Json}
    (hpresent : FrontEnd.desktop.present (.insert record) () = some (.desktop (.ok data))) :
    HandlerShape .desktop .desktop (some (.insert record)) (create record data) :=
  .insert record _ rfl (presents_all (fun _ => ⟨_, rfl, hpresent⟩) fun _ => ⟨_, rfl, rfl⟩)

end Desktop

/-- **The desktop's operations have the shape of a handler.** -/
theorem desktop_shape (request : Desktop.Request) (now : DateTime) :
    HandlerShape .desktop .desktop (some (request.intent now)) (request.handler now) := by
  cases request with
  | createLifecycleObject input => exact Desktop.create_shape rfl
  | appendLifecycleLedgerEntry input => exact Desktop.create_shape rfl
  | addLifecycleContentAttribution input => exact Desktop.create_shape rfl
  | addLifecycleBusinessRelation input => exact Desktop.create_shape rfl
  | lifecycleObjects => exact Desktop.read_shape (fun _ => rfl) fun _ => rfl
  | lifecycleLedgerEntries id => exact Desktop.read_shape (fun _ => rfl) fun _ => rfl
  | lifecycleContentAttributions id => exact Desktop.read_shape (fun _ => rfl) fun _ => rfl
  | lifecycleBusinessRelations id => exact Desktop.read_shape (fun _ => rfl) fun _ => rfl
  | transitionLifecycleObject input => exact Desktop.read_shape (fun _ => rfl) fun _ => rfl

end Shapes

/-! ## 6. Every request -/

namespace Register

/-- Whether a request is granted: its input is accepted, and so is its operation, and an object
    that is asked for is there. No front end decides it. -/
def grants (r : Register) : Option BusinessCall → Bool
  | none => false
  | some (.object id) => (r.object? id).isSome
  | some (.check _) => false
  | some c => (r.serve c).1.isOk

theorem shown_isSome (r : Register) (f : FrontEnd) (intent : Option BusinessCall) :
    (r.shown f intent).isSome = r.grants intent := by
  cases intent with
  | none => rfl
  | some c =>
    cases hreply : (r.serve c).1 with
    | error e =>
      rw [shown_of_error ⟨e, hreply⟩]
      cases c with
      | object id => cases hreply
      | check record => rfl
      | _ =>
        unfold grants
        dsimp only
        rw [hreply]
        rfl
    | ok v =>
      rw [shown_of_ok hreply]
      cases c with
      | object id =>
        cases hreply
        unfold FrontEnd.present FrontEnd.document grants
        rw [Option.isSome_map, Option.isSome_map]
      | check record => rfl
      | _ =>
        unfold grants
        dsimp only
        rw [hreply]
        rfl

/-- What is shown reports success. -/
theorem shown_success {r : Register} {f : FrontEnd} {intent : Option BusinessCall}
    {a : FrontReply} (h : r.shown f intent = some a) : a.success = true := by
  cases intent with
  | none => cases h
  | some c =>
    unfold shown at h
    dsimp only at h
    split at h
    · exact FrontEnd.present_success h
    · cases h

end Register

/-- The answer with its wrapping. -/
theorem answersAs_wrapped {α : Type} {f : FrontEnd} {wrap : α → FrontReply}
    {intent : Option BusinessCall} {p : Handler α} {r : Register} {q : Handler FrontReply}
    (h : AnswersAs f wrap intent p r)
    (hq : q.eval (fun c r => r.answer c) r = (wrap (p.eval (fun c r => r.answer c) r).1,
      (p.eval (fun c r => r.answer c) r).2)) : AnswersAs f id intent q r :=
  ⟨by rw [hq]; exact h.register, fun shown hs => by rw [hq]; exact h.shown shown hs,
    fun hs => by rw [hq]; exact h.hidden hs⟩

/-- **Every handler answers as the register answers the operation of its request.** -/
theorem handler_answersAs (readTime : String → Option DateTime) (q : FrontRequest)
    (r : Register) : AnswersAs q.front id (q.intent readTime) (q.handler readTime) r := by
  cases q with
  | api request =>
    refine answersAs_wrapped (answersAs_of_shape (api_shape readTime request) r) ?_
    exact Prog.eval_bind _ _ r
  | cli command now =>
    refine answersAs_wrapped (answersAs_of_shape (cli_shape command now) r) ?_
    exact Prog.eval_bind _ _ r
  | mcp request now =>
    refine answersAs_wrapped (answersAs_of_shape (mcp_shape request now) r) ?_
    unfold FrontRequest.handler Mcp.Request.handler
    dsimp only
    rw [Prog.eval_bind, Prog.eval_bind]
    cases ((request.result now).eval (fun c r => r.answer c) r).1 <;> rfl
  | desktop request now =>
    refine answersAs_wrapped (answersAs_of_shape (desktop_shape request now) r) ?_
    exact Prog.eval_bind _ _ r

/-- The writes of a handler of the shape are of the operation it is for. -/
theorem only_of_shape {α : Type} {f : FrontEnd} {wrap : α → FrontReply}
    {intent : Option BusinessCall} {p : Handler α} {good : BusinessCall → Prop}
    (h : HandlerShape f wrap intent p) (hcheck : ∀ record, good (.check record))
    (hobject : ∀ id, good (.object id)) (hgood : ∀ c, intent = some c → good c) :
    p.Only good := by
  have hpure : ∀ a : α, (pure a : Handler α).Only good := only_pure
  have hk : ∀ {c : BusinessCall} {k : c.Reply → Handler α}, Presents f wrap c k →
      ∀ reply, (k reply).Only good := by
    intro c k hk reply
    cases reply with
    | error e =>
      obtain ⟨a, ha, -⟩ := hk.failed e
      rw [ha]
      exact hpure a
    | ok v =>
      cases hv : f.present c v with
      | none =>
        obtain ⟨a, ha, -⟩ := hk.hidden v hv
        rw [ha]
        exact hpure a
      | some shown =>
        obtain ⟨a, ha, -⟩ := hk.shown v shown hv
        rw [ha]
        exact hpure a
  induction h with
  | refused a => exact hpure a
  | operation c k hintent _ hpresents =>
    exact only_call.mpr ⟨hgood c hintent, hk hpresents⟩
  | insert record k hintent hpresents =>
    refine only_bind ?_ (hk hpresents)
    refine only_call.mpr ⟨hcheck record, fun reply => ?_⟩
    cases reply with
    | error e => exact only_pure _
    | ok u => exact only_call.mpr ⟨hgood _ hintent, fun _ => only_pure _⟩
  | required id rest k hrest hnone herror _ _ ih =>
    refine only_call.mpr ⟨hobject id, fun reply => ?_⟩
    rcases reply with e | (_ | o)
    · obtain ⟨a, ha, -⟩ := herror e
      change (k (.error e)).Only good
      rw [ha]
      exact hpure a
    · obtain ⟨a, ha, -⟩ := hnone
      change (k (.ok none)).Only good
      rw [ha]
      exact hpure a
    · change (k (.ok (some o))).Only good
      rw [hrest o]
      exact ih

theorem handler_only {readTime : String → Option DateTime} {q : FrontRequest}
    {good : BusinessCall → Prop} (hcheck : ∀ record, good (.check record))
    (hobject : ∀ id, good (.object id)) (hgood : ∀ c, q.intent readTime = some c → good c) :
    (q.handler readTime).Only good := by
  cases q with
  | api request =>
    exact only_bind (only_of_shape (api_shape readTime request) hcheck hobject hgood)
      fun _ => only_pure _
  | cli command now =>
    exact only_bind (only_of_shape (cli_shape command now) hcheck hobject hgood)
      fun _ => only_pure _
  | mcp request now =>
    refine only_bind (only_bind (only_of_shape (mcp_shape request now) hcheck hobject hgood)
      fun result => ?_) fun _ => only_pure _
    cases result with
    | ok value => exact only_pure _
    | error e => exact only_pure _
  | desktop request now =>
    exact only_bind (only_of_shape (desktop_shape request now) hcheck hobject hgood)
      fun _ => only_pure _

/-- A call without faults. -/
def CleanCall (c : BusinessCall) (s : BusinessStore) (reply : c.Reply) (s' : BusinessStore) :
    Prop := Sql.Clean c.operation s reply s'

theorem cleanCall_exists : ∀ (c : BusinessCall) (s : BusinessStore) (r : Register),
    c.FourDigitYears → HoldsRegister s r →
      ∃ s', CleanCall c s (r.answer c).1 s' ∧ HoldsRegister s' (r.answer c).2 := by
  intro c s r hgood hheld
  obtain ⟨s', hclean, hnext⟩ := call_exact hheld c
  exact ⟨s', hclean, hnext hgood⟩

theorem cleanCall_unique : ∀ (c : BusinessCall) (s : BusinessStore) (r : Register)
    (reply : c.Reply) (s' : BusinessStore), c.FourDigitYears → HoldsRegister s r →
      CleanCall c s reply s' → reply = (r.answer c).1 ∧ HoldsRegister s' (r.answer c).2 := by
  intro c s r reply s' hgood hheld hclean
  obtain ⟨m, hexact, hnext⟩ := call_exact hheld c
  obtain ⟨rfl, rfl⟩ := hexact.unique hclean
  exact ⟨rfl, hnext hgood⟩

/-- **A request alone and without faults is answered as the register answers its operation.** It
    runs, and every run of it succeeds exactly where the register grants the request, whichever
    front end took it; then it reports what the register found or wrote; and the store goes on to
    hold what the register holds after the operation, which is what it held if it refuses. -/
theorem front_end_exact (readTime : String → Option DateTime) (q : FrontRequest)
    {s : BusinessStore} {r : Register} (h : HoldsRegister s r)
    (hyears : ∀ c, q.intent readTime = some c → c.FourDigitYears) :
    (∃ calls a s', Exec (· = ·) CleanCall (q.handler readTime) s calls a s') ∧
      ∀ calls a s', Exec (· = ·) CleanCall (q.handler readTime) s calls a s' →
        a.success = r.grants (q.intent readTime) ∧
        (∀ shown, r.shown q.front (q.intent readTime) = some shown → a = shown) ∧
        HoldsRegister s' (r.done (q.intent readTime)) := by
  have hcalls : (q.handler readTime).Only fun c => c.FourDigitYears :=
    handler_only (fun _ => trivial) (fun _ => trivial) hyears
  have hanswers := handler_answersAs readTime q r
  refine ⟨?_, fun calls a s' hrun => ?_⟩
  · obtain ⟨calls, s', hrun⟩ := exec_eval cleanCall_exists hcalls h
    exact ⟨calls, _, s', hrun⟩
  · obtain ⟨rfl, hheld⟩ := exec_eq_eval cleanCall_unique hcalls h hrun
    refine ⟨?_, hanswers.shown, hanswers.register ▸ hheld⟩
    rw [← Register.shown_isSome r q.front]
    cases hshown : r.shown q.front (q.intent readTime) with
    | none => exact hanswers.hidden hshown
    | some shown =>
      have he : _ = shown := hanswers.shown shown hshown
      rw [id] at he
      rw [he]
      exact Register.shown_success hshown

/-- A draft created on the desktop. -/
def sampleDraft : Desktop.CreateLifecycleObjectInput :=
  ⟨"object-1", "campaign", none, "Spring", SortedMap.empty⟩

theorem front_end_exact_sample :
    ∃ calls a s', Exec (· = ·) CleanCall ((FrontRequest.desktop (.createLifecycleObject sampleDraft)
        sampleNow).handler fun _ => none) .initial calls a s' ∧
      a = .desktop (.ok (Desktop.objectEntry (sampleDraft.object sampleNow))) ∧
      HoldsRegister s' (Register.empty.add (.object (sampleDraft.object sampleNow))) := by
  have hnow : NaiveDateTime.FourDigitYear sampleNow := by decide
  obtain ⟨⟨calls, a, s', hrun⟩, hall⟩ := front_end_exact (fun _ => none)
    (.desktop (.createLifecycleObject sampleDraft) sampleNow) held_initial
    (fun c hc => by cases hc; exact ⟨hnow, hnow⟩)
  obtain ⟨-, hshown, hheld⟩ := hall calls a s' hrun
  exact ⟨calls, a, s', hrun, hshown _ rfl, hheld⟩

end MatriXpost
