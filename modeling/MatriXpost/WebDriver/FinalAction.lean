/-
  File:      MatriXpost/WebDriver/FinalAction.lean
  Subject:   ONE FINAL ACTION, AFTER THE METADATA, AND FOR A DRAFT A DRAFT.

  A video publication is cut at its final action: the session, the metadata phases, the check of
  the success markers, the wait for the action to be ready, the action, and what follows. The
  metadata phases and the wait are `Quiet`: inside the session, not final, and no look at an
  acknowledgement.

  * `Issued` says which request the action is, for each platform: an element found by the draft
    or submit selectors, or an action script with its argument;
  * `Cut` is the rest of a publication behind its metadata, `Publication` the whole of it; a run
    of `publish` is one, or fails without a final action (`publish_answers`);
  * **`draft_safety`** reads the cut: every draft of Fanqie or Kuaishou is rejected without a
    request, any run issues at most one final action, after the metadata, and the action of a
    draft is a draft's.
-/
import MatriXpost.WebDriver.Sessions
import MatriXpost.Dispatch.Classify

namespace MatriXpost

namespace WebDriver

/-! ## 1. Quiet requests -/

/-- A request that looks at an acknowledgement: a success selector, whether an element is visible,
    or the result of a Fanqie publication. -/
def Command.isMarker (success : List String) : Command → Bool
  | findElement _ selector => selector ∈ success
  | execute _ script _ => script = .visible ∨ script = .fanqiePublishResult
  | _ => false

/-- A request that prepares: nothing final, and no look at an acknowledgement. -/
structure Quiet (success : List String) (session : String) (c : Command) : Prop where
  inside : c.Inside session
  notFinal : c.isFinal = false
  noMarker : c.isMarker success = false

section Quiet
variable {success : List String} {session : String}

theorem prepares_ne {script : Script} (h : script.prepares = true) {other : Script}
    (hother : other.prepares = false) : script ≠ other := by
  rintro rfl
  rw [hother] at h
  cases h

theorem quiet_script (script : Script) (args : List ScriptArg) (h : script.prepares = true) :
    Quiet success session (.execute session script args) := by
  refine ⟨inside_execute script args, decide_eq_false ?_, decide_eq_false ?_⟩
  · intro h
    obtain he | he | he | he := h
    · exact prepares_ne h rfl he
    · exact prepares_ne h rfl he
    · exact prepares_ne h rfl he
    · exact prepares_ne h rfl he
  · intro h
    obtain he | he := h
    · exact prepares_ne h rfl he
    · exact prepares_ne h rfl he

theorem quiet_findElement {selector : String} (h : selector ∉ success) :
    Quiet success session (.findElement session selector) :=
  ⟨inside_findElement selector, rfl, decide_eq_false h⟩

theorem permits_quiet {selectors : List String} (h : ∀ selector ∈ selectors, selector ∉ success) :
    Permits (Quiet success session) session selectors :=
  ⟨fun url => ⟨inside_navigate url, rfl, rfl⟩,
    fun element text => ⟨inside_sendKeys element text, rfl, rfl⟩,
    fun selector hs => quiet_findElement (h selector hs), quiet_script⟩

/-- **The metadata phases are quiet.** -/
theorem metadata_quiet {p : PlatformProfile} (hp : p ∈ profiles) {file : String}
    {product : Option String} {platform : Platform} {request : PublishRequest} :
    (metadata p file product platform request session).Only (Quiet p.success session) :=
  metadata_only (permits_quiet (metadata_selectors hp))

end Quiet

/-! ## 2. Flows of one request -/

/-- Every dialogue of the flow is this one request. -/
def Single {α : Type} (c : Command) (x : Flow α) : Prop :=
  ∀ es r, x.Answers es r → ∃ reply, es = [⟨c, reply⟩]

/-- The flow makes no request. -/
def Silent {α : Type} (x : Flow α) : Prop := ∀ es r, x.Answers es r → es = []

section Single
variable {α β : Type} {c : Command}

theorem silent_lift (r : Except String α) : Silent (Talk.lift r : Flow α) :=
  fun _ _ h => (Talk.answers_lift.mp h).1

theorem single_request : Single c (request c) := by
  intro es r h
  obtain ⟨reply, rfl, -⟩ := request_answers.mp h
  exact ⟨reply, rfl⟩

theorem Single.then {x : Flow α} {f : α → Flow β} (hx : Single c x) (hf : ∀ a, Silent (f a)) :
    Single c (x >>= f) := by
  intro es r h
  rcases Talk.answers_bind.mp h with ⟨e, hfirst, -⟩ | ⟨es₁, a, es₂, rfl, hfirst, hsecond⟩
  · exact hx es _ hfirst
  · obtain ⟨reply, rfl⟩ := hx es₁ _ hfirst
    obtain rfl := hf a es₂ r hsecond
    exact ⟨reply, rfl⟩

theorem single_actionState {states : List String} {invalid session : String} {script : Script}
    {args : List ScriptArg} :
    Single (.execute session script args) (actionState states invalid session script args) := by
  refine single_request.then fun value => ?_
  cases value.asStr with
  | none => exact silent_lift _
  | some state =>
    dsimp only
    by_cases hstate : state ∈ states
    · rw [if_pos hstate]
      exact silent_lift (.ok state)
    · rw [if_neg hstate]
      exact silent_lift _

theorem single_toutiaoFooterValue {session : String} {script : Script} {args : List ScriptArg} :
    Single (.execute session script args) (toutiaoFooterValue session script args) := by
  refine single_request.then fun value => ?_
  cases value.asStr with
  | none => exact silent_lift _
  | some state => exact silent_lift (.ok state)

theorem single_done : Single c (done c) := single_request.then fun _ => silent_lift (.ok ())

end Single

/-! ## 3. What was found and reported -/

/-- A lookup of one of the selectors answered this element. -/
def FoundBy (session : String) (selectors : List String) (es : List Exchange) (element : String) :
    Prop :=
  ∃ c ∈ es, (∃ selector ∈ selectors, c.call = .findElement session selector) ∧
    foundIn c.reply = some element

/-- The state in a reply. -/
def stateIn (reply : Reply) : Option String := (valueOf reply).toOption.bind Json.asStr

/-- The script answered this state. -/
def ReportedBy (session : String) (script : Script) (es : List Exchange) (state : String) : Prop :=
  ∃ c ∈ es, c.call = .execute session script [] ∧ stateIn c.reply = some state

/-- The final action of a platform, after these requests. -/
def Issued (p : PlatformProfile) (platform : Platform) (draft : Bool) (session : String)
    (before : List Exchange) (c : Command) : Prop :=
  match platform with
  | .baijiahao =>
    c = .execute session .baijiahaoAction [.text (if draft then "draft" else "publish")]
  | .toutiao => ∃ layout, ReportedBy session .toutiaoFooterState before layout ∧
      (layout = "horizontal_ready" ∨ layout = "vertical_ready") ∧
      c = .execute session .toutiaoFooterAction [.text (toutiaoAction draft layout)]
  | .kuaishou => c = .execute session .kuaishouAction []
  | .fanqieVideo => (∃ prepared waited, before = prepared ++ waited ∧
      (prepareFanqieVideo session).Answers prepared (.ok ())) ∧
      c = .execute session .fanqieOneClickPublish []
  | _ => ∃ element, FoundBy session (if draft then p.draft else p.submit) before element ∧
      c = .click session element

section Found
variable {session : String} {selectors : List String} {es : List Exchange} {element : String}

theorem FoundBy.append (before : List Exchange) (h : FoundBy session selectors es element) :
    FoundBy session selectors (before ++ es) element := by
  obtain ⟨c, hc, hfound⟩ := h
  exact ⟨c, List.mem_append_right before hc, hfound⟩

theorem findOnce_answers {selector : String} {r : Except String (Option String)} :
    (findOnce session selector).Answers es r ↔
      ∃ reply, es = [⟨.findElement session selector, reply⟩] ∧ r = .ok (foundIn reply) := by
  unfold findOnce
  rw [Talk.answers_bind]
  constructor
  · intro h
    obtain ⟨e, h, rfl⟩ | ⟨es₁, reply, es₂, rfl, h, h₂⟩ := h
    · obtain ⟨reply, -, hreply⟩ := Talk.answers_ask.mp h
      cases hreply
    · obtain ⟨reply', rfl, hreply⟩ := Talk.answers_ask.mp h
      cases hreply
      obtain ⟨rfl, rfl⟩ := Talk.answers_pure.mp h₂
      exact ⟨reply, rfl, rfl⟩
  · intro h
    obtain ⟨reply, rfl, rfl⟩ := h
    exact .inr ⟨_, reply, [], rfl, Talk.answers_ask.mpr ⟨reply, rfl, rfl⟩,
      Talk.answers_pure.mpr ⟨rfl, rfl⟩⟩

theorem findFirst_answers (h : (findFirst session selectors).Answers es (.ok (some element))) :
    FoundBy session selectors es element := by
  induction selectors generalizing es with
  | nil =>
    obtain ⟨-, he⟩ := Talk.answers_pure.mp h
    cases he
  | cons selector rest ih =>
    obtain ⟨es₁, found, es₂, rfl, hfind, hrest⟩ := Talk.answers_bind_ok.mp h
    obtain ⟨reply, rfl, hreply⟩ := findOnce_answers.mp hfind
    cases hreply
    cases hfound : foundIn reply with
    | some other =>
      rw [hfound] at hrest
      obtain ⟨rfl, he⟩ := Talk.answers_pure.mp hrest
      cases he
      exact ⟨_, List.mem_cons_self, ⟨selector, List.mem_cons_self, rfl⟩, hfound⟩
    | none =>
      rw [hfound] at hrest
      obtain ⟨c, hc, ⟨s, hs, hcall⟩, hans⟩ := (ih hrest).append [_]
      exact ⟨c, hc, ⟨s, List.mem_cons_of_mem selector hs, hcall⟩, hans⟩

/-- **What `find` answers was found.** -/
theorem find_answers (h : (find session selectors).Answers es (.ok element)) :
    FoundBy session selectors es element := by
  obtain ⟨before, last, rfl, hturn | hlate⟩ := Talk.answers_poll h
  · exact (findFirst_answers hturn).append before
  · obtain ⟨-, he⟩ := Talk.answers_fail.mp hlate
    cases he

/-- **A wait for a state ends with an accepted one**, the last that was read. -/
theorem waitForState_answers {attempts : Nat} {read : Flow String} {accepted waiting : List String}
    {errors : List (String × String)} {invalid late state : String}
    (h : (waitForState attempts read accepted waiting errors invalid late).Answers es (.ok state)) :
    state ∈ accepted ∧ ∃ before last, es = before ++ last ∧ read.Answers last (.ok state) := by
  obtain ⟨before, last, rfl, hturn | hlate⟩ := Talk.answers_poll h
  · obtain ⟨es₁, answer, es₂, rfl, hread, hrest⟩ := Talk.answers_bind_ok.mp hturn
    by_cases haccepted : answer ∈ accepted
    · rw [if_pos haccepted] at hrest
      obtain ⟨rfl, he⟩ := Talk.answers_pure.mp hrest
      cases he
      exact ⟨haccepted, before, es₁, by rw [List.append_nil], hread⟩
    rw [if_neg haccepted] at hrest
    by_cases hwaiting : answer ∈ waiting
    · rw [if_pos hwaiting] at hrest
      obtain ⟨-, he⟩ := Talk.answers_pure.mp hrest
      cases he
    · rw [if_neg hwaiting] at hrest
      obtain ⟨-, he⟩ := Talk.answers_fail.mp hrest
      cases he
  · obtain ⟨-, he⟩ := Talk.answers_fail.mp hlate
    cases he

theorem toutiaoFooterValue_answers {script : Script} {state : String}
    (h : (toutiaoFooterValue session script []).Answers es (.ok state)) :
    ReportedBy session script es state := by
  unfold toutiaoFooterValue at h
  obtain ⟨es₁, value, es₂, rfl, hrequest, hrest⟩ := Talk.answers_bind_ok.mp h
  obtain ⟨reply, rfl, hvalue⟩ := request_answers.mp hrequest
  have hstate : stateIn reply = value.asStr := by
    unfold stateIn
    rw [← hvalue]
    rfl
  cases hstr : value.asStr with
  | none =>
    rw [hstr] at hrest
    obtain ⟨-, he⟩ := Talk.answers_fail.mp hrest
    cases he
  | some other =>
    rw [hstr] at hrest hstate
    obtain ⟨rfl, he⟩ := Talk.answers_pure.mp hrest
    cases he
    exact ⟨_, List.mem_cons_self, rfl, hstate⟩

end Found

/-! ## 4. The cut at the final action -/

section Issue
variable {p : PlatformProfile} {session : String} {es : List Exchange}

/-- A run that ends with its one final action, or with an error before it. -/
def EndsWith (success : List String) (session : String) (es : List Exchange)
    (r : Except String Unit) (issued : List Exchange → Command → Prop) : Prop :=
  ((∃ e, r = .error e) ∧ ∀ c ∈ es, Quiet success session c.call) ∨
    ∃ before c, es = before ++ [c] ∧ (∀ c ∈ before, Quiet success session c.call) ∧
      issued before c.call

/-- A quiet wait and then one request. -/
theorem issue_answers {α : Type} {x : Flow α} {f : α → Flow Unit} {success : List String}
    {r : Except String Unit} (issue : α → Command) (h : (x >>= f).Answers es r)
    (hx : x.Only (Quiet success session)) (hf : ∀ a, Single (issue a) (f a)) :
    EndsWith success session es r fun before c => ∃ a, x.Answers before (.ok a) ∧ c = issue a := by
  rcases Talk.answers_bind.mp h with ⟨e, hfirst, rfl⟩ | ⟨before, a, last, rfl, hfirst, hlast⟩
  · exact .inl ⟨⟨e, rfl⟩, hx.answers hfirst⟩
  · obtain ⟨reply, rfl⟩ := hf a last r hlast
    exact .inr ⟨before, _, rfl, hx.answers hfirst, a, hfirst, rfl⟩

theorem EndsWith.imp {success : List String} {r : Except String Unit}
    {issued issued' : List Exchange → Command → Prop} (h : EndsWith success session es r issued)
    (himp : ∀ before c, issued before c → issued' before c) :
    EndsWith success session es r issued' := by
  rcases h with hrefused | ⟨before, c, hes, hquiet, hissued⟩
  · exact .inl hrefused
  · exact .inr ⟨before, c, hes, hquiet, himp before c.call hissued⟩

theorem click_answers {success selectors : List String} {r : Except String Unit}
    (hselectors : ∀ selector ∈ selectors, selector ∉ success)
    (h : (click session selectors).Answers es r) :
    EndsWith success session es r fun before c =>
      ∃ element, FoundBy session selectors before element ∧ c = .click session element := by
  unfold click at h
  refine (issue_answers (.click session) h ?_ fun _ => single_done).imp ?_
  · exact find_only fun selector hs => quiet_findElement (hselectors selector hs)
  · rintro before c ⟨element, hfound, rfl⟩
    exact ⟨element, find_answers hfound, rfl⟩

theorem publishBaijiahaoAction_answers {success : List String} {draft : Bool}
    {r : Except String Unit} (h : (publishBaijiahaoAction session draft).Answers es r) :
    EndsWith success session es r fun _ c =>
      c = .execute session .baijiahaoAction [.text (if draft then "draft" else "publish")] := by
  unfold publishBaijiahaoAction at h
  refine (issue_answers (fun _ => .execute session .baijiahaoAction
    [.text (if draft then "draft" else "publish")]) h ?_ fun _ => ?_).imp ?_
  · exact waitForState_only (actionState_only (quiet_script _ _ rfl))
  · exact single_actionState.then fun _ => silent_lift _
  · rintro before c ⟨_, -, rfl⟩
    rfl

theorem publishKuaishouAction_answers {success : List String} {r : Except String Unit}
    (h : (publishKuaishouAction session).Answers es r) :
    EndsWith success session es r fun _ c => c = .execute session .kuaishouAction [] := by
  unfold publishKuaishouAction at h
  refine (issue_answers (fun _ => .execute session .kuaishouAction []) h ?_ fun _ => ?_).imp ?_
  · exact waitForState_only (actionState_only (quiet_script _ _ rfl))
  · exact single_actionState.then fun _ => silent_lift _
  · rintro before c ⟨_, -, rfl⟩
    rfl

/-- Toutiao asks the footer for what its layout has, as the footer itself reported it. -/
theorem publishToutiaoFooter_answers {success : List String} {draft : Bool}
    {r : Except String Unit} (h : (publishToutiaoFooter session draft).Answers es r) :
    EndsWith success session es r fun before c =>
      ∃ layout, ReportedBy session .toutiaoFooterState before layout ∧
        (layout = "horizontal_ready" ∨ layout = "vertical_ready") ∧
        c = .execute session .toutiaoFooterAction [.text (toutiaoAction draft layout)] := by
  have hread : (toutiaoFooterValue session .toutiaoFooterState []).Only
      (Quiet success session) := by
    refine (request_only (quiet_script _ _ rfl)).bind fun value => ?_
    cases value.asStr with
    | some state => exact Talk.only_pure _
    | none => exact Talk.only_fail _
  unfold publishToutiaoFooter at h
  refine (issue_answers (fun layout => .execute session .toutiaoFooterAction
    [.text (toutiaoAction draft layout)]) h ?_ fun layout => ?_).imp ?_
  · exact waitForState_only hread
  · exact single_toutiaoFooterValue.then fun _ => silent_lift _
  · rintro before c ⟨layout, hwait, rfl⟩
    obtain ⟨hlayout, earlier, last, rfl, hlast⟩ := waitForState_answers hwait
    obtain ⟨c, hc, hreported⟩ := toutiaoFooterValue_answers hlast
    refine ⟨layout, ⟨c, List.mem_append_right earlier hc, hreported⟩, ?_, rfl⟩
    rcases List.mem_cons.mp hlayout with hhorizontal | hvertical
    · exact .inl hhorizontal
    · exact .inr (List.mem_singleton.mp hvertical)

/-- **The final action**, cut: refused before it was issued, or issued last, by the rules of its
    platform. -/
theorem finalAction_answers (hp : p ∈ profiles) {platform : Platform} {draft : Bool}
    {r : Except String Unit} (hplatform : platform ≠ .fanqieVideo)
    (h : (finalAction p platform draft session).Answers es r) :
    EndsWith p.success session es r (Issued p platform draft session) := by
  have hselectors : ∀ selector ∈ (if draft then p.draft else p.submit), selector ∉ p.success := by
    intro selector hs
    refine action_selectors hp selector (List.mem_append.mpr ?_)
    cases draft with
    | true => exact .inr hs
    | false => exact .inl hs
  cases platform with
  | baijiahao => exact publishBaijiahaoAction_answers h
  | toutiao => exact publishToutiaoFooter_answers h
  | kuaishou => exact publishKuaishouAction_answers h
  | douyin => exact click_answers hselectors h
  | wechatChannels => exact click_answers hselectors h
  | bilibili => exact click_answers hselectors h
  | xiaohongshu => exact click_answers hselectors h
  | fanqieVideo => exact absurd rfl hplatform

/-- **The one click of Fanqie**, cut. The induction is on the attempts that are left. -/
theorem waitForFanqieOneClickPublish_answers {success : List String} {lastState : String}
    {attempts : Nat} {r : Except String Unit}
    (h : (waitForFanqieOneClickPublish session lastState attempts).Answers es r) :
    EndsWith success session es r fun _ c => c = .execute session .fanqieOneClickPublish [] := by
  have hread : (fanqieActionState session .fanqieOneClickPublishReady).Only
      (Quiet success session) := actionState_only (quiet_script _ _ rfl)
  induction attempts generalizing lastState es with
  | zero =>
    obtain ⟨rfl, rfl⟩ := Talk.answers_fail.mp h
    exact .inl ⟨⟨_, rfl⟩, fun c hc => absurd hc List.not_mem_nil⟩
  | succ attempts ih =>
    rcases Talk.answers_bind.mp h with ⟨e, hstate, rfl⟩ | ⟨es₁, state, es₂, rfl, hstate, hrest⟩
    · exact .inl ⟨⟨e, rfl⟩, hread.answers hstate⟩
    have hquiet := hread.answers hstate
    by_cases hready : state = "ready"
    · rw [if_pos hready] at hrest
      have hissue : Single (.execute session .fanqieOneClickPublish [])
          (clickFanqieOneClickPublish session) :=
        single_actionState.then fun _ => silent_lift _
      obtain ⟨reply, rfl⟩ := hissue es₂ r hrest
      exact .inr ⟨es₁, _, rfl, hquiet, rfl⟩
    rw [if_neg hready] at hrest
    by_cases hwaiting : state = "disabled" ∨ state = "pending"
    · rw [if_pos hwaiting] at hrest
      rcases ih hrest with ⟨herror, hquiet₂⟩ | ⟨before, c, rfl, hquiet₂, hc⟩
      · exact .inl ⟨herror, List.forall_mem_append.mpr ⟨hquiet, hquiet₂⟩⟩
      · exact .inr ⟨es₁ ++ before, c, (List.append_assoc ..).symm,
          List.forall_mem_append.mpr ⟨hquiet, hquiet₂⟩, hc⟩
    · rw [if_neg hwaiting] at hrest
      obtain ⟨rfl, rfl⟩ := Talk.answers_fail.mp hrest
      refine .inl ⟨⟨_, rfl⟩, ?_⟩
      rw [List.append_nil]
      exact hquiet

end Issue

/-! ## 5. The cut of a publication -/

/-- The rest of a publication behind the metadata, cut at its final action. -/
structure Cut (p : PlatformProfile) (platform : Platform) (draft : Bool) (session : String) where
  check : List Exchange
  before : List Exchange
  action : Exchange
  after : List Exchange
  checked : (platform = .fanqieVideo ∧ check = []) ∨
    (platform ≠ .fanqieVideo ∧ (successMarkerVisible session p.success).Answers check (.ok false))
  quiet : ∀ c ∈ before, Quiet p.success session c.call
  issued : Issued p platform draft session before action.call
  notFinal : ∀ c ∈ after, c.call.isFinal = false

def Cut.exchanges {p : PlatformProfile} {platform : Platform} {draft : Bool} {session : String}
    (cut : Cut p platform draft session) : List Exchange :=
  cut.check ++ (cut.before ++ cut.action :: cut.after)

section Cut
variable {p : PlatformProfile} {platform : Platform} {draft : Bool} {session : String}
  {es : List Exchange} {r : Except String Unit}

/-- A last action may be followed by requests that are not final. -/
theorem EndsWith.then {success : List String} {issued : List Exchange → Command → Prop}
    {x y : Flow Unit} (hx : ∀ es r, x.Answers es r → EndsWith success session es r issued)
    (hy : y.Only fun c => c.isFinal = false) (h : (x >>= fun _ => y).Answers es r) :
    ((∃ e, r = .error e) ∧ ∀ c ∈ es, Quiet success session c.call) ∨
      ∃ before c after, es = before ++ c :: after ∧
        (∀ c ∈ before, Quiet success session c.call) ∧ issued before c.call ∧
        ∀ c ∈ after, c.call.isFinal = false := by
  rcases Talk.answers_bind.mp h with ⟨e, hfirst, rfl⟩ | ⟨es₁, _, after, rfl, hfirst, hafter⟩
  · rcases hx es _ hfirst with ⟨-, hquiet⟩ | ⟨before, c, rfl, hquiet, hissued⟩
    · exact .inl ⟨⟨e, rfl⟩, hquiet⟩
    · exact .inr ⟨before, c, [], rfl, hquiet, hissued, fun c hc => absurd hc List.not_mem_nil⟩
  · rcases hx es₁ _ hfirst with ⟨⟨e, he⟩, -⟩ | ⟨before, c, rfl, hquiet, hissued⟩
    · cases he
    · refine .inr ⟨before, c, after, ?_, hquiet, hissued, hy.answers hafter⟩
      rw [List.append_assoc]
      rfl

theorem publishFanqieVideo_answers (h : (publishFanqieVideo session).Answers es r) :
    ((∃ e, r = .error e) ∧ ∀ c ∈ es, Quiet p.success session c.call) ∨
      ∃ cut : Cut p .fanqieVideo draft session, es = cut.exchanges := by
  have hprepare : (prepareFanqieVideo session).Only (Quiet p.success session) :=
    prepareFanqieVideo_only quiet_script
  have hresult : (ignored (waitForFanqieResult session)).Only fun c => c.isFinal = false :=
    ignored_only (waitForState_only (actionState_only rfl))
  unfold publishFanqieVideo at h
  rcases Talk.answers_bind.mp h with ⟨e, hfirst, rfl⟩ | ⟨prepared, _, rest, rfl, hfirst, hrest⟩
  · exact .inl ⟨⟨e, rfl⟩, hprepare.answers hfirst⟩
  have hquiet := hprepare.answers hfirst
  rcases EndsWith.then (fun _ _ => waitForFanqieOneClickPublish_answers) hresult hrest with
    ⟨herror, hwaited⟩ | ⟨waited, c, after, rfl, hwaited, hissued, hafter⟩
  · exact .inl ⟨herror, List.forall_mem_append.mpr ⟨hquiet, hwaited⟩⟩
  · exact .inr ⟨⟨[], prepared ++ waited, c, after, .inl ⟨rfl, rfl⟩,
      List.forall_mem_append.mpr ⟨hquiet, hwaited⟩, ⟨⟨prepared, waited, rfl, hfirst⟩, hissued⟩,
      hafter⟩, (List.append_assoc ..).symm⟩

theorem successMarkerVisible_notFinal :
    (successMarkerVisible session p.success).Only fun c => c.isFinal = false :=
  successMarkerVisible_only (fun _ _ => rfl) fun _ => rfl

/-- **Behind the metadata** nothing final is requested, or the run has a cut. -/
theorem publishAndAcknowledge_answers (hp : p ∈ profiles) {attempts : Nat}
    (h : (publishAndAcknowledge attempts p platform draft session).Answers es r) :
    ((∃ e, r = .error e) ∧ ∀ c ∈ es, c.call.isFinal = false) ∨
      ∃ cut : Cut p platform draft session, es = cut.exchanges := by
  unfold publishAndAcknowledge at h
  by_cases hfanqie : platform = .fanqieVideo
  · rw [if_pos hfanqie] at h
    subst hfanqie
    rcases publishFanqieVideo_answers h with ⟨herror, hquiet⟩ | hcut
    · exact .inl ⟨herror, fun c hc => (hquiet c hc).notFinal⟩
    · exact .inr hcut
  rw [if_neg hfanqie] at h
  rcases Talk.answers_bind.mp h with ⟨e, hcheck, rfl⟩ | ⟨check, visible, rest, rfl, hcheck, hrest⟩
  · exact .inl ⟨⟨e, rfl⟩, successMarkerVisible_notFinal.answers hcheck⟩
  have hchecked := successMarkerVisible_notFinal.answers hcheck
  cases visible with
  | true =>
    obtain ⟨rfl, rfl⟩ := Talk.answers_fail.mp hrest
    refine .inl ⟨⟨_, rfl⟩, ?_⟩
    rw [List.append_nil]
    exact hchecked
  | false =>
    have hwait : (waitForSuccessTransition attempts session p.success
        "post-click success acknowledgement did not become visibly present before deadline").Only
        fun c => c.isFinal = false :=
      waitForSuccessTransition_only (fun _ _ => rfl) fun _ => rfl
    rcases EndsWith.then (fun _ _ => finalAction_answers hp hfanqie) hwait hrest with
      ⟨herror, hquiet⟩ | ⟨before, c, after, rfl, hquiet, hissued, hafter⟩
    · exact .inl ⟨herror, List.forall_mem_append.mpr
        ⟨hchecked, fun c hc => (hquiet c hc).notFinal⟩⟩
    · exact .inr ⟨⟨check, before, c, after, .inr ⟨hfanqie, hcheck⟩, hquiet, hissued, hafter⟩, rfl⟩

end Cut

/-! ## 6. A whole publication -/

/-- A run of `publish` that issued its final action. -/
structure Publication (debugger : String) (platform : Platform) (request : PublishRequest) where
  p : PlatformProfile
  file : String
  product : Option String
  session : String
  opened : Reply
  prepared : List Exchange
  rest : Cut p platform request.draft session
  closed : Reply
  target : publishTarget platform request = .ok (p, file, product)
  isOpen : sessionOf opened = some session
  metadataDone : (metadata p file product platform request session).Answers prepared (.ok ())

/-- What such a run requests up to the action. -/
def Publication.before {debugger : String} {platform : Platform} {request : PublishRequest}
    (run : Publication debugger platform request) : List Exchange :=
  ⟨.newSession debugger, run.opened⟩ :: (run.prepared ++ (run.rest.check ++ run.rest.before))

/-- And after it. -/
def Publication.after {debugger : String} {platform : Platform} {request : PublishRequest}
    (run : Publication debugger platform request) : List Exchange :=
  run.rest.after ++ [⟨.deleteSession run.session, run.closed⟩]

section Publication
variable {publisher : WebDriverPublisher} {job : Nat} {platform : Platform}
  {request : PublishRequest} {es : List Exchange} {r : Except String String}

/-- The profile of a target is the platform's. -/
theorem publishTarget_profile {p : PlatformProfile} {file : String} {product : Option String}
    (h : publishTarget platform request = .ok (p, file, product)) : profile platform = some p := by
  obtain ⟨p', hp', -⟩ := profile_isSome platform
  unfold publishTarget at h
  rw [hp'] at h ⊢
  have hguards : ∀ {file' product'},
      (if platform = .fanqieVideo ∧ request.draft = true then
        .error "Fanqie Video does not support draft publication in the local runner"
      else if platform = .kuaishou ∧ request.draft = true then
        .error "Kuaishou does not support draft publication in the local runner"
      else .ok (p', file', product') : Except String _) = .ok (p, file, product) →
      some p' = some p := by
    intro file' product' hguards
    split at hguards
    · cases hguards
    · split at hguards
      · cases hguards
      · cases hguards
        rfl
  cases hfile : localFile request.source with
  | error e =>
    rw [hfile] at h
    cases h
  | ok file' =>
    rw [hfile] at h
    by_cases hwechat : platform = .wechatChannels
    · simp only [hwechat, ↓reduceIte] at h
      cases hproduct : wechatProductId request with
      | error e =>
        rw [hproduct] at h
        cases h
      | ok product' =>
        rw [hproduct] at h
        subst hwechat
        exact hguards h
    · simp only [hwechat, ↓reduceIte] at h
      exact hguards h

/-- A draft of Fanqie or Kuaishou is no target. -/
theorem publishTarget_draft (hdraft : request.draft = true)
    (hplatform : platform = .fanqieVideo ∨ platform = .kuaishou) :
    ∃ e, publishTarget platform request = .error e := by
  unfold publishTarget
  rw [hdraft]
  cases localFile request.source with
  | error e => rcases hplatform with rfl | rfl <;> exact ⟨e, rfl⟩
  | ok file => rcases hplatform with rfl | rfl <;> exact ⟨_, rfl⟩

/-- **A publication** issues nothing final and fails, or has its cut. -/
theorem publish_answers (h : (publish publisher job platform request).Answers es r) :
    ((∃ e, r = .error e) ∧ ∀ c ∈ es, c.call.isFinal = false) ∨
      ∃ run : Publication publisher.debuggerAddress platform request,
        es = run.before ++ run.rest.action :: run.after := by
  unfold publish at h
  rcases Talk.answers_lift_bind.mp h with ⟨e, -, rfl, rfl⟩ | ⟨⟨p, file, product⟩, htarget, hrest⟩
  · exact .inl ⟨⟨e, rfl⟩, fun c hc => absurd hc List.not_mem_nil⟩
  have hp := profile_mem (publishTarget_profile htarget)
  obtain ⟨r', hframe, hend⟩ := answers_map hrest
  unfold withSession at hframe
  have hfails : ∀ {e : String}, r' = .error e → ∃ e, r = .error e := by
    rintro e rfl
    cases r with
    | error e' => exact ⟨e', rfl⟩
    | ok id =>
      obtain ⟨u, hu⟩ := hend.mp ⟨id, rfl⟩
      cases hu
  rcases Talk.answers_bind.mp hframe with ⟨e, hopen, rfl⟩ | ⟨es₁, session, es₂, rfl, hopen, hin⟩
  · obtain ⟨reply, rfl, -⟩ := session_answers hopen
    exact .inl ⟨hfails rfl, List.forall_mem_singleton.mpr rfl⟩
  obtain ⟨opened, rfl, hopened⟩ := session_answers hopen
  obtain ⟨middle, outcome, last, closing, rfl, hphases, hdelete, rfl⟩ :=
    Talk.answers_withCleanup.mp hin
  obtain ⟨closed, rfl, rfl⟩ := done_answers.mp hdelete
  have hnone : ∀ {e : String}, outcome = .error e → (∀ c ∈ middle, c.call.isFinal = false) →
      (∃ e, r = .error e) ∧ ∀ c ∈ [⟨.newSession publisher.debuggerAddress, opened⟩] ++
        (middle ++ [⟨.deleteSession session, closed⟩]), c.call.isFinal = false := by
    rintro e rfl hmiddle
    refine ⟨hfails rfl, List.forall_mem_append.mpr ⟨List.forall_mem_singleton.mpr rfl, ?_⟩⟩
    exact List.forall_mem_append.mpr ⟨hmiddle, List.forall_mem_singleton.mpr rfl⟩
  rcases Talk.answers_bind.mp hphases with
    ⟨e, hmetadata, hphase⟩ | ⟨prepared, _, rest, rfl, hmetadata, hrest⟩
  · exact .inl (hnone hphase fun c hc => ((metadata_quiet hp).answers hmetadata c hc).notFinal)
  have hprepared : ∀ c ∈ prepared, c.call.isFinal = false :=
    fun c hc => ((metadata_quiet hp).answers hmetadata c hc).notFinal
  rcases publishAndAcknowledge_answers hp hrest with ⟨⟨e, he⟩, hrestQuiet⟩ | ⟨cut, rfl⟩
  · exact .inl (hnone he (List.forall_mem_append.mpr ⟨hprepared, hrestQuiet⟩))
  · refine .inr ⟨⟨p, file, product, session, opened, prepared, cut, closed, htarget,
      hopened.symm, hmetadata⟩, ?_⟩
    simp only [Publication.before, Publication.after, Cut.exchanges, List.append_assoc,
      List.cons_append, List.nil_append]

/-- Nothing before the action is final. -/
theorem Publication.before_notFinal {debugger : String}
    (run : Publication debugger platform request) : ∀ c ∈ run.before, c.call.isFinal = false := by
  have hp := profile_mem (publishTarget_profile run.target)
  have hcheck : ∀ c ∈ run.rest.check, c.call.isFinal = false := by
    rcases run.rest.checked with ⟨-, hnone⟩ | ⟨-, hchecked⟩
    · rw [hnone]
      exact fun c hc => absurd hc List.not_mem_nil
    · exact successMarkerVisible_notFinal.answers hchecked
  refine List.forall_mem_cons.mpr ⟨rfl, List.forall_mem_append.mpr ⟨?_, ?_⟩⟩
  · exact fun c hc => ((metadata_quiet hp).answers run.metadataDone c hc).notFinal
  · exact List.forall_mem_append.mpr ⟨hcheck, fun c hc => (run.rest.quiet c hc).notFinal⟩

theorem Publication.after_notFinal {debugger : String}
    (run : Publication debugger platform request) : ∀ c ∈ run.after, c.call.isFinal = false :=
  List.forall_mem_append.mpr ⟨run.rest.notFinal, List.forall_mem_singleton.mpr rfl⟩

/-- So there is one way to cut the run at a final action. -/
theorem Publication.cut {debugger : String} (run : Publication debugger platform request)
    {before after : List Exchange} {c : Exchange} (hfinal : c.call.isFinal = true)
    (h : run.before ++ run.rest.action :: run.after = before ++ c :: after) :
    run.before = before ∧ run.rest.action = c ∧ run.after = after := by
  have hbefore : ∀ x ∈ run.before, ¬ x.call.isFinal = true := by
    intro x hx
    rw [run.before_notFinal x hx]
    decide
  have hafter : ∀ x ∈ run.after, ¬ x.call.isFinal = true := by
    intro x hx
    rw [run.after_notFinal x hx]
    decide
  exact cut_unique hbefore hafter hfinal h

end Publication

/-! ## 7. Draft safety -/

/-- The action of a draft, after these requests. Only a footer that says it is vertical is asked
    to submit. -/
inductive DraftAction (p : PlatformProfile) (session : String) (before : List Exchange) :
    Platform → Command → Prop
  | baijiahao : DraftAction p session before .baijiahao
      (.execute session .baijiahaoAction [.text "draft"])
  | toutiao : DraftAction p session before .toutiao
      (.execute session .toutiaoFooterAction [.text "draft"])
  | toutiaoVertical : ReportedBy session .toutiaoFooterState before "vertical_ready" →
      DraftAction p session before .toutiao
        (.execute session .toutiaoFooterAction [.text "submit"])
  | clicked {platform : Platform} {element : String} :
      platform ∉ [.baijiahao, .toutiao, .kuaishou, .fanqieVideo] →
      FoundBy session p.draft before element →
      DraftAction p session before platform (.click session element)

/-- The final action of a draft is a draft's, where drafts exist. -/
theorem draftAction_of_issued {p : PlatformProfile} {platform : Platform} {draft : Bool}
    {session : String} {before : List Exchange} {c : Command} (hdraft : draft = true)
    (hfanqie : platform ≠ .fanqieVideo) (hkuaishou : platform ≠ .kuaishou)
    (h : Issued p platform draft session before c) : DraftAction p session before platform c := by
  subst hdraft
  cases platform with
  | baijiahao =>
    cases h
    exact .baijiahao
  | toutiao =>
    obtain ⟨layout, hreported, rfl | rfl, rfl⟩ := h
    · exact .toutiao
    · exact .toutiaoVertical hreported
  | kuaishou => exact absurd rfl hkuaishou
  | fanqieVideo => exact absurd rfl hfanqie
  | douyin =>
    obtain ⟨element, hfound, rfl⟩ := h
    exact .clicked (by decide) hfound
  | wechatChannels =>
    obtain ⟨element, hfound, rfl⟩ := h
    exact .clicked (by decide) hfound
  | bilibili =>
    obtain ⟨element, hfound, rfl⟩ := h
    exact .clicked (by decide) hfound
  | xiaohongshu =>
    obtain ⟨element, hfound, rfl⟩ := h
    exact .clicked (by decide) hfound

/-- **Draft safety.**  Whatever the transport gives for each request of a publication: a draft of
    Fanqie or Kuaishou is rejected and makes none; at most one request is a final action; it
    follows metadata phases that all returned `Ok`, and is the action of its platform; and for a
    draft it is a draft's. -/
theorem draft_safety {publisher : WebDriverPublisher} {job : Nat} {platform : Platform}
    {request : PublishRequest} {es : List Exchange} {r : Except String String}
    (h : (publish publisher job platform request).Answers es r) :
    (request.draft = true → platform = .fanqieVideo ∨ platform = .kuaishou →
        es = [] ∧ ∃ e, r = .error e) ∧
      es.countP (fun c => c.call.isFinal) ≤ 1 ∧
      ∀ before c after, es = before ++ c :: after → c.call.isFinal = true →
        ∃ p file product session opened prepared check waited,
          profile platform = some p ∧
          publishTarget platform request = .ok (p, file, product) ∧
          before = opened :: (prepared ++ (check ++ waited)) ∧
          (metadata p file product platform request session).Answers prepared (.ok ()) ∧
          Issued p platform request.draft session waited c.call ∧
          (request.draft = true → DraftAction p session waited platform c.call) := by
  refine ⟨fun hdraft hplatform => ?_, ?_, ?_⟩
  · obtain ⟨e, he⟩ := publishTarget_draft hdraft hplatform
    unfold publish at h
    rw [he] at h
    rcases Talk.answers_lift_bind.mp h with ⟨text, -, rfl, rfl⟩ | ⟨target, htarget, -⟩
    · exact ⟨rfl, text, rfl⟩
    · cases htarget
  · rcases publish_answers h with ⟨-, hnone⟩ | ⟨run, rfl⟩
    · rw [List.countP_eq_zero.mpr fun c hc => by rw [hnone c hc]; decide]
      exact Nat.zero_le 1
    · have hbefore : run.before.countP (fun c => c.call.isFinal) = 0 :=
        List.countP_eq_zero.mpr fun c hc => by rw [run.before_notFinal c hc]; decide
      have hafter : run.after.countP (fun c => c.call.isFinal) = 0 :=
        List.countP_eq_zero.mpr fun c hc => by rw [run.after_notFinal c hc]; decide
      rw [List.countP_append, List.countP_cons, hbefore, hafter]
      split <;> omega
  · intro before c after hes hfinal
    rcases publish_answers h with ⟨-, hnone⟩ | ⟨run, hrun⟩
    · subst hes
      rw [hnone c (List.mem_append_right before List.mem_cons_self)] at hfinal
      cases hfinal
    obtain ⟨rfl, rfl, -⟩ := run.cut hfinal (hrun.symm.trans hes)
    refine ⟨run.p, run.file, run.product, run.session, _, run.prepared, run.rest.check,
      run.rest.before, publishTarget_profile run.target, run.target, rfl, run.metadataDone,
      run.rest.issued, fun hdraft => ?_⟩
    have hnot : platform ≠ .fanqieVideo ∧ platform ≠ .kuaishou := by
      refine not_or.mp fun hplatform => ?_
      obtain ⟨e, he⟩ := publishTarget_draft hdraft hplatform
      rw [run.target] at he
      cases he
    exact draftAction_of_issued hdraft hnot.1 hnot.2 run.rest.issued

/-- A draft for one target. -/
def sampleDraft : PublishRequest := { sampleRequest with draft := true, targets := [.douyin] }

/-- A Douyin page that is ready, and shows no success. -/
def readyPage : Command → Reply
  | .newSession _ => replyOf (.object [("sessionId", .string "s")])
  | .findElement _ selector =>
    if selector = "[data-e2e='publish-success']" ∨ selector = ".publish-success" then
      .error "no such element"
    else replyOf (.object [("ELEMENT", .string "e")])
  | .execute _ .douyinPreviewState _ => replyOf (.string "ready")
  | .execute _ .douyinSavePermissionState _ => replyOf (.string "selected")
  | _ => replyOf .null

/-- The requests of a publication of the draft there, and their replies. -/
def sampleDraftRun : List Exchange :=
  ((publish samplePublisher 7 .douyin sampleDraft).run.run readyPage).1.map
    fun c => ⟨c, readyPage c⟩

theorem draft_safety_sample :
    ∃ p waited, profile .douyin = some p ∧ waited <:+ sampleDraftRun.take 11 ∧
      DraftAction p "s" waited .douyin (.click "s" "e") := by
  have hcut : sampleDraftRun = sampleDraftRun.take 11 ++
      ⟨.click "s" "e", replyOf .null⟩ :: sampleDraftRun.drop 12 := rfl
  obtain ⟨p, _, _, session, opened, prepared, check, waited, hp, -, hbefore, -, -, haction⟩ :=
    (draft_safety (Talk.answers_run readyPage (publish samplePublisher 7 .douyin sampleDraft))).2.2
      _ _ _ hcut rfl
  have hwaited : waited <:+ sampleDraftRun.take 11 := by
    rw [hbefore]
    exact ⟨opened :: (prepared ++ check), by simp⟩
  have hdraft := haction rfl
  obtain rfl : session = "s" := by
    cases hdraft
    rfl
  exact ⟨p, waited, hp, hwaited, hdraft⟩

end WebDriver

end MatriXpost
