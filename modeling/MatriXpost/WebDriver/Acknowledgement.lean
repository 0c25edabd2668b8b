/-
  File:      MatriXpost/WebDriver/Acknowledgement.lean
  Subject:   WHAT AN ACKNOWLEDGEMENT IS WORTH: when `Ok` means that the final action caused it.

  A run is told by its observations: each request meets the page as it is at that moment, and the
  transport may lose any of them. `Steady` says that the page does not change what it shows of the
  acknowledgement between a look at it and the action.

  * `Caused`: before the action every acknowledgement was looked for, by a request that reached
    the page, and the page did not show one;
  * a check that lets the action through saw no marker at each selector, or a hidden one
    (`NoneVisible`); a lookup that was lost counts as no marker there;
  * **`acknowledgement_caused_exact`**: a run that returns `Ok` was caused exactly if the platform
    is not Fanqie, which looks at its result script after the action only, and no lookup of a
    success selector before the action was lost.
-/
import MatriXpost.WebDriver.FinalAction

namespace MatriXpost

namespace WebDriver

/-! ## 1. Pages and observations -/

/-- A page at one moment: the elements its selectors find, the answers of its scripts, and what
    it does with everything else. -/
structure Page where
  lookup : String → Option String
  answer : Script → List ScriptArg → Reply
  other : Command → Reply

/-- The reply to a lookup. -/
def lookupReply : Option String → Reply
  | some element => replyOf (.object [(elementKey, .string element)])
  | none => .error "no such element"

/-- The reply to a request that reaches the page. -/
def Page.reply (page : Page) : Command → Reply
  | .findElement _ selector => lookupReply (page.lookup selector)
  | .execute _ script args => page.answer script args
  | c => page.other c

/-- A request, the page it meets, and the error it is lost with, if it is. -/
structure Observation where
  call : Command
  page : Page
  lost : Option String

def Observation.reply (o : Observation) : Reply :=
  match o.lost with
  | some error => .error error
  | none => o.page.reply o.call

def Observation.exchange (o : Observation) : Exchange := ⟨o.call, o.reply⟩

/-- Whether an element is visible, as far as the reply says. -/
def visibleIn (reply : Reply) : Option Bool := (valueOf reply).toOption.bind Json.asBoolean

/-- The page shows what `publish` takes for the acknowledgement of the platform. -/
def Page.Shows (p : PlatformProfile) (page : Page) : Prop :=
  if p.platform = .fanqieVideo then stateIn (page.answer .fanqiePublishResult []) = some "success"
  else ∃ selector ∈ p.success, ∃ element, page.lookup selector = some element ∧
    visibleIn (page.answer .visible [.element element]) = some true

/-- The requests the acknowledgement of a platform is looked for with. -/
def acknowledgedBy (p : PlatformProfile) (session : String) : List Command :=
  if p.platform = .fanqieVideo then [.execute session .fanqiePublishResult []]
  else p.success.map (.findElement session)

/-! ## 2. Before the action -/

/-- What holds of every final action and the observations before it. -/
def AtAction (holds : List Observation → Observation → Prop) (obs : List Observation) : Prop :=
  ∀ pre a post, obs = pre ++ a :: post → a.call.isFinal = true → holds pre a

/-- Nothing a look at the acknowledgement sees changes until the action. -/
def Steady (p : PlatformProfile) : List Observation → Prop :=
  AtAction fun pre a => ∀ o ∈ pre, o.call.isMarker p.success = true →
    o.page.reply o.call = a.page.reply o.call

/-- No lookup of a success selector before the action was lost. -/
def Heard (p : PlatformProfile) : List Observation → Prop :=
  AtAction fun pre _ => ∀ o ∈ pre, ∀ session, ∀ selector ∈ p.success,
    o.call = .findElement session selector → o.lost = none

/-- **The acknowledgement was caused by the action**: before it, every request that could show one
    was made and reached the page, and the page did not show one. -/
def Caused (p : PlatformProfile) (obs : List Observation) : Prop :=
  ∃ pre a post session, obs = pre ++ a :: post ∧ a.call.isFinal = true ∧
    (∀ c ∈ acknowledgedBy p session, ∃ o ∈ pre, o.call = c ∧ o.lost = none) ∧ ¬ a.page.Shows p

theorem Observation.reply_heard {o : Observation} (h : o.lost = none) :
    o.reply = o.page.reply o.call := by
  unfold Observation.reply
  rw [h]

/-- A lookup that reaches the page finds what is there. -/
theorem foundIn_lookupReply (found : Option String) : foundIn (lookupReply found) = found := by
  cases found with
  | none => rfl
  | some element => rfl

/-! ## 3. The check before the action -/

def Command.isLookup : Command → Bool
  | findElement _ _ => true
  | _ => false

/-- The looks of a check that saw no visible marker: each selector finds nothing, or an element
    that is hidden. -/
inductive NoneVisible (session : String) : List String → List Exchange → Prop
  | nil : NoneVisible session [] []
  | absent {selector : String} {rest : List String} {reply : Reply} {es : List Exchange} :
      foundIn reply = none → NoneVisible session rest es →
      NoneVisible session (selector :: rest) (⟨.findElement session selector, reply⟩ :: es)
  | hidden {selector element : String} {rest : List String} {reply answer : Reply}
      {es : List Exchange} :
      foundIn reply = some element → visibleIn answer = some false →
      NoneVisible session rest es →
      NoneVisible session (selector :: rest)
        (⟨.findElement session selector, reply⟩ ::
          ⟨.execute session .visible [.element element], answer⟩ :: es)

section NoneVisible
variable {session : String} {success : List String} {es : List Exchange}

theorem isVisible_answers {element : String} {b : Bool}
    (h : (isVisible session element).Answers es (.ok b)) :
    ∃ answer, es = [⟨.execute session .visible [.element element], answer⟩] ∧
      visibleIn answer = some b := by
  unfold isVisible at h
  obtain ⟨es₁, value, es₂, rfl, hrequest, hrest⟩ := Talk.answers_bind_ok.mp h
  obtain ⟨answer, rfl, hvalue⟩ := request_answers.mp hrequest
  obtain ⟨rfl, hboolean⟩ := Talk.answers_lift.mp hrest
  refine ⟨answer, rfl, ?_⟩
  unfold visibleIn
  rw [← hvalue]
  show value.asBoolean = some b
  unfold boolean at hboolean
  cases hasBoolean : value.asBoolean with
  | none =>
    rw [hasBoolean] at hboolean
    cases hboolean
  | some other =>
    rw [hasBoolean] at hboolean
    cases hboolean
    rfl

/-- **A check that answers `false` looked at every selector.** -/
theorem noneVisible_of_answers (h : (successMarkerVisible session success).Answers es (.ok false)) :
    NoneVisible session success es := by
  induction success generalizing es with
  | nil =>
    obtain ⟨rfl, -⟩ := Talk.answers_pure.mp h
    exact .nil
  | cons selector rest ih =>
    obtain ⟨es₁, found, es₂, rfl, hfind, hrest⟩ := Talk.answers_bind_ok.mp h
    obtain ⟨reply, rfl, hreply⟩ := findOnce_answers.mp hfind
    cases hreply
    cases hfound : foundIn reply with
    | none =>
      rw [hfound] at hrest
      exact .absent hfound (ih hrest)
    | some element =>
      rw [hfound] at hrest
      obtain ⟨es₃, visible, es₄, rfl, hsee, hrest⟩ := Talk.answers_bind_ok.mp hrest
      obtain ⟨answer, rfl, hvisible⟩ := isVisible_answers hsee
      cases visible with
      | true =>
        obtain ⟨-, he⟩ := Talk.answers_pure.mp hrest
        cases he
      | false => exact .hidden hfound hvisible (ih hrest)

/-- The lookups of such a check are those of the selectors, one after the other. -/
theorem NoneVisible.lookups (h : NoneVisible session success es) :
    (es.map fun c => c.call).filter Command.isLookup = success.map (.findElement session) := by
  induction h with
  | nil => rfl
  | absent _ _ ih => exact congrArg (List.cons _) ih
  | hidden _ _ _ ih => exact congrArg (List.cons _) ih

/-- What such a check saw at a selector. -/
theorem NoneVisible.saw (h : NoneVisible session success es) {selector : String}
    (hs : selector ∈ success) :
    ∃ c ∈ es, c.call = .findElement session selector ∧
      ∀ element, foundIn c.reply = some element →
        ∃ v ∈ es, v.call = .execute session .visible [.element element] ∧
          visibleIn v.reply = some false := by
  induction h with
  | nil => exact absurd hs List.not_mem_nil
  | absent hfound _ ih =>
    rcases List.mem_cons.mp hs with rfl | hs
    · refine ⟨_, List.mem_cons_self, rfl, fun element he => ?_⟩
      rw [hfound] at he
      cases he
    · obtain ⟨c, hc, hcall, hsaw⟩ := ih hs
      refine ⟨c, List.mem_cons_of_mem _ hc, hcall, fun element he => ?_⟩
      obtain ⟨v, hv, hvisible⟩ := hsaw element he
      exact ⟨v, List.mem_cons_of_mem _ hv, hvisible⟩
  | hidden hfound hvisible _ ih =>
    rcases List.mem_cons.mp hs with rfl | hs
    · refine ⟨_, List.mem_cons_self, rfl, fun element he => ?_⟩
      rw [hfound] at he
      cases he
      exact ⟨_, List.mem_cons_of_mem _ List.mem_cons_self, rfl, hvisible⟩
    · obtain ⟨c, hc, hcall, hsaw⟩ := ih hs
      refine ⟨c, List.mem_cons_of_mem _ (List.mem_cons_of_mem _ hc), hcall, fun element he => ?_⟩
      obtain ⟨v, hv, hv'⟩ := hsaw element he
      exact ⟨v, List.mem_cons_of_mem _ (List.mem_cons_of_mem _ hv), hv'⟩

/-- **No selector is looked up twice.** -/
theorem NoneVisible.once {obs : List Observation}
    (h : NoneVisible session success (obs.map Observation.exchange)) (hnodup : success.Nodup)
    {o o' : Observation} (ho : o ∈ obs) (ho' : o' ∈ obs) {s s' selector : String}
    (hcall : o.call = .findElement s selector) (hcall' : o'.call = .findElement s' selector) :
    o = o' := by
  have hcalls : (obs.filter fun o => o.call.isLookup).map (fun o => o.call) =
      success.map (.findElement session) := by
    rw [← h.lookups, List.map_map, List.filter_map]
    rfl
  have hin : o ∈ obs.filter fun o => o.call.isLookup :=
    List.mem_filter.mpr ⟨ho, by rw [hcall]; rfl⟩
  have hin' : o' ∈ obs.filter fun o => o.call.isLookup :=
    List.mem_filter.mpr ⟨ho', by rw [hcall']; rfl⟩
  -- Every lookup of the check is one of its own session.
  have hsession : ∀ {o : Observation} {s : String}, (o ∈ obs.filter fun o => o.call.isLookup) →
      o.call = .findElement s selector → o.call = .findElement session selector := by
    intro o s ho hcall
    have hmem : o.call ∈ success.map (.findElement session) := by
      rw [← hcalls]
      exact List.mem_map_of_mem ho
    obtain ⟨other, -, hother⟩ := List.mem_map.mp hmem
    rw [hcall] at hother ⊢
    cases hother
    rfl
  have hunique : ((obs.filter fun o => o.call.isLookup).map fun o => o.call).Nodup := by
    rw [hcalls]
    exact hnodup.map fun a b hab => by cases hab; rfl
  refine List.inj_on_of_nodup_map hunique hin hin' ?_
  rw [hsession hin hcall, hsession hin' hcall']

end NoneVisible

/-! ## 4. The cut of an observed run -/

theorem Issued.isFinal {p : PlatformProfile} {platform : Platform} {draft : Bool} {session : String}
    {before : List Exchange} {c : Command} (h : Issued p platform draft session before c) :
    c.isFinal = true := by
  cases platform with
  | baijiahao =>
    cases h
    rfl
  | toutiao =>
    obtain ⟨layout, -, -, rfl⟩ := h
    rfl
  | kuaishou =>
    cases h
    rfl
  | fanqieVideo =>
    obtain ⟨-, rfl⟩ := h
    rfl
  | douyin =>
    obtain ⟨element, -, rfl⟩ := h
    rfl
  | wechatChannels =>
    obtain ⟨element, -, rfl⟩ := h
    rfl
  | bilibili =>
    obtain ⟨element, -, rfl⟩ := h
    rfl
  | xiaohongshu =>
    obtain ⟨element, -, rfl⟩ := h
    rfl

section Observed
variable {publisher : WebDriverPublisher} {job : Nat} {platform : Platform}
  {request : PublishRequest} {obs : List Observation} {id : String}

/-- **A run that returns `Ok` has one final action**, and before it the requests of a
    publication. -/
theorem observed_cut
    (h : (publish publisher job platform request).Answers (obs.map Observation.exchange) (.ok id)) :
    ∃ (run : Publication publisher.debuggerAddress platform request) (pre : List Observation)
      (a : Observation) (post : List Observation), obs = pre ++ a :: post ∧
      a.call.isFinal = true ∧ pre.map Observation.exchange = run.before ∧
      ∀ pre' a' post', obs = pre' ++ a' :: post' → a'.call.isFinal = true →
        pre = pre' ∧ a = a' := by
  rcases publish_answers h with ⟨⟨e, he⟩, -⟩ | ⟨run, hrun⟩
  · cases he
  obtain ⟨pre, rest, rfl, hpre, hrest⟩ := List.map_eq_append_iff.mp hrun
  obtain ⟨a, post, rfl, ha, hpost⟩ := List.map_eq_cons_iff.mp hrest
  have hfinal : a.call.isFinal = true := by
    have hcall : a.call = run.rest.action.call := by rw [← ha]; rfl
    rw [hcall]
    exact run.rest.issued.isFinal
  have hbefore : ∀ o ∈ pre, ¬ o.call.isFinal = true := by
    intro o ho
    have hquiet := run.before_notFinal o.exchange (by rw [← hpre]; exact List.mem_map_of_mem ho)
    rw [show o.call.isFinal = false from hquiet]
    decide
  have hafter : ∀ o ∈ post, ¬ o.call.isFinal = true := by
    intro o ho
    have hquiet := run.after_notFinal o.exchange (by rw [← hpost]; exact List.mem_map_of_mem ho)
    rw [show o.call.isFinal = false from hquiet]
    decide
  refine ⟨run, pre, a, post, rfl, hfinal, hpre, fun pre' a' post' hcut hfinal' => ?_⟩
  obtain ⟨hpre', ha', -⟩ := cut_unique hbefore hafter hfinal' hcut
  exact ⟨hpre', ha'⟩

/-- The looks at the acknowledgement before the action are those of the check. -/
theorem marker_split {debugger : String} (run : Publication debugger platform request)
    {pre : List Observation} (hpre : pre.map Observation.exchange = run.before) :
    ∃ looks : List Observation, looks.map Observation.exchange = run.rest.check ∧
      (∀ o ∈ looks, o ∈ pre) ∧
      ∀ o ∈ pre, o.call.isMarker run.p.success = true → o ∈ looks := by
  have hp := profile_mem (publishTarget_profile run.target)
  obtain ⟨first, rest, rfl, hfirst, hrest⟩ := List.map_eq_cons_iff.mp hpre
  obtain ⟨prepared, rest, rfl, hprepared, hrest⟩ := List.map_eq_append_iff.mp hrest
  obtain ⟨looks, waited, rfl, hlooks, hwaited⟩ := List.map_eq_append_iff.mp hrest
  have hnone : ∀ {o : Observation} {es : List Exchange}, o.exchange ∈ es →
      (∀ c ∈ es, Quiet run.p.success run.session c.call) →
      o.call.isMarker run.p.success = false :=
    fun ho hquiet => (hquiet _ ho).noMarker
  refine ⟨looks, hlooks, fun o ho => ?_, fun o ho hmarker => ?_⟩
  · exact List.mem_cons_of_mem _ (List.mem_append_right _ (List.mem_append_left _ ho))
  · rcases List.mem_cons.mp ho with rfl | ho
    · have hcall : o.call = .newSession debugger := congrArg Called.call hfirst
      rw [hcall] at hmarker
      cases hmarker
    rcases List.mem_append.mp ho with ho | ho
    · have hquiet := hnone (hprepared ▸ List.mem_map_of_mem ho)
        ((metadata_quiet hp).answers run.metadataDone)
      rw [hquiet] at hmarker
      cases hmarker
    rcases List.mem_append.mp ho with ho | ho
    · exact ho
    · have hquiet := hnone (hwaited ▸ List.mem_map_of_mem ho) run.rest.quiet
      rw [hquiet] at hmarker
      cases hmarker

variable {p : PlatformProfile}

theorem profile_platform (hp : profile platform = some p) : p.platform = platform := by
  obtain ⟨p', hp', hplatform⟩ := profile_isSome platform
  rw [hp] at hp'
  cases hp'
  exact hplatform

/-- A selector's lookup is a look at the acknowledgement. -/
theorem isMarker_lookup {session selector : String} (hs : selector ∈ p.success) :
    (Command.findElement session selector).isMarker p.success = true := decide_eq_true hs

/-- **With every lookup heard**, the check let the action through because the page showed no
    marker. -/
theorem caused_of_heard {session : String} {pre looks : List Observation} {a : Observation}
    {post : List Observation} (hfanqie : p.platform ≠ .fanqieVideo)
    (hfinal : a.call.isFinal = true)
    (hnone : NoneVisible session p.success (looks.map Observation.exchange))
    (hlooks : ∀ o ∈ looks, o ∈ pre)
    (hsteady : ∀ o ∈ pre, o.call.isMarker p.success = true →
      o.page.reply o.call = a.page.reply o.call)
    (hheard : ∀ o ∈ pre, ∀ session, ∀ selector ∈ p.success,
      o.call = .findElement session selector → o.lost = none) :
    Caused p (pre ++ a :: post) := by
  refine ⟨pre, a, post, session, rfl, hfinal, ?_, ?_⟩
  · intro c hc
    unfold acknowledgedBy at hc
    rw [if_neg hfanqie] at hc
    obtain ⟨selector, hs, rfl⟩ := List.mem_map.mp hc
    obtain ⟨e, he, hcall, -⟩ := hnone.saw hs
    obtain ⟨o, ho, rfl⟩ := List.mem_map.mp he
    exact ⟨o, hlooks o ho, hcall, hheard o (hlooks o ho) session selector hs hcall⟩
  · unfold Page.Shows
    rw [if_neg hfanqie]
    intro h
    obtain ⟨selector, hs, element, hfound, hvisible⟩ := h
    obtain ⟨e, he, hcall, hsaw⟩ := hnone.saw hs
    obtain ⟨o, ho, rfl⟩ := List.mem_map.mp he
    have hcall : o.call = .findElement session selector := hcall
    have hpage := hsteady o (hlooks o ho) (by rw [hcall]; exact isMarker_lookup hs)
    have hreply : foundIn o.reply = some element := by
      rw [Observation.reply_heard (hheard o (hlooks o ho) session selector hs hcall), hpage, hcall]
      show foundIn (lookupReply (a.page.lookup selector)) = _
      rw [foundIn_lookupReply, hfound]
    obtain ⟨e', he', hcall', hhidden⟩ := hsaw element hreply
    obtain ⟨v, hv, rfl⟩ := List.mem_map.mp he'
    have hcall' : v.call = .execute session .visible [.element element] := hcall'
    have hhidden : visibleIn v.reply = some false := hhidden
    have hpage' := hsteady v (hlooks v hv) (by rw [hcall']; rfl)
    cases hlost : v.lost with
    | some error =>
      unfold Observation.reply at hhidden
      rw [hlost] at hhidden
      cases hhidden
    | none =>
      rw [Observation.reply_heard hlost, hpage', hcall'] at hhidden
      rw [show a.page.reply (.execute session .visible [.element element]) =
        a.page.answer .visible [.element element] from rfl, hvisible] at hhidden
      cases hhidden

/-- **The law of acknowledgements**, exact: the final action caused what an `Ok` run accepted if
    and only if the platform looks before the action at all, and no such lookup was lost. -/
theorem acknowledgement_caused_exact (hp : profile platform = some p)
    (h : (publish publisher job platform request).Answers (obs.map Observation.exchange) (.ok id))
    (hsteady : Steady p obs) : Caused p obs ↔ platform ≠ .fanqieVideo ∧ Heard p obs := by
  obtain ⟨run, pre, a, post, rfl, hfinal, hpre, hunique⟩ := observed_cut h
  obtain rfl : run.p = p := Option.some.inj ((publishTarget_profile run.target).symm.trans hp)
  have hplatform := profile_platform hp
  obtain ⟨looks, hlooks, hsub, hmarker⟩ := marker_split run hpre
  constructor
  · intro h
    obtain ⟨pre', a', post', session, hcut, hfinal', hchecked, -⟩ := h
    obtain ⟨rfl, rfl⟩ := hunique pre' a' post' hcut hfinal'
    rcases run.rest.checked with ⟨hfanqie, hcheck⟩ | ⟨hfanqie, hcheck⟩
    · -- Fanqie looks at nothing before its action.
      unfold acknowledgedBy at hchecked
      rw [if_pos (hplatform.trans hfanqie)] at hchecked
      obtain ⟨o, ho, hcall, -⟩ := hchecked _ List.mem_cons_self
      have hlook := hmarker o ho (by rw [hcall]; rfl)
      rw [hcheck] at hlooks
      rw [List.map_eq_nil_iff.mp hlooks] at hlook
      exact absurd hlook List.not_mem_nil
    · refine ⟨hfanqie, fun pre' a' post' hcut hfinal' o ho session' selector hs hcall => ?_⟩
      obtain ⟨rfl, rfl⟩ := hunique pre' a' post' hcut hfinal'
      unfold acknowledgedBy at hchecked
      rw [if_neg fun hp => hfanqie (hplatform.symm.trans hp)] at hchecked
      obtain ⟨o', ho', hcall', hlost⟩ := hchecked _ (List.mem_map_of_mem hs)
      have hnone := noneVisible_of_answers hcheck
      rw [← hlooks] at hnone
      have hin := hmarker o ho (by rw [hcall]; exact isMarker_lookup hs)
      have hin' := hmarker o' ho' (by rw [hcall']; exact isMarker_lookup hs)
      have hsame : o = o' := hnone.once (success_nodup (profile_mem hp)) hin hin' hcall hcall'
      rw [hsame]
      exact hlost
  · intro h
    obtain ⟨hfanqie, hheard⟩ := h
    rcases run.rest.checked with ⟨hfanqie', -⟩ | ⟨-, hcheck⟩
    · exact absurd hfanqie' hfanqie
    · have hnone := noneVisible_of_answers hcheck
      rw [← hlooks] at hnone
      have hown : run.p.platform ≠ .fanqieVideo := fun hp => hfanqie (hplatform.symm.trans hp)
      exact caused_of_heard hown hfinal hnone hsub (hsteady pre a post rfl hfinal)
        (hheard pre a post rfl hfinal)

end Observed

/-! ## 5. Runs of a world -/

/-- The observations of a program in a world: the page at each request, and what the request is
    lost with. -/
def observe {α : Type} (world : Nat → Page × Option String) :
    Nat → Prog Command (fun _ => Reply) α → List Observation × α
  | _, .ret a => ([], a)
  | n, .call c k =>
    let o : Observation := ⟨c, (world n).1, (world n).2⟩
    let rest := observe world (n + 1) (k o.reply)
    (o :: rest.1, rest.2)

section Observe
variable {α : Type} {world : Nat → Page × Option String} {p : PlatformProfile} {page : Page}
  {obs : List Observation}

theorem answers_observe (n : Nat) (prog : Prog Command (fun _ => Reply) α) :
    prog.Answers ((observe world n prog).1.map Observation.exchange) (observe world n prog).2 := by
  induction prog generalizing n with
  | ret a => exact MatriXpost.answers_pure.mpr ⟨rfl, rfl⟩
  | call c k ih => exact answers_call.mpr ⟨_, _, rfl, ih _ _⟩

/-- The first observations are of the first moments of the world. -/
theorem mem_observe_take {n count : Nat} {prog : Prog Command (fun _ => Reply) α}
    {o : Observation} (h : o ∈ (observe world n prog).1.take count) :
    ∃ i, i < n + count ∧ o.page = (world i).1 ∧ o.lost = (world i).2 := by
  induction prog generalizing n count with
  | ret a =>
    have hnone : o ∈ ([] : List Observation).take count := h
    rw [List.take_nil] at hnone
    exact absurd hnone List.not_mem_nil
  | call c k ih =>
    cases count with
    | zero => exact absurd h List.not_mem_nil
    | succ count =>
      rcases List.mem_cons.mp h with rfl | h
      · exact ⟨n, by omega, rfl, rfl⟩
      · obtain ⟨i, hi, hworld⟩ := ih _ h
        exact ⟨i, by omega, hworld⟩

theorem mem_observe {n : Nat} {prog : Prog Command (fun _ => Reply) α} {o : Observation}
    (h : o ∈ (observe world n prog).1) : ∃ i, o.page = (world i).1 ∧ o.lost = (world i).2 := by
  rw [← List.take_length (l := (observe world n prog).1)] at h
  obtain ⟨i, -, hworld⟩ := mem_observe_take h
  exact ⟨i, hworld⟩

/-- A page that does not change until the only final action is steady. -/
theorem steady_of_cut {pre post : List Observation} {a : Observation}
    (hobs : obs = pre ++ a :: post) (hpre : ∀ o ∈ pre, ¬ o.call.isFinal = true)
    (hpost : ∀ o ∈ post, ¬ o.call.isFinal = true) (hpages : ∀ o ∈ pre, o.page = a.page) :
    Steady p obs := by
  rintro pre' a' post' hcut hfinal o ho -
  obtain ⟨rfl, rfl, -⟩ := cut_unique hpre hpost hfinal (hobs.symm.trans hcut)
  rw [hpages o ho]

/-- So is one that never changes; if it shows an acknowledgement, nothing caused it. -/
theorem steady_of_constant (h : ∀ o ∈ obs, o.page = page) : Steady p obs := by
  rintro pre a post rfl hfinal o ho hmarker
  rw [h o (List.mem_append_left _ ho), h a (List.mem_append_right _ List.mem_cons_self)]

theorem not_caused_of_constant (h : ∀ o ∈ obs, o.page = page) (hshows : page.Shows p) :
    ¬ Caused p obs := by
  intro h
  obtain ⟨pre, a, post, session, rfl, -, -, hnone⟩ := h
  rw [h a (List.mem_append_right _ List.mem_cons_self)] at hnone
  exact hnone hshows

end Observe

/-- A page that has everything the flows look for, with or without a success marker. -/
def samplePage (marker : Bool) : Page where
  lookup selector :=
    if selector = "[data-e2e='publish-success']" then if marker then some "m" else none
    else if selector = ".publish-success" then none
    else some "e"
  answer script _ :=
    replyOf (match script with
      | .visible => .bool marker
      | .douyinPreviewState | .fanqieOneClickPublishReady => .string "ready"
      | .douyinSavePermissionState | .fanqieChannelsEnable => .string "selected"
      | .fanqieChannelPanelOpen => .string "open"
      | .fanqieOneClickPublish => .string "clicked"
      | .fanqiePublishResult => .string "success"
      | _ => .bool true)
  other c :=
    match c with
    | .newSession _ => replyOf (.object [("sessionId", .string "s")])
    | _ => replyOf .null

/-- The observations of a publication of the sample request. -/
def sampleObs (world : Nat → Page × Option String) (platform : Platform) : List Observation :=
  (observe world 0 (publish samplePublisher 0 platform sampleRequest).run).1

theorem sampleObs_answers {world : Nat → Page × Option String} {platform : Platform} {id : String}
    (h : (observe world 0 (publish samplePublisher 0 platform sampleRequest).run).2 = .ok id) :
    (publish samplePublisher 0 platform sampleRequest).Answers
      ((sampleObs world platform).map Observation.exchange) (.ok id) := by
  rw [← h]
  exact Talk.answers_prog.mp (answers_observe 0 _)

/-- A transport that loses the first lookup of a success selector, at the ninth request. -/
def lossyWorld (n : Nat) : Page × Option String :=
  (samplePage true, if n = 8 then some "timed out" else none)

/-- A page that shows the acknowledgement from the beginning: Fanqie does not look, and a lost
    lookup passes for an absent marker. Both runs return `Ok`. -/
theorem acknowledgement_caused_broken :
    (∃ p obs, profile .fanqieVideo = some p ∧ Steady p obs ∧
      (publish samplePublisher 0 .fanqieVideo sampleRequest).Answers
        (obs.map Observation.exchange) (.ok "webdriver-fqsp-0") ∧ ¬ Caused p obs) ∧
      ∃ p obs, profile .douyin = some p ∧ Steady p obs ∧
        (publish samplePublisher 0 .douyin sampleRequest).Answers
          (obs.map Observation.exchange) (.ok "webdriver-dy-0") ∧ ¬ Caused p obs := by
  constructor
  · have hpage : ∀ o ∈ sampleObs (fun _ => (samplePage true, none)) .fanqieVideo,
        o.page = samplePage true := by
      intro o ho
      obtain ⟨i, hpage, -⟩ := mem_observe ho
      exact hpage
    exact ⟨_, _, rfl, steady_of_constant hpage, sampleObs_answers rfl,
      not_caused_of_constant hpage rfl⟩
  · have hpage : ∀ o ∈ sampleObs lossyWorld .douyin, o.page = samplePage true := by
      intro o ho
      obtain ⟨i, hpage, -⟩ := mem_observe ho
      exact hpage
    exact ⟨_, _, rfl, steady_of_constant hpage, sampleObs_answers rfl,
      not_caused_of_constant hpage
        ⟨"[data-e2e='publish-success']", List.mem_cons_self, "m", rfl, rfl⟩⟩

/-- The page shows its marker after the click, which is the twelfth request. -/
def honestWorld (n : Nat) : Page × Option String := (samplePage (12 ≤ n), none)

theorem acknowledgement_caused_exact_sample :
    ∃ p, profile .douyin = some p ∧ Caused p (sampleObs honestWorld .douyin) := by
  have hcut : sampleObs honestWorld .douyin = (sampleObs honestWorld .douyin).take 11 ++
      ⟨.click "s" "e", samplePage false, none⟩ :: (sampleObs honestWorld .douyin).drop 12 := rfl
  have hanswers : (publish samplePublisher 0 .douyin sampleRequest).Answers
      ((sampleObs honestWorld .douyin).map Observation.exchange) (.ok "webdriver-dy-0") :=
    sampleObs_answers rfl
  obtain ⟨p, hp, -⟩ := profile_isSome .douyin
  refine ⟨p, hp, (acknowledgement_caused_exact hp hanswers ?_).mpr ?_⟩
  · refine steady_of_cut hcut (by decide) (by decide) fun o ho => ?_
    obtain ⟨i, hi, hpage, -⟩ := mem_observe_take ho
    rw [hpage]
    show samplePage (decide (12 ≤ i)) = samplePage false
    rw [decide_eq_false (by omega)]
  · refine ⟨by decide, fun pre a post hobs _ o ho _ _ _ _ => ?_⟩
    obtain ⟨i, -, hlost⟩ := mem_observe (hobs ▸ List.mem_append_left _ ho)
    exact hlost

end WebDriver

end MatriXpost
