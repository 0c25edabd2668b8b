/-
  File:      MatriXpost/Runner/TerminalQrSessions.lean
  Subject:   THE BROWSER SESSIONS BEHIND THE TABLE OF QR LOGIN ATTEMPTS: none is left open.

  Sources: `service.rs` (`TerminalQrAttempts`, `terminal_qr_login`), `webdriver/terminal_qr.rs`.

  The table's steps that call the browser (to start, to capture, to close) are taken together
  with the attempt's own requests (`Pc.Talks`), and their outcome decides how the client goes on.
  What was requested for each slot is remembered.

  * `SlotLaw`: the requests for a slot are finished sessions, and behind them the session of its
    attempt, if that is open;
  * `QrSystem.Step.keeps`: every step keeps it, and an attempt is open only under an open lease;
  * `QrSystem.Good.goes`: no client waits, whatever the browser answers;
  * `sessions_are_closed`: so in every run no more than four sessions are open, and none is once
    the table is empty and nobody is at work on it.
-/
import MatriXpost.Runner.TerminalQrAccounting
import MatriXpost.WebDriver.TerminalQrAttempt

namespace MatriXpost

open Lease (Phase Event Accounts)
open WebDriver

/-! ## 1. The table and the browser -/

/-- The attempts that were started, by their slots, and what was requested for each. -/
structure QrBrowser where
  attempts : Nat → Option WebDriverTerminalQrAttempt
  requested : Nat → List QrExchange

namespace QrBrowser

def initial : QrBrowser := ⟨fun _ => none, fun _ => []⟩

/-- More was requested for the slot. -/
def request (b : QrBrowser) (slot : Nat) (es : List QrExchange) : QrBrowser :=
  { b with requested := Function.update b.requested slot (b.requested slot ++ es) }

/-- The attempt of the slot is this one now. -/
def keep (b : QrBrowser) (slot : Nat) (attempt : WebDriverTerminalQrAttempt) : QrBrowser :=
  { b with attempts := Function.update b.attempts slot (some attempt) }

/-- The session that is open for the slot. -/
def openSession (b : QrBrowser) (slot : Nat) : Option String :=
  (b.attempts slot).bind WebDriverTerminalQrAttempt.session

end QrBrowser

/-- How a start goes on with its attempt. -/
def afterStart (platform : Platform) (slot : Nat) (attempt : WebDriverTerminalQrAttempt) : Pc :=
  if attempt.platform ≠ platform then .close (.start platform) slot else .capture platform slot

/-- How a start goes on with its capture. -/
def afterCapture (platform : Platform) (slot : Nat) : Except String String → Pc
  | .ok pngBase64 => .insert platform slot pngBase64
  | .error _ => .close (.start platform) slot

/-- How a refresh goes on with its capture. -/
def afterRefresh (platform : Platform) (token : String) (slot : Nat) : Except String String → Pc
  | .ok pngBase64 => .done (some (.qrAvailable terminalQrLoginRunnerProtocolVersion platform token
      pngBase64))
  | .error _ => .close (.refresh (terminalQrRejected platform)) slot

/-- A step that does not call the browser. -/
def Pc.Silent : Pc → Event → Prop
  | .startLogin _ _, _ => False
  | _, .opened _ | _, .used _ | _, .closed _ => False
  | _, _ => True

/-- What a step of the table requests of the browser, and how the outcome goes on. -/
inductive Pc.Talks (publisher : WebDriverPublisher) :
    Pc → Event → Pc → QrBrowser → QrBrowser → Prop
  | starts {platform : Platform} {slot : Nat} {attempt : WebDriverTerminalQrAttempt}
      {es : List QrExchange} {b : QrBrowser} :
      (startTerminalQrLogin publisher platform).Answers es (.ok attempt) →
      Talks publisher (.startLogin platform slot) (.opened slot)
        (afterStart platform slot attempt) b ((b.request slot es).keep slot attempt)
  | startFails {platform : Platform} {slot : Nat} {e : String} {es : List QrExchange}
      {b : QrBrowser} :
      (startTerminalQrLogin publisher platform).Answers es (.error e) →
      Talks publisher (.startLogin platform slot) .quiet (.abandon platform slot) b
        (b.request slot es)
  | captures {platform : Platform} {slot : Nat} {attempt : WebDriverTerminalQrAttempt}
      {es : List QrExchange} {r : Except String String} {b : QrBrowser} :
      b.attempts slot = some attempt → attempt.captureQrPngBase64.Answers es r →
      Talks publisher (.capture platform slot) (.used slot) (afterCapture platform slot r) b
        (b.request slot es)
  | refreshes {platform : Platform} {token : String} {slot : Nat}
      {attempt : WebDriverTerminalQrAttempt} {es : List QrExchange} {r : Except String String}
      {b : QrBrowser} :
      b.attempts slot = some attempt → attempt.captureQrPngBase64.Answers es r →
      Talks publisher (.refresh platform token) (.used slot) (afterRefresh platform token slot r) b
        (b.request slot es)
  | closes {closer : Closer} {slot : Nat} {attempt : WebDriverTerminalQrAttempt}
      {es : List QrExchange} {r : Except String Unit} {b : QrBrowser} :
      b.attempts slot = some attempt → attempt.close.Answers es r →
      Talks publisher (.close closer slot) (.closed slot) (.release closer slot r.isOk) b
        ((b.request slot es).keep slot attempt.closed)
  | silent {pc pc' : Pc} {e : Event} {b : QrBrowser} : pc.Silent e → Talks publisher pc e pc' b b

/-- The table with its clients and tasks, and the browser. -/
structure QrSystem where
  world : QrWorld
  browser : QrBrowser

def QrSystem.initial (lifetime : Nat) : QrSystem := ⟨.initial lifetime, .initial⟩

/-- A client comes, or one of those that are there takes a step, with what it requests. -/
inductive QrSystem.Step (publisher : WebDriverPublisher) : QrSystem → Event → QrSystem → Prop
  | enter {v : QrSystem} (call : QrCall) :
      Step publisher v .quiet
        { v with world := { v.world with threads := v.world.threads ++ [call.pc] } }
  | run {s s' : TerminalQrAttempts} {pc pc' : Pc} {e : Event} {b b' : QrBrowser}
      {spawned before after : List Pc} :
      pc.Step s e s' pc' spawned → pc.Talks publisher e pc' b b' →
      Step publisher ⟨⟨s, before ++ pc :: after⟩, b⟩ e
        ⟨⟨s', before ++ pc' :: after ++ spawned⟩, b'⟩

/-- A step of the table and the browser is one of the table. -/
theorem QrSystem.Step.world {publisher : WebDriverPublisher} {v v' : QrSystem} {e : Event}
    (h : Step publisher v e v') : v.world.Step e v'.world := by
  cases h with
  | enter call => exact .enter call
  | run hstep _ => exact .run hstep

/-- A step of one that spawns nothing, the others standing still. -/
theorem QrSystem.Step.alone {publisher : WebDriverPublisher} {s s' : TerminalQrAttempts}
    {pc pc' : Pc} {e : Event} {b b' : QrBrowser} (before after : List Pc)
    (h : pc.Step s e s' pc' []) (ht : pc.Talks publisher e pc' b b') :
    Step publisher ⟨⟨s, before ++ pc :: after⟩, b⟩ e ⟨⟨s', before ++ pc' :: after⟩, b'⟩ := by
  have hrun : Step publisher ⟨⟨s, before ++ pc :: after⟩, b⟩ e
    ⟨⟨s', before ++ pc' :: after ++ []⟩, b'⟩ := .run h ht
  rwa [List.append_nil] at hrun

/-! ## 2. What was requested for a slot -/

/-- Finished sessions, and behind them the one that is open, if there is one. -/
def SlotLaw (current : Option String) (es : List QrExchange) : Prop :=
  match current with
  | none => Finished es
  | some session => ∃ before last, es = before ++ last ∧ Finished before ∧ OpenSession session last

theorem finished_append {es es' : List QrExchange} (h : Finished es) (h' : Finished es') :
    Finished (es ++ es') := by
  induction h' with
  | nil => rwa [List.append_nil]
  | refused _ hreply ih =>
    rw [← List.append_assoc]
    exact .refused ih hreply
  | deleted _ hopen ih =>
    rw [← List.append_assoc]
    exact .deleted ih hopen

/-- A capture goes on with the session of its attempt, if there is one. -/
theorem slotLaw_capture {attempt : WebDriverTerminalQrAttempt} {es es' : List QrExchange}
    {r : Except String String} (h : SlotLaw attempt.session es)
    (hcapture : attempt.captureQrPngBase64.Answers es' r) :
    SlotLaw attempt.session (es ++ es') := by
  cases hsession : attempt.session with
  | none =>
    rw [capture_closed hsession hcapture, List.append_nil]
    rwa [hsession] at h
  | some session =>
    rw [hsession] at h
    obtain ⟨before, last, rfl, hbefore, hlast⟩ := h
    refine ⟨before, last ++ es', List.append_assoc .., hbefore, ?_⟩
    exact hlast.append ((capture_inside hsession).answers hcapture)

/-- A close finishes the session of its attempt, if there is one. -/
theorem slotLaw_close {attempt : WebDriverTerminalQrAttempt} {es es' : List QrExchange}
    {r : Except String Unit} (h : SlotLaw attempt.session es)
    (hclose : attempt.close.Answers es' r) : SlotLaw none (es ++ es') := by
  have hlaw := close_law hclose
  cases hsession : attempt.session with
  | none =>
    rw [hsession] at h hlaw
    subst hlaw
    rwa [List.append_nil]
  | some session =>
    rw [hsession] at h hlaw
    obtain ⟨reply, rfl⟩ := hlaw
    obtain ⟨before, last, rfl, hbefore, hlast⟩ := h
    rw [List.append_assoc]
    exact .deleted hbefore hlast

/-! ## 3. One step -/

namespace QrBrowser

variable {b : QrBrowser} {slot other : Nat} {es : List QrExchange}
  {attempt : WebDriverTerminalQrAttempt}

theorem request_self : (b.request slot es).requested slot = b.requested slot ++ es :=
  Function.update_self ..

theorem request_other (h : other ≠ slot) :
    (b.request slot es).requested other = b.requested other := Function.update_of_ne h ..

theorem openSession_eq (h : b.attempts slot = some attempt) :
    b.openSession slot = attempt.session := by
  unfold openSession
  rw [h]
  rfl

theorem keep_self : (b.keep slot attempt).openSession slot = attempt.session :=
  openSession_eq (Function.update_self ..)

theorem keep_other (h : other ≠ slot) :
    (b.keep slot attempt).openSession other = b.openSession other := by
  have hattempt : (b.keep slot attempt).attempts other = b.attempts other :=
    Function.update_of_ne h ..
  unfold openSession
  rw [hattempt]

/-- Every slot keeps the law. -/
def Lawful (b : QrBrowser) : Prop := ∀ slot, SlotLaw (b.openSession slot) (b.requested slot)

/-- What is done for one slot leaves the others alone. -/
theorem Lawful.at_slot {c : QrBrowser} (hb : b.Lawful)
    (hothers : ∀ other, other ≠ slot →
      c.openSession other = b.openSession other ∧ c.requested other = b.requested other)
    (h : SlotLaw (c.openSession slot) (c.requested slot)) : c.Lawful := by
  intro other
  by_cases hother : other = slot
  · subst hother
    exact h
  · obtain ⟨hopen, hrequested⟩ := hothers other hother
    rw [hopen, hrequested]
    exact hb other

theorem Lawful.request (hb : b.Lawful) (h : SlotLaw (b.openSession slot) (b.requested slot ++ es)) :
    (b.request slot es).Lawful := by
  refine hb.at_slot (fun other hother => ⟨rfl, request_other hother⟩) ?_
  rw [request_self]
  exact h

theorem Lawful.keep (hb : b.Lawful) (h : SlotLaw attempt.session (b.requested slot ++ es)) :
    ((b.request slot es).keep slot attempt).Lawful := by
  refine hb.at_slot (fun other hother => ⟨keep_other hother, request_other hother⟩) ?_
  rw [keep_self]
  show SlotLaw _ ((b.request slot es).requested slot)
  rw [request_self]
  exact h

end QrBrowser

section Step
variable {publisher : WebDriverPublisher} {pc pc' : Pc} {e : Event} {b b' : QrBrowser}

/-- **What a step requests keeps the law**, if nothing is open where one starts. -/
theorem Pc.Talks.lawful (h : pc.Talks publisher e pc' b b') (hb : b.Lawful)
    (hfree : ∀ platform slot, pc = .startLogin platform slot → b.openSession slot = none) :
    b'.Lawful := by
  cases h with
  | @starts platform slot attempt es _ hstart =>
    obtain ⟨session, rfl, hopen⟩ := startLaw hstart
    have hbefore := hb slot
    rw [hfree platform slot rfl] at hbefore
    exact hb.keep ⟨_, es, rfl, hbefore, hopen⟩
  | @startFails platform slot e es _ hstart =>
    have hfinished : Finished es := startLaw hstart
    have hbefore := hb slot
    rw [hfree platform slot rfl] at hbefore
    refine hb.request ?_
    rw [hfree platform slot rfl]
    exact finished_append hbefore hfinished
  | @captures platform slot attempt es r _ hattempt hcapture
  | @refreshes platform token slot attempt es r _ hattempt hcapture =>
    have hbefore := hb slot
    rw [QrBrowser.openSession_eq hattempt] at hbefore
    refine hb.request ?_
    rw [QrBrowser.openSession_eq hattempt]
    exact slotLaw_capture hbefore hcapture
  | @closes closer slot attempt es r _ hattempt hclose =>
    have hbefore := hb slot
    rw [QrBrowser.openSession_eq hattempt] at hbefore
    exact hb.keep (slotLaw_close hbefore hclose)
  | silent _ => exact hb

/-- A session is opened by a start, and stays open until a close. -/
theorem Pc.Talks.openSession (h : pc.Talks publisher e pc' b b') {slot : Nat} {session : String}
    (hopen : b'.openSession slot = some session) :
    e = .opened slot ∨ b.openSession slot = some session ∧ e ≠ .closed slot := by
  cases h with
  | @starts platform started attempt es _ hstart =>
    by_cases hslot : slot = started
    · exact .inl (congrArg Event.opened hslot.symm)
    · rw [QrBrowser.keep_other hslot] at hopen
      exact .inr ⟨hopen, Event.noConfusion⟩
  | @closes closer taken attempt es r _ hattempt hclose =>
    by_cases hslot : slot = taken
    · subst hslot
      rw [QrBrowser.keep_self] at hopen
      cases hopen
    · rw [QrBrowser.keep_other hslot] at hopen
      refine .inr ⟨hopen, fun he => hslot ?_⟩
      exact (Event.closed.inj he).symm
  | startFails _ | captures _ _ | refreshes _ _ => exact .inr ⟨hopen, Event.noConfusion⟩
  | silent hsilent =>
    refine .inr ⟨hopen, ?_⟩
    rintro rfl
    cases pc <;> exact hsilent

/-- A start gives the attempt of its slot, and none is taken away. -/
theorem Pc.Talks.attempts (h : pc.Talks publisher e pc' b b') {slot : Nat}
    (hslot : e = .opened slot ∨ ∃ attempt, b.attempts slot = some attempt) :
    ∃ attempt, b'.attempts slot = some attempt := by
  have kept {c : QrBrowser} {taken : Nat} {attempt : WebDriverTerminalQrAttempt}
      (hc : taken = slot ∨ ∃ attempt, c.attempts slot = some attempt) :
      ∃ attempt', (c.keep taken attempt).attempts slot = some attempt' := by
    by_cases htaken : slot = taken
    · subst htaken
      exact ⟨attempt, Function.update_self ..⟩
    · obtain ⟨attempt', hattempt⟩ := hc.resolve_left (Ne.symm htaken)
      exact ⟨attempt', (Function.update_of_ne htaken ..).trans hattempt⟩
  cases h with
  | starts _ => exact kept (hslot.imp_left Event.opened.inj)
  | closes _ _ => exact kept (.inr (hslot.resolve_left Event.noConfusion))
  | startFails _ | captures _ _ | refreshes _ _ => exact hslot.resolve_left Event.noConfusion
  | silent hsilent =>
    refine hslot.resolve_left ?_
    rintro rfl
    cases pc <;> exact hsilent

end Step

/-- The accounts of the leases, the law of every slot, that a session is open only under an open
    lease, and that an open lease has its attempt. -/
structure QrSystem.Good (events : List Event) (v : QrSystem) : Prop where
  counted : v.world.Counted
  accounts : Accounts terminalQrMaxActiveAttempts events v.world.ledger
  lawful : v.browser.Lawful
  leased : ∀ slot session, v.browser.openSession slot = some session →
    (slot, Phase.opened) ∈ v.world.ledger.held
  given : ∀ slot, (slot, Phase.opened) ∈ v.world.ledger.held →
    ∃ attempt, v.browser.attempts slot = some attempt

/-- Where a login starts nothing is open. -/
theorem QrSystem.Good.free {events : List Event} {v : QrSystem} (hv : v.Good events)
    {platform : Platform} {slot : Nat} (hpc : .startLogin platform slot ∈ v.world.threads) :
    v.browser.openSession slot = none := by
  have hreserved := QrWorld.held_of_thread hpc (Multiset.mem_singleton_self (slot, Phase.reserved))
  cases hopen : v.browser.openSession slot with
  | none => rfl
  | some session => exact absurd (hv.leased slot session hopen) (hv.accounts.not_opened hreserved)

/-- **Every step of the table and the browser keeps this.** -/
theorem QrSystem.Step.keeps {publisher : WebDriverPublisher} {events : List Event}
    {v v' : QrSystem} {e : Event} (hv : v.Good events) (h : Step publisher v e v') :
    v'.Good (events ++ [e]) := by
  obtain ⟨hlease, hcounted⟩ := QrWorld.Step.lease hv.counted h.world
  have haccounts := Lease.accounts_step hv.accounts hlease
  cases h with
  | enter call =>
    refine ⟨hcounted, haccounts, hv.lawful, fun slot session hopen => ?_, fun slot hslot => ?_⟩
    · exact hlease.opened_stays (hv.leased slot session hopen) Event.noConfusion
    · exact hv.given slot ((hlease.opened_before hslot).resolve_left Event.noConfusion)
  | @run s s' pc pc' e b b' spawned before after hstep htalks =>
    have hlawful : b'.Lawful := by
      refine htalks.lawful hv.lawful fun platform slot hpc => ?_
      subst hpc
      exact hv.free (List.mem_append_right before List.mem_cons_self)
    refine ⟨hcounted, haccounts, hlawful, fun slot session hopen => ?_, fun slot hslot => ?_⟩
    · rcases htalks.openSession hopen with rfl | ⟨hbefore, hclosed⟩
      · exact hlease.opened_mem
      · exact hlease.opened_stays (hv.leased slot session hbefore) hclosed
    · exact htalks.attempts ((hlease.opened_before hslot).imp_right (hv.given slot))

/-! ## 4. Every run -/

theorem trace_keeps {publisher : WebDriverPublisher} {before events : List Event}
    {v v' : QrSystem} (hv : v.Good before) (h : Trace (QrSystem.Step publisher) v events v') :
    v'.Good (before ++ events) := by
  induction h generalizing before with
  | nil => rwa [List.append_nil]
  | @cons _ _ _ e rest hstep _ ih =>
    have hrest := ih (hstep.keeps hv)
    rwa [List.append_assoc] at hrest

theorem system_run {publisher : WebDriverPublisher} {lifetime : Nat} {events : List Event}
    {v : QrSystem} (h : Trace (QrSystem.Step publisher) (.initial lifetime) events v) :
    v.Good events := by
  have hstart : (QrSystem.initial lifetime).Good [] := by
    refine ⟨⟨rfl, fun pc hpc => absurd hpc List.not_mem_nil⟩, Lease.accounts_start _,
      fun _ => .nil, fun slot session hopen => ?_, fun slot hslot => ?_⟩
    · cases hopen
    · exact absurd hslot (Multiset.notMem_zero _)
  exact trace_keeps hstart h

/-- A slot whose requests are not finished is leased, and its attempt is open. -/
theorem QrSystem.Good.held {events : List Event} {v : QrSystem} (hv : v.Good events) {slot : Nat}
    (hslot : ¬ Finished (v.browser.requested slot)) :
    (slot, Phase.opened) ∈ v.world.ledger.held := by
  have hlaw := hv.lawful slot
  cases hopen : v.browser.openSession slot with
  | none =>
    rw [hopen] at hlaw
    exact absurd hlaw hslot
  | some session => exact hv.leased slot session hopen

/-! ## 5. Nobody waits -/

/-- What is requested on the way from one state of the browser to the other is replied to so. -/
def QrBrowser.Replied (reply : QrCommand → Reply) (b b' : QrBrowser) : Prop :=
  ∀ slot, ∃ es, b'.requested slot = b.requested slot ++ es ∧ ∀ c ∈ es, c.reply = reply c.call

/-- The client or task can take its next step, if this is what the browser answers to it. -/
def Pc.Goes (publisher : WebDriverPublisher) (reply : QrCommand → Reply) (s : TerminalQrAttempts)
    (b : QrBrowser) (pc : Pc) : Prop :=
  ∃ e s' pc' b' spawned, pc.Step s e s' pc' spawned ∧ pc.Talks publisher e pc' b b' ∧
    b.Replied reply b'

theorem replied_self {reply : QrCommand → Reply} (b : QrBrowser) : b.Replied reply b :=
  fun _ => ⟨[], (List.append_nil _).symm, fun _ hc => absurd hc List.not_mem_nil⟩

theorem replied_request {α : Type} (reply : QrCommand → Reply) (b : QrBrowser) (slot : Nat)
    (x : QrFlow α) :
    b.Replied reply (b.request slot ((x.run.run reply).1.map fun c => ⟨c, reply c⟩)) := by
  intro other
  by_cases hother : other = slot
  · subst hother
    refine ⟨_, QrBrowser.request_self, fun c hc => ?_⟩
    obtain ⟨command, -, rfl⟩ := List.mem_map.mp hc
    rfl
  · refine ⟨[], ?_, fun c hc => absurd hc List.not_mem_nil⟩
    rw [QrBrowser.request_other hother, List.append_nil]

/-- Tokens to choose from. -/
def someTokens : List String :=
  ['a', 'b', 'c', 'd', 'e'].map fun c => String.ofList (List.replicate 32 c)

/-- The table never has all of them. -/
theorem QrSystem.Good.fresh {events : List Event} {v : QrSystem} (hv : v.Good events) :
    ∃ token, token ∉ v.world.shared.attempts ∧ isAttemptToken token = true := by
  by_contra hall
  have htokens : ∀ token ∈ someTokens, isAttemptToken token = true := by decide
  have hsub : someTokens ⊆ v.world.shared.attempts.keys := by
    intro token htoken
    by_contra hfree
    exact hall ⟨token, hfree, htokens token htoken⟩
  have hlength : v.world.shared.attempts.keys.length = v.world.stored.length := by
    simp [AList.keys, List.keys, QrWorld.stored]
  have hheld : v.world.stored.length ≤ v.world.ledger.held.card := by
    have hslots := congrArg Multiset.card v.world.held_slots
    rw [Multiset.card_map, Multiset.coe_card, List.length_append] at hslots
    omega
  have hfour : v.world.ledger.held.card ≤ 4 := hv.accounts.card_le
  have hnodup : someTokens.Nodup := by decide
  have hfive : 5 ≤ v.world.shared.attempts.keys.length :=
    (List.subperm_of_subset hnodup hsub).length_le
  omega

section Goes
variable {publisher : WebDriverPublisher} {reply : QrCommand → Reply} {s s' : TerminalQrAttempts}
  {b : QrBrowser} {platform : Platform} {slot : Nat} {token : String} {pc pc' : Pc}

theorem goes_silent {e : Event} {spawned : List Pc} (h : pc.Step s e s' pc' spawned)
    (hsilent : pc.Silent e) : pc.Goes publisher reply s b :=
  ⟨e, s', pc', b, spawned, h, .silent hsilent, replied_self b⟩

theorem goes_startLogin : (Pc.startLogin platform slot).Goes publisher reply s b := by
  have hstart := Talk.answers_run reply (startTerminalQrLogin publisher platform)
  have hreplied := replied_request reply b slot (startTerminalQrLogin publisher platform)
  cases hr : ((startTerminalQrLogin publisher platform).run.run reply).2 with
  | ok attempt =>
    rw [hr] at hstart
    exact ⟨_, _, _, _, _, @Pc.Step.startLogin _ _ attempt.platform _, .starts hstart, hreplied⟩
  | error e =>
    rw [hr] at hstart
    exact ⟨_, _, _, _, _, .startLoginFails, .startFails hstart, hreplied⟩

theorem goes_capture {attempt : WebDriverTerminalQrAttempt} (h : b.attempts slot = some attempt) :
    (Pc.capture platform slot).Goes publisher reply s b := by
  have hcapture := Talk.answers_run reply attempt.captureQrPngBase64
  have hreplied := replied_request reply b slot attempt.captureQrPngBase64
  cases hr : (attempt.captureQrPngBase64.run.run reply).2 with
  | ok pngBase64 =>
    rw [hr] at hcapture
    exact ⟨_, _, _, _, _, .capture, .captures h hcapture, hreplied⟩
  | error e =>
    rw [hr] at hcapture
    exact ⟨_, _, _, _, _, .captureFails, .captures h hcapture, hreplied⟩

theorem goes_close {closer : Closer} {attempt : WebDriverTerminalQrAttempt}
    (h : b.attempts slot = some attempt) : (Pc.close closer slot).Goes publisher reply s b :=
  ⟨_, _, _, _, _, .close, .closes h (Talk.answers_run reply attempt.close),
    replied_request reply b slot attempt.close⟩

/-- The section of `refresh`, at what it leaves. -/
theorem refresh_step {captured : Option String} {e : Event}
    (h : refreshSection s platform token 0 captured = (s', e, pc')) :
    Pc.Step s (.refresh platform token) e s' pc' [] := by
  have hstep : Pc.Step s (.refresh platform token)
    (refreshSection s platform token 0 captured).2.1
    (refreshSection s platform token 0 captured).1
    (refreshSection s platform token 0 captured).2.2 [] := .refresh
  rwa [h] at hstep

/-- A refresh captures at most the attempt its token stands for. -/
theorem goes_refresh (h : ∀ record, s.attempts.lookup token = some record →
      ∃ attempt, b.attempts record.attempt = some attempt) :
    (Pc.refresh platform token).Goes publisher reply s b := by
  cases hlookup : s.attempts.lookup token with
  | none =>
    have hsection : refreshSection s platform token 0 none =
        (s, .quiet, .done (some (terminalQrRejected platform))) := by
      simp only [refreshSection, hlookup]
    exact goes_silent (refresh_step hsection) trivial
  | some record =>
    by_cases hplatform : record.platform ≠ platform
    · have hsection : refreshSection s platform token 0 none =
          (s, .quiet, .done (some (terminalQrRejected platform))) := by
        simp only [refreshSection, hlookup, if_pos hplatform]
      exact goes_silent (refresh_step hsection) trivial
    by_cases hexpired : s.isExpired 0 record = true
    · have hsection : refreshSection s platform token 0 none =
          (s.remove token, .quiet, .close (.refresh (.timedOut terminalQrLoginRunnerProtocolVersion
            platform)) record.attempt) := by
        simp only [refreshSection, hlookup, if_neg hplatform, if_pos hexpired]
      exact goes_silent (refresh_step hsection) trivial
    -- the attempt stands: what its capture gives decides
    have hcaptured (pngBase64 : String) : refreshSection s platform token 0 (some pngBase64) =
        (s, .used record.attempt,
          afterRefresh platform token record.attempt (.ok pngBase64)) := by
      simp only [refreshSection, hlookup, if_neg hplatform, if_neg hexpired, afterRefresh]
    have hfailed (e : String) : refreshSection s platform token 0 none =
        (s.remove token, .used record.attempt,
          afterRefresh platform token record.attempt (.error e)) := by
      simp only [refreshSection, hlookup, if_neg hplatform, if_neg hexpired, afterRefresh]
    obtain ⟨attempt, hattempt⟩ := h record hlookup
    have hcapture := Talk.answers_run reply attempt.captureQrPngBase64
    have hreplied := replied_request reply b record.attempt attempt.captureQrPngBase64
    cases hr : (attempt.captureQrPngBase64.run.run reply).2 with
    | ok pngBase64 =>
      rw [hr] at hcapture
      exact ⟨_, _, _, _, _, refresh_step (hcaptured pngBase64),
        .refreshes hattempt hcapture, hreplied⟩
    | error e =>
      rw [hr] at hcapture
      exact ⟨_, _, _, _, _, refresh_step (hfailed e), .refreshes hattempt hcapture, hreplied⟩

/-- **Whoever is not done can go on**, whatever the browser answers. -/
theorem QrSystem.Good.goes {events : List Event} {v : QrSystem} (hv : v.Good events)
    (hpc : pc ∈ v.world.threads) (hdone : ∀ response, pc ≠ .done response) :
    pc.Goes publisher reply v.world.shared v.browser := by
  have given {slot : Nat} (hheld : (slot, Phase.opened) ∈ pc.holds) :
      ∃ attempt, v.browser.attempts slot = some attempt :=
    hv.given slot (QrWorld.held_of_thread hpc hheld)
  cases pc with
  | startLogin platform slot => exact goes_startLogin
  | capture platform slot =>
    obtain ⟨attempt, hattempt⟩ := given (Multiset.mem_singleton_self _)
    exact goes_capture hattempt
  | close closer slot =>
    obtain ⟨attempt, hattempt⟩ := given (Multiset.mem_cons_self _ _)
    exact goes_close hattempt
  | refresh platform token =>
    refine goes_refresh fun record hrecord => hv.given _ (QrWorld.held_of_stored ?_)
    exact List.mem_map.mpr ⟨⟨token, record⟩, AList.mem_lookup_iff.mp hrecord, rfl⟩
  | insert platform slot pngBase64 =>
    obtain ⟨token, hfresh, htoken⟩ := hv.fresh
    exact goes_silent (@Pc.Step.insert _ _ _ 0 _ token hfresh htoken) trivial
  | removeExpired caller =>
    exact goes_silent (@Pc.Step.removeExpired _ _ 0 _ (List.Perm.refl _)) trivial
  | load platform => exact goes_silent .load trivial
  | exchange platform slots => exact goes_silent .exchangeFails trivial
  | schedule token response => exact goes_silent .schedule trivial
  | abandon platform slot => exact goes_silent .abandon trivial
  | cancel platform token => exact goes_silent .cancel trivial
  | expire token => exact goes_silent (@Pc.Step.expire _ _ 0) trivial
  | release closer attempt closed => exact goes_silent .release trivial
  | done response => exact absurd rfl (hdone response)

end Goes

/-! ## 6. The sessions of a run -/

/-- **No browser session is left open.** In every run, whatever the clients do and the browser
    answers: what was requested for a slot is sessions that were deleted, each once and last, and
    behind them the one that is open; no more slots than the table has have an open one; a slot
    that was closed, or that neither the table nor a client has, has none; and whoever is not done
    can go on, whatever the browser answers. -/
theorem sessions_are_closed {publisher : WebDriverPublisher} {lifetime : Nat}
    {events : List Event} {v : QrSystem}
    (h : Trace (QrSystem.Step publisher) (.initial lifetime) events v) :
    (∀ slot, SlotLaw (v.browser.openSession slot) (v.browser.requested slot)) ∧
    (∀ slots : List Nat, slots.Nodup → (∀ slot ∈ slots, ¬ Finished (v.browser.requested slot)) →
      slots.length ≤ terminalQrMaxActiveAttempts) ∧
    (∀ slot, .closed slot ∈ events → Finished (v.browser.requested slot)) ∧
    (∀ slot, slot ∉ v.world.stored → slot ∉ v.world.inFlight → slot ∉ v.world.unreleased →
      Finished (v.browser.requested slot)) ∧
    ∀ reply pc, pc ∈ v.world.threads → (∀ response, pc ≠ .done response) →
      pc.Goes publisher reply v.world.shared v.browser := by
  have hv := system_run h
  refine ⟨hv.lawful, ?_, ?_, ?_, fun reply pc hpc hdone => hv.goes hpc hdone⟩
  · intro slots hnodup hopen
    have hsub : (slots : Multiset Nat) ≤ v.world.ledger.held.map Prod.fst := by
      refine (Multiset.le_iff_subset (Multiset.coe_nodup.mpr hnodup)).mpr fun slot hslot => ?_
      exact Multiset.mem_map_of_mem Prod.fst (hv.held (hopen slot hslot))
    have hcard := Multiset.card_le_card hsub
    rw [Multiset.coe_card, Multiset.card_map] at hcard
    exact hcard.trans hv.accounts.card_le
  · intro slot hclosed
    by_contra hunfinished
    have hword := hv.accounts.held slot _ (hv.held hunfinished)
    have hmem : .closed slot ∈ Lease.history slot events :=
      List.mem_filter.mpr ⟨hclosed, Event.concerns_closed slot⟩
    rw [hword] at hmem
    simp [Phase.word] at hmem
  · intro slot hstored hflight hunreleased
    by_contra hunfinished
    rcases QrWorld.mem_places.mp ⟨_, hv.held hunfinished⟩ with hin | hin | hin
    · exact hstored hin
    · exact hflight hin
    · exact hunreleased hin

/-- A browser that shows a QR code on every page. -/
def sampleBrowser : QrCommand → Reply
  | .web (.newSession _) => replyOf (.object [("sessionId", .string "s")])
  | .findElements _ _ => replyOf (.array [.object [("ELEMENT", .string "qr")]])
  | .screenshot _ _ => replyOf (.string pngPrefixBase64)
  | _ => replyOf .null

def sampleAttempt : WebDriverTerminalQrAttempt := ⟨some "s", .douyin⟩

/-- The requests of a flow to the sample browser. -/
def sampleRequests {α : Type} (x : QrFlow α) : List QrExchange :=
  (x.run.run sampleBrowser).1.map fun c => ⟨c, sampleBrowser c⟩

theorem sample_answers {α : Type} {x : QrFlow α} {r : Except String α}
    (h : (x.run.run sampleBrowser).2 = r) : x.Answers (sampleRequests x) r :=
  h ▸ Talk.answers_run sampleBrowser x

/-- What the sample's client is shown, before another one cancels its attempt. -/
def sampleQrShown : TerminalQrLoginRunnerResponse :=
  .qrAvailable 1 .douyin sampleToken pngPrefixBase64

def sampleOpened : QrBrowser :=
  (QrBrowser.initial.request 0 (sampleRequests (startTerminalQrLogin samplePublisher .douyin))).keep
    0 sampleAttempt

def sampleCaptured : QrBrowser :=
  sampleOpened.request 0 (sampleRequests sampleAttempt.captureQrPngBase64)

def sampleClosed : QrSystem where
  world := ⟨(sampleStored.remove sampleToken).releaseSlot,
    [.done (some sampleQrShown), .expire sampleToken, .done (some (.cancelled 1 .douyin))]⟩
  browser := (sampleCaptured.request 0 (sampleRequests sampleAttempt.close)).keep 0
    sampleAttempt.closed

theorem sampleOpened_run : Trace (QrSystem.Step samplePublisher) (.initial 900) sampleStart
    ⟨⟨sampleStored, [.done (some sampleQrShown), .expire sampleToken]⟩, sampleCaptured⟩ := by
  have hstart : (startTerminalQrLogin samplePublisher .douyin).Answers
      (sampleRequests (startTerminalQrLogin samplePublisher .douyin)) (.ok sampleAttempt) :=
    sample_answers (by decide)
  have hcapture : sampleAttempt.captureQrPngBase64.Answers
      (sampleRequests sampleAttempt.captureQrPngBase64) (.ok pngPrefixBase64) :=
    sample_answers (by decide)
  refine .cons (.enter (.start .douyin)) ?_
  refine .cons (.alone [] [] (@Pc.Step.removeExpired _ _ 0 [] (.refl [])) (.silent trivial)) ?_
  refine .cons (.alone [] [] .load (.silent trivial)) ?_
  refine .cons (.alone [] [] .exchange (.silent trivial)) ?_
  refine .cons (.alone [] [] (@Pc.Step.startLogin _ _ .douyin _) (.starts hstart)) ?_
  refine .cons (.alone [] [] .capture (.captures (b := sampleOpened) rfl hcapture)) ?_
  refine .cons (.alone [] [] (@Pc.Step.insert _ _ _ 7 _ sampleToken ?_ (by decide))
    (.silent trivial)) ?_
  · exact AList.notMem_empty sampleToken
  · exact .single (@QrSystem.Step.run _ _ _ _ _ _ _ _ _ [] [] .schedule (.silent trivial))

theorem sampleClosed_run : Trace (QrSystem.Step samplePublisher)
    ⟨⟨sampleStored, [.done (some sampleQrShown), .expire sampleToken]⟩, sampleCaptured⟩ sampleCancel
    sampleClosed := by
  have hlookup : sampleStored.attempts.lookup sampleToken = some ⟨.douyin, 7, 0⟩ :=
    AList.lookup_insert _
  have hsection : cancelSection sampleStored .douyin sampleToken =
      (sampleStored.remove sampleToken, .close (.cancel .douyin) 0) := by
    simp only [cancelSection, hlookup, if_true]
  have hcancel : Pc.Step sampleStored (.cancel .douyin sampleToken) .quiet
    (cancelSection sampleStored .douyin sampleToken).1
    (cancelSection sampleStored .douyin sampleToken).2 [] := .cancel
  rw [hsection] at hcancel
  have hclose : sampleAttempt.close.Answers (sampleRequests sampleAttempt.close) (.ok ()) :=
    sample_answers (by decide)
  refine .cons (.enter (.cancel .douyin sampleToken)) ?_
  refine .cons (.alone [.done (some sampleQrShown), .expire sampleToken] [] hcancel
    (.silent trivial)) ?_
  refine .cons (.alone [.done (some sampleQrShown), .expire sampleToken] [] .close
    (.closes (b := sampleCaptured) rfl hclose)) ?_
  exact .single (.alone [.done (some sampleQrShown), .expire sampleToken] [] .release
    (.silent trivial))

theorem sessions_are_closed_sample : Finished (sampleClosed.browser.requested 0) ∧
    (sampleClosed.browser.requested 0).map (fun c => c.call.method) =
      ["POST", "POST", "POST", "GET", "POST", "GET", "DELETE"] :=
  ⟨(sessions_are_closed (sampleOpened_run.append sampleClosed_run)).2.2.1 0 (by decide),
    by decide⟩

end MatriXpost
