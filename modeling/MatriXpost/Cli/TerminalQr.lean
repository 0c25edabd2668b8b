/-
  File:      MatriXpost/Cli/TerminalQr.lean
  Subject:   THE TERMINAL QR LOOP OF THE CLI: it shows a QR code, asks for its state every few
             seconds, and closes the attempt it was given.

  Source: `matrixpost-cli/src/terminal_qr.rs` (`run_terminal_qr_login`, `cancel_attempt`,
  `terminal_outcome_error`).

  The client, the terminal and the clock are called; what they answer is any. The drawing of an
  image is a parameter, which may fail. `Ends` says what holds of a dialogue from any point of the
  loop on; a call put before one that holds keeps it (`Ends.cons`), so each exit of the loop is
  one step (`Ends.cancel`), and the loop is an induction on the refreshes that are left.
-/
import MatriXpost.Lib.Checked
import MatriXpost.Lib.Dialogue
import MatriXpost.Lib.LastGiven
import MatriXpost.Runner.Protocol

namespace MatriXpost.TerminalQr

/-! ## 1. What the loop calls -/

/-- The calls of the loop: the three of `TerminalQrLoginClient`, `write_frame` and `wait`. -/
inductive TerminalQrCall where
  | start
  | refresh (attemptToken : String)
  | cancel (attemptToken : String)
  | writeFrame (frame : String)
  | wait
deriving DecidableEq, Repr

/-- An error is the text of it; none is read. -/
def TerminalQrCall.Reply : TerminalQrCall → Type
  | .start | .refresh _ | .cancel _ => Except String TerminalQrLoginOutcome
  | .writeFrame _ => Except String Unit
  | .wait => Unit

abbrev TerminalQrCalled := Called TerminalQrCall TerminalQrCall.Reply

/-- `ExitCode::from(code)`, with the line `terminal_error` writes to the error stream. -/
structure TerminalExit where
  code : UInt8
  message : String
deriving DecidableEq, Repr

abbrev TerminalQrTask (α : Type) := Talk TerminalQrCall TerminalQrCall.Reply Panic α

def start : TerminalQrTask (Except String TerminalQrLoginOutcome) := Talk.ask TerminalQrCall.start

def refresh (attemptToken : String) : TerminalQrTask (Except String TerminalQrLoginOutcome) :=
  Talk.ask (TerminalQrCall.refresh attemptToken)

def cancel (attemptToken : String) : TerminalQrTask (Except String TerminalQrLoginOutcome) :=
  Talk.ask (TerminalQrCall.cancel attemptToken)

def writeFrame (frame : String) : TerminalQrTask (Except String Unit) :=
  Talk.ask (TerminalQrCall.writeFrame frame)

def wait : TerminalQrTask Unit := Talk.ask TerminalQrCall.wait

/-! ## 2. The loop -/

/-- `MAX_REFRESHES`. -/
def maxRefreshes : Nat := 20

/-- `terminal_error`. -/
def terminalError (code : UInt8) (message : String) : TerminalQrTask TerminalExit :=
  pure ⟨code, "matrixpost: " ++ message⟩

/-- `cancel_attempt`: how the cancel ended is not looked at. -/
def cancelAttempt (attemptToken : String) : TerminalQrTask Unit := do
  let _ ← cancel attemptToken

/-- `terminal_outcome_error`. -/
def terminalOutcomeError (attemptToken : String) (code : UInt8) (message : String) :
    TerminalQrTask TerminalExit := do
  cancelAttempt attemptToken
  terminalError code message

section Loop

-- `render_qr_frame`.
variable (renderQrFrame : String → Except Unit String)

/-- The first half of a round: an image that has come is drawn and shown, which may be the end. -/
def showFrame (attemptToken : String) : Option String → TerminalQrTask (Option TerminalExit)
  | none => pure none
  | some pngBase64 =>
    match renderQrFrame pngBase64 with
    | .error _ => do
      return some (← terminalOutcomeError attemptToken 4
        "local runner returned invalid QR pixels; the attempt was cancelled")
    | .ok frame => do
      match ← writeFrame frame with
      | .error _ =>
        return some (← terminalOutcomeError attemptToken 4
          "terminal QR rendering failed; the attempt was cancelled")
      | .ok _ => return none

/-- The second half: a pause, a refresh, and the `next` round with the attempt it was given. -/
def refreshRound (next : String → Option String → TerminalQrTask TerminalExit)
    (attemptToken : String) : TerminalQrTask TerminalExit := do
  wait
  match ← refresh attemptToken with
  | .ok (.qrAvailable refreshedToken pngBase64) => next refreshedToken (some pngBase64)
  | .ok (.pending refreshedToken) => next refreshedToken none
  | .ok .unavailable =>
    terminalOutcomeError attemptToken 3
      "local runner became unavailable; the QR attempt was cancelled"
  | .ok .rejected | .error _ =>
    terminalOutcomeError attemptToken 4
      "local runner QR refresh failed; the attempt was cancelled"
  | .ok .timedOut | .ok .cancelled =>
    terminalOutcomeError attemptToken 4
      "terminal QR attempt ended; no login success is asserted"

/-- The rounds of the loop, by their indices. -/
def refreshLoop : List Nat → String → Option String → TerminalQrTask TerminalExit
  | [], _, _ => Talk.fail (.unreachable "the bounded refresh loop always returns")
  | refreshIndex :: rest, attemptToken, outcome => do
    match ← showFrame renderQrFrame attemptToken outcome with
    | some exit => pure exit
    | none =>
      if refreshIndex = maxRefreshes then
        terminalOutcomeError attemptToken 4
          "terminal QR attempt timed out; no login success is asserted"
      else refreshRound (refreshLoop rest) attemptToken

/-- `run_terminal_qr_login`. -/
def runTerminalQrLogin : TerminalQrTask TerminalExit := do
  match ← start with
  | .error _ => terminalError 4 "local runner QR request failed; no login success is asserted"
  | .ok (.qrAvailable attemptToken pngBase64) =>
    refreshLoop renderQrFrame (List.range (maxRefreshes + 1)) attemptToken (some pngBase64)
  | .ok (.pending attemptToken) =>
    refreshLoop renderQrFrame (List.range (maxRefreshes + 1)) attemptToken none
  | .ok .unavailable =>
    terminalError 3 "local runner is unavailable; no QR login was attempted"
  | .ok .rejected =>
    terminalError 4 "local runner QR request was rejected; no login success is asserted"
  | .ok .timedOut | .ok .cancelled =>
    terminalError 4 "local QR attempt ended before pixels were available"

end Loop

/-! ## 3. Tokens -/

/-- The token of an available or pending outcome. -/
def attemptOf : Except String TerminalQrLoginOutcome → Option String
  | .ok (.qrAvailable attemptToken _) => some attemptToken
  | .ok (.pending attemptToken) => some attemptToken
  | _ => none

/-- The token a call of the client is answered with. -/
def tokenGiven : TerminalQrCalled → Option String
  | ⟨.start, reply⟩ => attemptOf reply
  | ⟨.refresh _, reply⟩ => attemptOf reply
  | ⟨.cancel _, reply⟩ => attemptOf reply
  | ⟨.writeFrame _, _⟩ => none
  | ⟨.wait, _⟩ => none

/-- The token of the latest available or pending outcome. -/
def latestToken (es : List TerminalQrCalled) : Option String := lastGiven tokenGiven es

/-- The token a call carries. -/
def TerminalQrCall.token : TerminalQrCall → Option String
  | .refresh attemptToken => some attemptToken
  | .cancel attemptToken => some attemptToken
  | _ => none

def TerminalQrCall.isRefresh : TerminalQrCall → Bool
  | .refresh _ => true
  | _ => false

def TerminalQrCall.isCancel : TerminalQrCall → Bool
  | .cancel _ => true
  | _ => false

/-- The refresh calls of a dialogue. -/
def refreshes (es : List TerminalQrCalled) : Nat := es.countP (·.call.isRefresh)

/-- Every refresh and every cancel carries the token of the latest outcome before it; `past` was
    said before the dialogue. -/
def CarriesLatest (past es : List TerminalQrCalled) : Prop :=
  ∀ before c after attemptToken, es = before ++ c :: after → c.call.token = some attemptToken →
    latestToken (past ++ before) = some attemptToken

/-- One cancel, and nothing after it. -/
def CancelledLast (es : List TerminalQrCalled) : Prop :=
  ∃ front c, es = front ++ [c] ∧ c.call.isCancel = true ∧ ∀ b ∈ front, b.call.isCancel = false

/-- An exit, and not with success. -/
def Fails (r : Except Panic TerminalExit) : Prop := ∃ exit, r = .ok exit ∧ exit.code ≠ 0

/-! ## 4. What holds from a point of the loop on -/

/-- A dialogue that follows `past` and makes at most `budget` refreshes. -/
structure Ends (past es : List TerminalQrCalled) (budget : Nat) (r : Except Panic TerminalExit) :
    Prop where
  fails : Fails r
  bounded : refreshes es ≤ budget
  carries : CarriesLatest past es
  cancelled : CancelledLast es

variable {past es : List TerminalQrCalled} {budget : Nat} {r : Except Panic TerminalExit}

/-- A call that carries the latest token may stand before a dialogue that does. -/
theorem CarriesLatest.cons {c : TerminalQrCalled}
    (htoken : ∀ attemptToken, c.call.token = some attemptToken →
      latestToken past = some attemptToken)
    (h : CarriesLatest (past ++ [c]) es) : CarriesLatest past (c :: es) := by
  intro before b after attemptToken hcut hb
  cases before with
  | nil =>
    obtain ⟨rfl, -⟩ := List.cons.inj hcut
    rw [List.append_nil]
    exact htoken attemptToken hb
  | cons first before =>
    obtain ⟨rfl, hrest⟩ := List.cons.inj hcut
    have hlatest := h before b after attemptToken hrest hb
    rwa [List.append_assoc, List.singleton_append] at hlatest

theorem carriesLatest_nil : CarriesLatest past [] := by
  intro before c after attemptToken hcut
  simp at hcut

theorem CancelledLast.cons {c : TerminalQrCalled} (hc : c.call.isCancel = false)
    (h : CancelledLast es) : CancelledLast (c :: es) := by
  obtain ⟨front, last, rfl, hlast, hfront⟩ := h
  refine ⟨c :: front, last, rfl, hlast, ?_⟩
  intro b hb
  rcases List.mem_cons.mp hb with rfl | hb
  · exact hc
  · exact hfront b hb

/-- **One more call before the end.** -/
theorem Ends.cons {c : TerminalQrCalled} {left : Nat} (hc : c.call.isCancel = false)
    (hbudget : left + (if c.call.isRefresh then 1 else 0) ≤ budget)
    (htoken : ∀ attemptToken, c.call.token = some attemptToken →
      latestToken past = some attemptToken)
    (h : Ends (past ++ [c]) es left r) : Ends past (c :: es) budget r where
  fails := h.fails
  bounded := by
    have hleft := h.bounded
    unfold refreshes at hleft ⊢
    rw [List.countP_cons]
    omega
  carries := h.carries.cons htoken
  cancelled := h.cancelled.cons hc

/-- **Every exit of the loop cancels the latest attempt.** -/
theorem Ends.cancel {attemptToken message : String} {code : UInt8}
    (h : (terminalOutcomeError attemptToken code message).Answers es r) (hcode : code ≠ 0)
    (hlatest : latestToken past = some attemptToken) : Ends past es budget r := by
  obtain ⟨e, hcancel, -⟩ | ⟨es₁, u, es₂, rfl, hcancel, hexit⟩ := Talk.answers_bind.mp h
  · obtain ⟨reply, rest, -, hpure⟩ := Talk.answers_ask_bind.mp hcancel
    obtain ⟨-, hr⟩ := Talk.answers_pure.mp hpure
    cases hr
  · obtain ⟨reply, rest, rfl, hpure⟩ := Talk.answers_ask_bind.mp hcancel
    obtain ⟨rfl, -⟩ := Talk.answers_pure.mp hpure
    obtain ⟨rfl, rfl⟩ := Talk.answers_pure.mp hexit
    have hcarried : ∀ token, (TerminalQrCall.cancel attemptToken).token = some token →
        latestToken past = some token := by
      intro token htoken
      rw [← htoken]
      exact hlatest
    exact ⟨⟨_, rfl, hcode⟩, Nat.zero_le _, carriesLatest_nil.cons hcarried,
      [], _, rfl, rfl, fun b hb => absurd hb List.not_mem_nil⟩

/-- A call that is neither of the client's: a frame or a pause. -/
def Quiet (c : TerminalQrCalled) : Prop :=
  c.call.token = none ∧ c.call.isRefresh = false ∧ c.call.isCancel = false ∧ tokenGiven c = none

theorem quiet_writeFrame (frame : String) (reply : Except String Unit) :
    Quiet ⟨.writeFrame frame, reply⟩ := ⟨rfl, rfl, rfl, rfl⟩

theorem latestToken_append_quiet {quiet : List TerminalQrCalled} (h : ∀ c ∈ quiet, Quiet c) :
    latestToken (past ++ quiet) = latestToken past := by
  have hnone : lastGiven tokenGiven quiet = none :=
    lastGiven_eq_none.mpr fun c hc => (h c hc).2.2.2
  unfold latestToken
  rw [lastGiven_append, hnone, Option.none_or]

/-- Quiet calls before a dialogue change nothing of what holds of it. -/
theorem Ends.after_quiet {quiet : List TerminalQrCalled} (hquiet : ∀ c ∈ quiet, Quiet c)
    (h : Ends (past ++ quiet) es budget r) : Ends past (quiet ++ es) budget r := by
  induction quiet generalizing past with
  | nil => simpa using h
  | cons c rest ih =>
    obtain ⟨htoken, hrefresh, hcancel, -⟩ := hquiet c List.mem_cons_self
    have hrest : Ends ((past ++ [c]) ++ rest) es budget r := by
      rwa [List.append_assoc, List.singleton_append]
    have htail := ih (fun b hb => hquiet b (List.mem_cons_of_mem c hb)) hrest
    refine htail.cons hcancel (by simp [hrefresh]) ?_
    intro attemptToken hsome
    rw [htoken] at hsome
    cases hsome

/-! ## 5. A round -/

section Rounds

variable {renderQrFrame : String → Except Unit String} {attemptToken : String}

/-- An exit in the first half of a round is one of `terminalOutcomeError`. -/
theorem exit_in_round {message : String} {shown : Except Panic (Option TerminalExit)}
    (h : (do return some (← terminalOutcomeError attemptToken 4 message) :
      TerminalQrTask (Option TerminalExit)).Answers es shown)
    (hlatest : latestToken past = some attemptToken) :
    ∃ exit, shown = .ok (some exit) ∧ Ends past es budget (.ok exit) := by
  obtain ⟨e, herror, -⟩ | ⟨es₁, exit, es₂, rfl, hcancel, hsome⟩ := Talk.answers_bind.mp h
  · have hends : Ends past es budget (.error e) := Ends.cancel herror (by decide) hlatest
    obtain ⟨exit, hexit, -⟩ := hends.fails
    cases hexit
  · obtain ⟨rfl, rfl⟩ := Talk.answers_pure.mp hsome
    rw [List.append_nil]
    exact ⟨exit, rfl, Ends.cancel hcancel (by decide) hlatest⟩

/-- The first half of a round shows at most a frame, or ends with a cancel. -/
theorem showFrame_answers {outcome : Option String} {shown : Except Panic (Option TerminalExit)}
    (h : (showFrame renderQrFrame attemptToken outcome).Answers es shown)
    (hlatest : latestToken past = some attemptToken) :
    (shown = .ok none ∧ ∀ c ∈ es, Quiet c) ∨
      ∃ exit, shown = .ok (some exit) ∧ Ends past es budget (.ok exit) := by
  cases outcome with
  | none =>
    obtain ⟨rfl, rfl⟩ := Talk.answers_pure.mp h
    exact .inl ⟨rfl, fun c hc => absurd hc List.not_mem_nil⟩
  | some pngBase64 =>
    cases hrender : renderQrFrame pngBase64 with
    | error e =>
      simp only [showFrame, hrender] at h
      exact .inr (exit_in_round h hlatest)
    | ok frame =>
      simp only [showFrame, hrender] at h
      obtain ⟨reply, rest, rfl, hrest⟩ := Talk.answers_ask_bind.mp h
      have hquiet : ∀ c ∈ [(⟨.writeFrame frame, reply⟩ : TerminalQrCalled)], Quiet c := by
        intro c hc
        rw [List.mem_singleton.mp hc]
        exact quiet_writeFrame frame reply
      cases reply with
      | ok u =>
        obtain ⟨rfl, rfl⟩ := Talk.answers_pure.mp hrest
        exact .inl ⟨rfl, hquiet⟩
      | error e =>
        have hlatest' : latestToken (past ++ [⟨.writeFrame frame, .error e⟩]) = some attemptToken :=
          (latestToken_append_quiet hquiet).trans hlatest
        obtain ⟨exit, rfl, hends⟩ := exit_in_round hrest hlatest'
        exact .inr ⟨exit, rfl, hends.after_quiet hquiet⟩

/-- A refresh that gives an attempt makes its token the latest. -/
theorem latestToken_given {c : TerminalQrCalled} {given : String}
    (h : tokenGiven c = some given) : latestToken (past ++ [c]) = some given := by
  unfold latestToken
  rw [lastGiven_concat, h]
  rfl

theorem latestToken_kept {c : TerminalQrCalled} (h : tokenGiven c = none) :
    latestToken (past ++ [c]) = latestToken past := by
  unfold latestToken
  rw [lastGiven_concat, h, Option.none_or]

/-- The second half of a round, where what holds of the `next` one is known. -/
theorem refreshRound_answers {left : Nat}
    {next : String → Option String → TerminalQrTask TerminalExit}
    (hnext : ∀ {token : String} {outcome : Option String} {past es : List TerminalQrCalled}
      {r : Except Panic TerminalExit}, latestToken past = some token →
      (next token outcome).Answers es r → Ends past es left r)
    (hlatest : latestToken past = some attemptToken)
    (h : (refreshRound next attemptToken).Answers es r) : Ends past es (left + 1) r := by
  obtain ⟨u, es₁, rfl, hwaited⟩ := Talk.answers_ask_bind.mp h
  obtain ⟨reply, es₂, rfl, hreplied⟩ := Talk.answers_ask_bind.mp hwaited
  have hpaused : latestToken (past ++ [⟨.wait, u⟩]) = some attemptToken :=
    (latestToken_kept rfl).trans hlatest
  have hrest : Ends ((past ++ [⟨.wait, u⟩]) ++ [⟨.refresh attemptToken, reply⟩]) es₂ left r := by
    cases reply with
    | error e => exact Ends.cancel hreplied (by decide) ((latestToken_kept rfl).trans hpaused)
    | ok outcome =>
      cases outcome with
      | qrAvailable token pngBase64 => exact hnext (latestToken_given rfl) hreplied
      | pending token => exact hnext (latestToken_given rfl) hreplied
      | timedOut => exact Ends.cancel hreplied (by decide) ((latestToken_kept rfl).trans hpaused)
      | cancelled => exact Ends.cancel hreplied (by decide) ((latestToken_kept rfl).trans hpaused)
      | unavailable => exact Ends.cancel hreplied (by decide) ((latestToken_kept rfl).trans hpaused)
      | rejected => exact Ends.cancel hreplied (by decide) ((latestToken_kept rfl).trans hpaused)
  have hrefreshed : Ends (past ++ [⟨.wait, u⟩]) (⟨.refresh attemptToken, reply⟩ :: es₂) (left + 1)
      r := by
    refine hrest.cons rfl (Nat.le_refl _) ?_
    intro token htoken
    rw [← htoken]
    exact hpaused
  exact hrefreshed.cons rfl (Nat.le_refl _) (fun token htoken => nomatch htoken)

/-- A round ends in its first half, or goes on after quiet calls. -/
theorem round_answers {index : Nat} {rest : List Nat} {outcome : Option String}
    (hlatest : latestToken past = some attemptToken)
    (h : (refreshLoop renderQrFrame (index :: rest) attemptToken outcome).Answers es r) :
    Ends past es budget r ∨ ∃ quiet after, es = quiet ++ after ∧ (∀ c ∈ quiet, Quiet c) ∧
      (if index = maxRefreshes then
        terminalOutcomeError attemptToken 4
          "terminal QR attempt timed out; no login success is asserted"
      else refreshRound (refreshLoop renderQrFrame rest) attemptToken).Answers after r := by
  rw [refreshLoop] at h
  obtain ⟨e, hshown, -⟩ | ⟨es₁, shown, es₂, rfl, hshown, hrest⟩ := Talk.answers_bind.mp h
  · obtain ⟨hok, -⟩ | ⟨exit, hok, (_ : Ends past es budget _)⟩ := showFrame_answers hshown hlatest
    · cases hok
    · cases hok
  · obtain ⟨hok, hquiet⟩ | ⟨exit, hok, hends⟩ := showFrame_answers hshown hlatest
    · cases hok
      exact .inr ⟨es₁, es₂, rfl, hquiet, hrest⟩
    · cases hok
      obtain ⟨rfl, rfl⟩ := Talk.answers_pure.mp hrest
      rw [List.append_nil]
      exact .inl hends

/-- **The loop, by induction on the refreshes that are left.** Its last index is the bound, so the
    end of the list is not reached. -/
theorem refreshLoop_answers {left index : Nat} (hleft : index + left = maxRefreshes)
    {outcome : Option String} (hlatest : latestToken past = some attemptToken)
    (h : (refreshLoop renderQrFrame (List.range' index (left + 1)) attemptToken outcome).Answers
      es r) : Ends past es left r := by
  induction left generalizing index past attemptToken outcome es r with
  | zero =>
    rw [List.range'_succ] at h
    obtain hends | ⟨quiet, after, rfl, hquiet, hrest⟩ := round_answers hlatest h
    · exact hends
    · have hlast : index = maxRefreshes := hleft
      rw [if_pos hlast] at hrest
      rw [← latestToken_append_quiet hquiet] at hlatest
      exact (Ends.cancel hrest (by decide) hlatest).after_quiet hquiet
  | succ left ih =>
    have hearly : index ≠ maxRefreshes := by omega
    rw [List.range'_succ] at h
    obtain hends | ⟨quiet, after, rfl, hquiet, hrest⟩ := round_answers hlatest h
    · exact hends
    · rw [if_neg hearly] at hrest
      rw [← latestToken_append_quiet hquiet] at hlatest
      have hround := refreshRound_answers (fun hgiven hnext => ih (by omega) hgiven hnext)
        hlatest hrest
      exact hround.after_quiet hquiet

end Rounds

/-! ## 6. The whole run -/

/-- No cancel at all. -/
def NeverCancels (es : List TerminalQrCalled) : Prop := ∀ c ∈ es, c.call.isCancel = false

/-- **What every dialogue of the command is.** -/
theorem runTerminalQrLogin_answers {renderQrFrame : String → Except Unit String}
    (h : (runTerminalQrLogin renderQrFrame).Answers es r) :
    ∃ reply rest, es = ⟨.start, reply⟩ :: rest ∧
      if (attemptOf reply).isSome then Ends [⟨.start, reply⟩] rest maxRefreshes r
      else rest = [] ∧ Fails r := by
  obtain ⟨reply, rest, rfl, hrest⟩ := Talk.answers_ask_bind.mp h
  have hrange : List.range (maxRefreshes + 1) = List.range' 0 (maxRefreshes + 1) :=
    List.range_eq_range'
  refine ⟨reply, rest, rfl, ?_⟩
  cases reply with
  | error e =>
    obtain ⟨rfl, rfl⟩ := Talk.answers_pure.mp hrest
    exact ⟨rfl, _, rfl, by decide⟩
  | ok outcome =>
    cases outcome with
    | qrAvailable token pngBase64 =>
      rw [hrange] at hrest
      exact refreshLoop_answers (Nat.zero_add _) rfl hrest
    | pending token =>
      rw [hrange] at hrest
      exact refreshLoop_answers (Nat.zero_add _) rfl hrest
    | timedOut =>
      obtain ⟨rfl, rfl⟩ := Talk.answers_pure.mp hrest
      exact ⟨rfl, _, rfl, by decide⟩
    | cancelled =>
      obtain ⟨rfl, rfl⟩ := Talk.answers_pure.mp hrest
      exact ⟨rfl, _, rfl, by decide⟩
    | unavailable =>
      obtain ⟨rfl, rfl⟩ := Talk.answers_pure.mp hrest
      exact ⟨rfl, _, rfl, by decide⟩
    | rejected =>
      obtain ⟨rfl, rfl⟩ := Talk.answers_pure.mp hrest
      exact ⟨rfl, _, rfl, by decide⟩

/-- **Whatever the client, the terminal and the images do, the loop ends**: with an exit that is not
    success, after at most `MAX_REFRESHES` refreshes, each with the latest token; an attempt that
    was given is cancelled once, by the last call, and where none was given nothing is. -/
theorem terminal_qr_loop (renderQrFrame : String → Except Unit String)
    (environment : List TerminalQrCalled → (call : TerminalQrCall) → call.Reply) :
    let played := (runTerminalQrLogin renderQrFrame).run.play environment []
    Fails played.2 ∧ refreshes played.1 ≤ maxRefreshes ∧ CarriesLatest [] played.1 ∧
      if (attemptOf (environment [] .start)).isSome then CancelledLast played.1
      else NeverCancels played.1 := by
  intro played
  have hplayed : (runTerminalQrLogin renderQrFrame).Answers played.1 played.2 :=
    Talk.answers_prog.mp (answers_play environment [] _)
  have hbegins : ∃ rest, played.1 = ⟨.start, environment [] .start⟩ :: rest := ⟨_, rfl⟩
  obtain ⟨rest, hbegins⟩ := hbegins
  obtain ⟨reply, rest', hes, hends⟩ := runTerminalQrLogin_answers hplayed
  obtain ⟨hcalled, rfl⟩ := List.cons.inj (hbegins.symm.trans hes)
  cases hcalled
  rw [hbegins]
  by_cases hattempt : (attemptOf (environment [] .start)).isSome = true
  · rw [if_pos hattempt] at hends ⊢
    have hbounded := hends.bounded
    refine ⟨hends.fails, ?_, hends.carries.cons (fun token htoken => nomatch htoken),
      hends.cancelled.cons rfl⟩
    unfold refreshes at hbounded ⊢
    rw [List.countP_cons]
    exact hbounded
  · rw [if_neg hattempt] at hends ⊢
    obtain ⟨rfl, hfails⟩ := hends
    refine ⟨hfails, Nat.zero_le _,
      carriesLatest_nil.cons (fun token htoken => nomatch htoken), ?_⟩
    intro c hc
    rw [List.mem_singleton.mp hc]
    rfl

end MatriXpost.TerminalQr
