/-
  File:      MatriXpost/Runner/TerminalQrAttempts.lean
  Subject:   THE RUNNER'S TABLE OF QR LOGIN ATTEMPTS, and the calls that race on it.

  Source: `service.rs` (`TerminalQrAttempts`, `terminal_qr_login`).

  Every mutex section and every atomic operation is one step, and so is every call of the browser
  (to start, to capture, to close); any number of clients and expiry tasks take them in any order
  (`QrWorld.Step`). The clock, the tokens and what the browser answers are arbitrary. The lock is
  not poisoned: no section panics.

  A slot is named by the number of its reservation, which the source does not keep
  (`TerminalQrAttempts.reservations`); an attempt is named by the slot it was started under.
  `refreshSection_outcome`, `cancelSection_outcome` and `expirySection_outcome` say once what each
  section can do.
-/
import MatriXpost.Core.Domain
import MatriXpost.Lib.Lease
import Mathlib.Data.List.AList

namespace MatriXpost

/-! ## 1. Records and responses -/

/-- `TERMINAL_QR_MAX_ACTIVE_ATTEMPTS`. -/
def terminalQrMaxActiveAttempts : Nat := 4

/-- `TERMINAL_QR_LOGIN_RUNNER_PROTOCOL_VERSION`. -/
def terminalQrLoginRunnerProtocolVersion : Nat := 1

/-- `TerminalQrLoginRunnerResponse`. -/
inductive TerminalQrLoginRunnerResponse
  | qrAvailable (version : Nat) (platform : Platform) (attemptToken pngBase64 : String)
  | pending (version : Nat) (platform : Platform) (attemptToken : String)
  | timedOut (version : Nat) (platform : Platform)
  | cancelled (version : Nat) (platform : Platform)
  | unavailable (version : Nat) (platform : Platform)
  | rejected (version : Nat) (platform : Platform)
deriving DecidableEq, Repr

/-- `terminal_qr_rejected`. -/
def terminalQrRejected (platform : Platform) : TerminalQrLoginRunnerResponse :=
  .rejected terminalQrLoginRunnerProtocolVersion platform

structure TerminalQrAttemptRecord where
  platform : Platform
  createdAt : Nat
  /-- The login attempt, by the slot it was started under. -/
  attempt : Nat
deriving DecidableEq, Repr

/-- `TerminalQrAttempts`: the counter, the lifetime and the map behind the lock. -/
structure TerminalQrAttempts where
  reservedSlots : Nat
  lifetime : Nat
  attempts : AList fun _ : String => TerminalQrAttemptRecord
  /-- How many reservations there were: the name of the next one. -/
  reservations : Nat

namespace TerminalQrAttempts

/-- `with_lifetime`. -/
def withLifetime (lifetime : Nat) : TerminalQrAttempts := ⟨0, lifetime, ∅, 0⟩

/-- `now.duration_since(record.created_at) >= self.lifetime`, which is also `elapsed()`: a clock
    that stands before the creation counts as no time. -/
def isExpired (s : TerminalQrAttempts) (now : Nat) (record : TerminalQrAttemptRecord) : Bool :=
  s.lifetime ≤ now - record.createdAt

/-- `attempts.remove(token)`. -/
def remove (s : TerminalQrAttempts) (token : String) : TerminalQrAttempts :=
  { s with attempts := s.attempts.erase token }

/-- `tokens.into_iter().filter_map(|token| attempts.remove(&token)).collect()`. -/
def removeAll : List String → TerminalQrAttempts → List TerminalQrAttemptRecord × TerminalQrAttempts
  | [], s => ([], s)
  | token :: tokens, s =>
    match s.attempts.lookup token with
    | none => removeAll tokens s
    | some record =>
      let removed := removeAll tokens (s.remove token)
      (record :: removed.1, removed.2)

/-- The tokens `remove_expired` collects, in some order of the map. -/
def expiredTokens (s : TerminalQrAttempts) (now : Nat) : List String :=
  (s.attempts.entries.filter fun e => s.isExpired now e.2).map Sigma.fst

/-- `release_slot`: `checked_sub(1)`. -/
def releaseSlot (s : TerminalQrAttempts) : TerminalQrAttempts :=
  match s.reservedSlots with
  | 0 => s
  | slots + 1 => { s with reservedSlots := slots }

end TerminalQrAttempts

/-- The shape of a token: 32 alphanumeric characters. -/
def isAttemptToken (token : String) : Bool :=
  token.toList.length == 32 && token.toList.all Char.isAlphanum

/-! ## 2. The calls, step by step -/

/-- Whose attempt is closed and released, and what is done after. -/
inductive Closer
  /-- `remove_expired`, as a part of a start or alone, with the records that are left. -/
  | removeExpired (caller : Option Platform) (rest : List TerminalQrAttemptRecord)
  /-- A start whose attempt is of another platform or could not be captured. -/
  | start (platform : Platform)
  /-- A refresh that found the attempt expired or could not capture it. -/
  | refresh (response : TerminalQrLoginRunnerResponse)
  | cancel (platform : Platform)
  /-- The task of `schedule_expiry`. -/
  | expiry
deriving DecidableEq, Repr

/-- What a client or a task does next. -/
inductive Pc
  /-- The section of `remove_expired`. -/
  | removeExpired (caller : Option Platform)
  /-- The load of `reserve_slot`. -/
  | load (platform : Platform)
  /-- The exchange of `reserve_slot`, of the value it has read. -/
  | exchange (platform : Platform) (slots : Nat)
  /-- `executor.start_terminal_qr_login(platform)`. -/
  | startLogin (platform : Platform) (slot : Nat)
  /-- `attempt.capture_qr_png_base64()` of a start. -/
  | capture (platform : Platform) (slot : Nat)
  /-- The section of a start, which stores the attempt. -/
  | insert (platform : Platform) (slot : Nat) (pngBase64 : String)
  /-- `schedule_expiry` of the handler. -/
  | schedule (token : String) (response : TerminalQrLoginRunnerResponse)
  /-- The release of a start whose attempt could not be started. -/
  | abandon (platform : Platform) (slot : Nat)
  /-- The section of `refresh`. -/
  | refresh (platform : Platform) (token : String)
  /-- The section of `cancel`. -/
  | cancel (platform : Platform) (token : String)
  /-- The section of the task of `schedule_expiry`. -/
  | expire (token : String)
  /-- `record.attempt.close()`. -/
  | close (closer : Closer) (attempt : Nat)
  /-- `release_slot()` after the close. -/
  | release (closer : Closer) (attempt : Nat) (closed : Bool)
  | done (response : Option TerminalQrLoginRunnerResponse)
deriving DecidableEq, Repr

/-- The loop over the expired records, and what `remove_expired` was called for. -/
def closeExpired (caller : Option Platform) : List TerminalQrAttemptRecord → Pc
  | record :: rest => .close (.removeExpired caller rest) record.attempt
  | [] =>
    match caller with
    | some platform => .load platform
    | none => .done none

/-- What follows the release of a closed attempt. -/
def Closer.next (closed : Bool) : Closer → Pc
  | .removeExpired caller rest => closeExpired caller rest
  | .start platform => .done (some (terminalQrRejected platform))
  | .refresh response => .done (some response)
  | .cancel platform =>
    if closed then .done (some (.cancelled terminalQrLoginRunnerProtocolVersion platform))
    else .done (some (terminalQrRejected platform))
  | .expiry => .done none

/-- The head of the loop of `reserve_slot`, at the value read. -/
def reserve (platform : Platform) (slots : Nat) : Pc :=
  if terminalQrMaxActiveAttempts ≤ slots then .done (some (terminalQrRejected platform))
  else .exchange platform slots

/-- The section of `refresh`: what it leaves behind the lock, which attempt it captured, and what
    is done next. -/
def refreshSection (s : TerminalQrAttempts) (platform : Platform) (token : String) (now : Nat)
    (captured : Option String) : TerminalQrAttempts × Lease.Event × Pc :=
  match s.attempts.lookup token with
  | none => (s, .quiet, .done (some (terminalQrRejected platform)))
  | some record =>
    if record.platform ≠ platform then (s, .quiet, .done (some (terminalQrRejected platform)))
    else if s.isExpired now record then
      (s.remove token, .quiet,
        .close (.refresh (.timedOut terminalQrLoginRunnerProtocolVersion platform)) record.attempt)
    else
      match captured with
      | some pngBase64 =>
        (s, .used record.attempt,
          .done (some (.qrAvailable terminalQrLoginRunnerProtocolVersion platform token pngBase64)))
      | none =>
        (s.remove token, .used record.attempt,
          .close (.refresh (terminalQrRejected platform)) record.attempt)

/-- The section of `cancel`. -/
def cancelSection (s : TerminalQrAttempts) (platform : Platform) (token : String) :
    TerminalQrAttempts × Pc :=
  match s.attempts.lookup token with
  | some record =>
    if record.platform = platform then (s.remove token, .close (.cancel platform) record.attempt)
    else (s, .done (some (terminalQrRejected platform)))
  | none => (s, .done (some (terminalQrRejected platform)))

/-- The section of the task of `schedule_expiry`. -/
def expirySection (s : TerminalQrAttempts) (token : String) (now : Nat) : TerminalQrAttempts × Pc :=
  match s.attempts.lookup token with
  | some record =>
    if s.isExpired now record then (s.remove token, .close .expiry record.attempt)
    else (s, .done none)
  | none => (s, .done none)

/-- One step of one client or task: the state before and after, what was done to an attempt or a
    slot, what is done next, and the tasks that were spawned. -/
inductive Pc.Step : TerminalQrAttempts → Pc → Lease.Event → TerminalQrAttempts → Pc → List Pc → Prop
  | removeExpired {s : TerminalQrAttempts} {caller : Option Platform} {now : Nat}
      {tokens : List String} : tokens.Perm (s.expiredTokens now) →
      Step s (.removeExpired caller) .quiet (TerminalQrAttempts.removeAll tokens s).2
        (closeExpired caller (TerminalQrAttempts.removeAll tokens s).1) []
  | load {s : TerminalQrAttempts} {platform : Platform} :
      Step s (.load platform) .quiet s (reserve platform s.reservedSlots) []
  | exchange {s : TerminalQrAttempts} {platform : Platform} :
      Step s (.exchange platform s.reservedSlots) (.acquired s.reservations)
        { s with reservedSlots := s.reservedSlots + 1, reservations := s.reservations + 1 }
        (.startLogin platform s.reservations) []
  /-- The weak exchange may fail without a reason. -/
  | exchangeFails {s : TerminalQrAttempts} {platform : Platform} {slots : Nat} :
      Step s (.exchange platform slots) .quiet s (reserve platform s.reservedSlots) []
  | startLogin {s : TerminalQrAttempts} {platform attemptPlatform : Platform} {slot : Nat} :
      Step s (.startLogin platform slot) (.opened slot) s
        (if attemptPlatform ≠ platform then .close (.start platform) slot
          else .capture platform slot) []
  | startLoginFails {s : TerminalQrAttempts} {platform : Platform} {slot : Nat} :
      Step s (.startLogin platform slot) .quiet s (.abandon platform slot) []
  | capture {s : TerminalQrAttempts} {platform : Platform} {slot : Nat} {pngBase64 : String} :
      Step s (.capture platform slot) (.used slot) s (.insert platform slot pngBase64) []
  | captureFails {s : TerminalQrAttempts} {platform : Platform} {slot : Nat} :
      Step s (.capture platform slot) (.used slot) s (.close (.start platform) slot) []
  | insert {s : TerminalQrAttempts} {platform : Platform} {slot now : Nat}
      {pngBase64 token : String} : token ∉ s.attempts → isAttemptToken token = true →
      Step s (.insert platform slot pngBase64) .quiet
        { s with attempts := s.attempts.insert token ⟨platform, now, slot⟩ }
        (.schedule token
          (.qrAvailable terminalQrLoginRunnerProtocolVersion platform token pngBase64)) []
  | schedule {s : TerminalQrAttempts} {token : String} {response : TerminalQrLoginRunnerResponse} :
      Step s (.schedule token response) .quiet s (.done (some response)) [.expire token]
  | abandon {s : TerminalQrAttempts} {platform : Platform} {slot : Nat} :
      Step s (.abandon platform slot) (.released slot) s.releaseSlot
        (.done (some (terminalQrRejected platform))) []
  | refresh {s : TerminalQrAttempts} {platform : Platform} {token : String} {now : Nat}
      {captured : Option String} :
      Step s (.refresh platform token) (refreshSection s platform token now captured).2.1
        (refreshSection s platform token now captured).1
        (refreshSection s platform token now captured).2.2 []
  | cancel {s : TerminalQrAttempts} {platform : Platform} {token : String} :
      Step s (.cancel platform token) .quiet (cancelSection s platform token).1
        (cancelSection s platform token).2 []
  | expire {s : TerminalQrAttempts} {token : String} {now : Nat} :
      Step s (.expire token) .quiet (expirySection s token now).1 (expirySection s token now).2 []
  | close {s : TerminalQrAttempts} {closer : Closer} {attempt : Nat} {closed : Bool} :
      Step s (.close closer attempt) (.closed attempt) s (.release closer attempt closed) []
  | release {s : TerminalQrAttempts} {closer : Closer} {attempt : Nat} {closed : Bool} :
      Step s (.release closer attempt closed) (.released attempt) s.releaseSlot
        (closer.next closed) []

/-- What a client calls. -/
inductive QrCall
  | start (platform : Platform)
  | refresh (platform : Platform) (token : String)
  | cancel (platform : Platform) (token : String)
  | removeExpired

def QrCall.pc : QrCall → Pc
  | .start platform => .removeExpired (some platform)
  | .refresh platform token => .refresh platform token
  | .cancel platform token => .cancel platform token
  | .removeExpired => .removeExpired none

/-- The table, and where its clients and tasks are. -/
structure QrWorld where
  shared : TerminalQrAttempts
  threads : List Pc

def QrWorld.initial (lifetime : Nat) : QrWorld := ⟨.withLifetime lifetime, []⟩

/-- A client comes, or one of those that are there takes a step. -/
inductive QrWorld.Step : QrWorld → Lease.Event → QrWorld → Prop
  | enter {w : QrWorld} (call : QrCall) :
      Step w .quiet { w with threads := w.threads ++ [call.pc] }
  | run {s s' : TerminalQrAttempts} {pc pc' : Pc} {e : Lease.Event}
      {spawned before after : List Pc} :
      pc.Step s e s' pc' spawned →
      Step ⟨s, before ++ pc :: after⟩ e ⟨s', before ++ pc' :: after ++ spawned⟩

/-! ## 3. What the sections do -/

/-- What the section of `refresh` does: nothing, a capture, or the removal of the attempt. -/
inductive RefreshOutcome (s : TerminalQrAttempts) (platform : Platform) (token : String) :
    TerminalQrAttempts × Lease.Event × Pc → Prop
  | unknown : (∀ record, s.attempts.lookup token = some record → record.platform ≠ platform) →
      RefreshOutcome s platform token (s, .quiet, .done (some (terminalQrRejected platform)))
  | captured {record : TerminalQrAttemptRecord} {response : TerminalQrLoginRunnerResponse} :
      s.attempts.lookup token = some record → record.platform = platform →
      RefreshOutcome s platform token (s, .used record.attempt, .done (some response))
  | expired {record : TerminalQrAttemptRecord} {response : TerminalQrLoginRunnerResponse} :
      s.attempts.lookup token = some record → record.platform = platform →
      RefreshOutcome s platform token
        (s.remove token, .quiet, .close (.refresh response) record.attempt)
  | failed {record : TerminalQrAttemptRecord} {response : TerminalQrLoginRunnerResponse} :
      s.attempts.lookup token = some record → record.platform = platform →
      RefreshOutcome s platform token
        (s.remove token, .used record.attempt, .close (.refresh response) record.attempt)

theorem refreshSection_outcome (s : TerminalQrAttempts) (platform : Platform) (token : String)
    (now : Nat) (captured : Option String) :
    RefreshOutcome s platform token (refreshSection s platform token now captured) := by
  unfold refreshSection
  split
  · rename_i hnone
    refine .unknown fun record h => ?_
    rw [hnone] at h
    cases h
  · rename_i record hrecord
    split
    · rename_i hplatform
      refine .unknown fun found h => ?_
      rw [hrecord] at h
      cases h
      exact hplatform
    · rename_i hplatform
      have hplatform := not_ne_iff.mp hplatform
      split
      · exact .expired hrecord hplatform
      · split
        · exact .captured hrecord hplatform
        · exact .failed hrecord hplatform

/-- What a section that only removes does: nothing, or the removal of the attempt. -/
inductive RemovalOutcome (s : TerminalQrAttempts) (token : String) (closer : Closer) :
    TerminalQrAttempts × Pc → Prop
  | kept {response : Option TerminalQrLoginRunnerResponse} :
      RemovalOutcome s token closer (s, .done response)
  | removed {record : TerminalQrAttemptRecord} : s.attempts.lookup token = some record →
      RemovalOutcome s token closer (s.remove token, .close closer record.attempt)

theorem cancelSection_outcome (s : TerminalQrAttempts) (platform : Platform) (token : String) :
    RemovalOutcome s token (.cancel platform) (cancelSection s platform token) := by
  unfold cancelSection
  split
  · rename_i record hrecord
    split
    · exact .removed hrecord
    · exact .kept
  · exact .kept

theorem expirySection_outcome (s : TerminalQrAttempts) (token : String) (now : Nat) :
    RemovalOutcome s token .expiry (expirySection s token now) := by
  unfold expirySection
  split
  · rename_i record hrecord
    split
    · exact .removed hrecord
    · exact .kept
  · exact .kept

end MatriXpost
