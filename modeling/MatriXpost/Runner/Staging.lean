/-
  File:      MatriXpost/Runner/Staging.lean
  Subject:   THE STAGING OF REMOTE MEDIA: `media.rs` of the core crate.

  The transport, the file system and the source of names are called; what they answer is any. The
  body of a response is what its reads answer, one after the other: bytes, an interruption, or
  a failure. `io::copy` makes an interrupted read again and ends at the first empty one.

  * `stageWith` is the program; `readToEnd` is what a reader without a limit gets of a body;
  * `copy_answers` says what the loop writes, `allocate_answers` what the sixteen attempts do;
  * `stageWith_answers` says once what a run of the stager calls, whatever it is answered.
-/
import MatriXpost.Lib.Dialogue
import MatriXpost.Core.Request

namespace MatriXpost

/-- `Path::join` of a directory and a name. -/
def PathBuf.join : PathBuf → String → PathBuf
  | .utf8 directory, name => .utf8 (
      if name.toList.head? = some '/' then name
      else if directory.toList.getLast?.all (· = '/') then directory ++ name
      else directory ++ "/" ++ name)
  | .other first rest, name =>
      let slash : UInt8 := 47
      if name.toList.head? = some '/' then .utf8 name
      else if (first :: rest).getLast? = some slash then
        .other first (rest ++ name.toUTF8.toList)
      else .other first (rest ++ slash :: name.toUTF8.toList)

namespace Staging

/-! ## 1. What the stager calls -/

/-- The kinds of `std::io::Error` the stager and `io::copy` tell apart. -/
inductive IoErrorKind where
  | alreadyExists | interrupted | other
deriving DecidableEq, Repr

structure IoError where
  kind : IoErrorKind
  text : String
deriving DecidableEq, Repr

abbrev IoResult := Except IoError

/-- `DomainError::io`. -/
def IoError.domain (error : IoError) : DomainError := .io error.text

/-- What the reads of a body answer, in turn; after the last one it is at its end. -/
abbrev Body := List (IoResult (List UInt8))

structure RemoteMediaResponse where
  contentType : Option String
  contentLength : Option String
  body : Body

/-- The calls of `StagingFilesystem` and of the file it creates, which is written through
    `write_all`. -/
inductive FileCall where
  | createDirAll (path : PathBuf)
  | createNew (path : PathBuf)
  | write (path : PathBuf) (bytes : List UInt8)
  | flush (path : PathBuf)
  | removeFile (path : PathBuf)

inductive StagingCall where
  | get (url : Url)
  | nextName
  | file (call : FileCall)

def StagingCall.Reply : StagingCall → Type
  | .get _ => Except DomainError RemoteMediaResponse
  | .nextName => String
  | .file _ => IoResult Unit

abbrev StagingCalled := Called StagingCall StagingCall.Reply

abbrev StagingTask (ε α : Type) := Talk StagingCall StagingCall.Reply ε α

def get (url : Url) : StagingTask DomainError (Except DomainError RemoteMediaResponse) :=
  Talk.ask (StagingCall.get url)

def nextName : StagingTask DomainError String := Talk.ask StagingCall.nextName

def file {ε : Type} (call : FileCall) : StagingTask ε (IoResult Unit) :=
  Talk.ask (StagingCall.file call)

/-! ## 2. The policy and the request -/

/-- `u64::MAX`. -/
def u64Max : Nat := 18446744073709551615

/-- The trait `RemoteMediaPolicy`. -/
structure RemoteMediaPolicy where
  maxBytes : UInt64
  allowsContentType : Option String → Bool

structure MediaStagingPolicy where
  maxBytes : UInt64
  allowedContentTypes : List String

def MediaStagingPolicy.policy (p : MediaStagingPolicy) : RemoteMediaPolicy where
  maxBytes := p.maxBytes
  allowsContentType value := value.any fun item =>
    p.allowedContentTypes.any fun allowed => allowed.toList.isPrefixOf item.toList

structure RemoteMediaRequest where
  url : Url
  maxBytes : UInt64

def RemoteMediaRequest.new (url : Url) (policy : RemoteMediaPolicy) :
    Except DomainError RemoteMediaRequest :=
  if url.scheme = "http" ∨ url.scheme = "https" then .ok ⟨url, policy.maxBytes⟩
  else .error (.unsupportedRemoteScheme url.scheme)

/-- `str::parse::<u64>`: an optional plus sign and digits, at most `u64::MAX`. -/
def parseU64 (s : String) : Option Nat :=
  let digits := if s.toList.head? = some '+' then s.toList.tail else s.toList
  if digits ≠ [] ∧ digits.all isDigit ∧ decimal digits ≤ u64Max then some (decimal digits)
  else none

/-- The checks of the headers. -/
def RemoteMediaResponse.admitted (response : RemoteMediaResponse) (request : RemoteMediaRequest)
    (policy : RemoteMediaPolicy) : Except DomainError Unit :=
  if !policy.allowsContentType response.contentType then
    .error (.disallowedContentType (response.contentType.getD "missing"))
  else match response.contentLength with
    | none => .ok ()
    | some length =>
      match parseU64 length with
      | none => .error (.remoteMedia "invalid content-length")
      | some parsed =>
        if request.maxBytes.toNat < parsed then
          .error (.remoteMediaTooLarge request.maxBytes.toNat parsed)
        else .ok ()

/-! ## 3. `stage_with` -/

/-- `io::copy` from the body, of which `remaining` bytes may still be taken; `copied` are
    written. -/
def copy (path : PathBuf) : Body → Nat → Nat → StagingTask IoError Nat
  | [], _, copied => pure copied
  | .ok bytes :: rest, remaining, copied =>
    if remaining = 0 ∨ bytes = [] then pure copied
    else do
      let chunk := bytes.take remaining
      Talk.lift (← file (.write path chunk))
      copy path rest (remaining - chunk.length) (copied + chunk.length)
  | .error error :: rest, remaining, copied =>
    if remaining = 0 then pure copied
    else if error.kind = .interrupted then copy path rest remaining copied
    else Talk.fail error

/-- `io::copy(..).and_then(|value| { output.flush()?; Ok(value) })`. -/
def copyAndFlush (path : PathBuf) (body : Body) (limit : Nat) : StagingTask IoError Nat := do
  let value ← copy path body limit 0
  Talk.lift (← file (.flush path))
  pure value

/-- One attempt to create a file under a new name: `none` if the name is taken. -/
def attempt (directory : PathBuf) : StagingTask DomainError (Option PathBuf) := do
  let path := directory.join (← nextName)
  match ← file (.createNew path) with
  | .ok _ => pure (some path)
  | .error error =>
    if error.kind = .alreadyExists then pure none else Talk.fail error.domain

/-- The sixteen attempts of `stage_with`. -/
def allocate (directory : PathBuf) (attempts : Nat) : StagingTask DomainError PathBuf :=
  Talk.poll (attempt directory)
    (Talk.fail (.remoteMedia "could not allocate unique staging file")) attempts

structure OwnedStagedMedia where
  path : PathBuf
deriving DecidableEq, Repr

structure HttpRemoteMediaStager where
  directory : PathBuf

/-- `request.max_bytes.saturating_add(1)`. -/
def RemoteMediaRequest.limit (request : RemoteMediaRequest) : Nat :=
  min (request.maxBytes.toNat + 1) u64Max

/-- `let _ = filesystem.remove_file(&path); return Err(error)`. -/
def discard {α : Type} (path : PathBuf) (error : DomainError) : StagingTask DomainError α := do
  let _ ← file (.removeFile path)
  Talk.fail error

/-- The body is written to the created file. -/
def receive (request : RemoteMediaRequest) (response : RemoteMediaResponse) (path : PathBuf) :
    StagingTask DomainError OwnedStagedMedia := do
  match ← (copyAndFlush path response.body request.limit).outcome with
  | .error error => discard path error.domain
  | .ok copied =>
    if request.maxBytes.toNat < copied then
      discard path (.remoteMediaTooLarge request.maxBytes.toNat copied)
    else pure ⟨path⟩

def HttpRemoteMediaStager.stageWith (stager : HttpRemoteMediaStager) (request : RemoteMediaRequest)
    (policy : RemoteMediaPolicy) : StagingTask DomainError OwnedStagedMedia := do
  let response ← Talk.lift (← get request.url)
  Talk.lift (response.admitted request policy)
  let created ← file (.createDirAll stager.directory)
  Talk.lift (created.mapError IoError.domain)
  let path ← allocate stager.directory 16
  receive request response path

/-! ## 4. The calls of a run -/

/-- What a reader without a limit gets of a body: its bytes, and the failure it ends with. -/
def readToEnd : Body → List UInt8 × Option IoError
  | [] => ([], none)
  | .ok bytes :: rest =>
    if bytes = [] then ([], none) else (bytes ++ (readToEnd rest).1, (readToEnd rest).2)
  | .error error :: rest =>
    if error.kind = .interrupted then readToEnd rest else ([], some error)

def created (path : PathBuf) : StagingCalled := ⟨.file (.createNew path), Except.ok ()⟩

def written (path : PathBuf) (bytes : List UInt8) : StagingCalled :=
  ⟨.file (.write path bytes), Except.ok ()⟩

def flushed (path : PathBuf) : StagingCalled := ⟨.file (.flush path), Except.ok ()⟩

/-- A call that changes no file: none to the file system but for directories, and the attempts to
    create a file that failed. -/
def Idle : StagingCalled → Prop
  | ⟨.get _, _⟩ | ⟨.nextName, _⟩ | ⟨.file (.createDirAll _), _⟩ => True
  | ⟨.file (.createNew _), reply⟩ => ∃ error : IoError, reply = Except.error error
  | ⟨.file _, _⟩ => False

/-- A write or a flush of this file. -/
def Fills (path : PathBuf) (c : StagingCalled) : Prop :=
  (∃ bytes, c.call = .file (.write path bytes)) ∨ c.call = .file (.flush path)

/-- An attempt to create a file. -/
def StagingCall.attempts : StagingCall → Bool
  | .file (.createNew _) => true
  | _ => false

/-- How many attempts to create a file a log has. -/
def attempts (es : List StagingCalled) : Nat := es.countP (·.call.attempts)

theorem attempts_append (es es' : List StagingCalled) :
    attempts (es ++ es') = attempts es + attempts es' := List.countP_append

/-- The body has the bytes that are to be taken, or ends without a failure. -/
def Supplies (body : Body) (limit : Nat) : Prop :=
  (readToEnd body).2 = none ∨ limit ≤ (readToEnd body).1.length

section Copy
variable {path : PathBuf} {body : Body} {remaining copied : Nat} {es : List StagingCalled}

theorem take_chunk (bytes rest : List UInt8) (n : Nat) :
    (bytes ++ rest).take n = bytes.take n ++ rest.take (n - (bytes.take n).length) := by
  rw [List.take_append, List.length_take]
  congr 2
  omega

theorem readToEnd_bytes {bytes : List UInt8} {rest : Body} (hne : bytes ≠ []) :
    readToEnd (.ok bytes :: rest) = (bytes ++ (readToEnd rest).1, (readToEnd rest).2) := by
  simp [readToEnd, hne]

theorem readToEnd_interrupted {error : IoError} {rest : Body} (h : error.kind = .interrupted) :
    readToEnd (.error error :: rest) = readToEnd rest := by
  simp [readToEnd, h]

/-- One chunk less to take, one read less to make. -/
theorem supplies_bytes {bytes : List UInt8} {rest : Body} (hne : bytes ≠ []) :
    Supplies (.ok bytes :: rest) remaining ↔
      Supplies rest (remaining - (bytes.take remaining).length) := by
  unfold Supplies
  rw [readToEnd_bytes hne, List.length_append, List.length_take]
  refine or_congr_right ?_
  omega

theorem supplies_interrupted {error : IoError} {rest : Body} (h : error.kind = .interrupted) :
    Supplies (.error error :: rest) remaining ↔ Supplies rest remaining := by
  unfold Supplies
  rw [readToEnd_interrupted h]

/-- What the loop writes: to this file only; when it ends well, the first bytes of the body, as
    many as it may take. -/
def CopySound (path : PathBuf) (body : Body) (remaining copied : Nat) (es : List StagingCalled)
    (r : IoResult Nat) : Prop :=
  (∀ c ∈ es, Fills path c) ∧ ∀ n, r = .ok n → ∃ chunks : List (List UInt8),
    es = chunks.map (written path) ∧ chunks.flatten = (readToEnd body).1.take remaining ∧
    n = copied + chunks.flatten.length ∧ Supplies body remaining

/-- The loop ends where there is nothing to take. -/
theorem copySound_end {r : IoResult Nat} (htake : (readToEnd body).1.take remaining = [])
    (hsupplies : Supplies body remaining)
    (h : (pure copied : StagingTask IoError Nat).Answers es r) :
    CopySound path body remaining copied es r := by
  obtain ⟨rfl, rfl⟩ := Talk.answers_pure.mp h
  refine ⟨by simp, fun n hn => ?_⟩
  cases hn
  exact ⟨[], rfl, htake.symm, rfl, hsupplies⟩

/-- A chunk is written, and the loop goes on. -/
theorem copySound_chunk {bytes : List UInt8} {rest : Body} {reply : IoResult Unit}
    {r : IoResult Nat} (hne : bytes ≠ [])
    (hloop : reply = .ok () → CopySound path rest (remaining - (bytes.take remaining).length)
      (copied + (bytes.take remaining).length) es r)
    (hfail : ∀ e, reply = .error e → es = [] ∧ r = .error e) :
    CopySound path (.ok bytes :: rest) remaining copied
      (⟨.file (.write path (bytes.take remaining)), reply⟩ :: es) r := by
  have hcall : Fills path ⟨.file (.write path (bytes.take remaining)), reply⟩ := .inl ⟨_, rfl⟩
  cases reply with
  | error e =>
    obtain ⟨rfl, rfl⟩ := hfail e rfl
    exact ⟨by simpa using hcall, fun n hn => by cases hn⟩
  | ok _ =>
    obtain ⟨hfills, hok⟩ := hloop rfl
    refine ⟨List.forall_mem_cons.mpr ⟨hcall, hfills⟩, fun n hn => ?_⟩
    obtain ⟨chunks, rfl, hflat, hlen, hsupplies⟩ := hok n hn
    refine ⟨bytes.take remaining :: chunks, rfl, ?_, ?_, (supplies_bytes hne).mpr hsupplies⟩
    · rw [List.flatten_cons, hflat, readToEnd_bytes hne, take_chunk]
    · rw [List.flatten_cons, List.length_append, hlen]
      omega

/-- **Every run of the loop is sound**, by induction on the reads of the body. -/
theorem copy_answers {r : IoResult Nat} (h : (copy path body remaining copied).Answers es r) :
    CopySound path body remaining copied es r := by
  induction body generalizing remaining copied es with
  | nil => exact copySound_end (by simp [readToEnd]) (.inl rfl) h
  | cons read rest ih =>
    cases read with
    | ok bytes =>
      unfold copy at h
      by_cases hend : remaining = 0 ∨ bytes = []
      · rw [if_pos hend] at h
        obtain rfl | rfl := hend
        · exact copySound_end (by simp) (.inr (Nat.zero_le _)) h
        · exact copySound_end (by simp [readToEnd]) (.inl rfl) h
      · rw [if_neg hend] at h
        obtain ⟨-, hne⟩ := not_or.mp hend
        obtain ⟨reply, rest', rfl, hrest⟩ := Talk.answers_ask_bind.mp h
        obtain ⟨e, rfl, rfl, rfl⟩ | ⟨_, rfl, hloop⟩ := Talk.answers_lift_bind.mp hrest
        · refine copySound_chunk hne (fun h => by cases h) fun e' he => ?_
          cases he
          exact ⟨rfl, rfl⟩
        · exact copySound_chunk hne (fun _ => ih hloop) fun e he => by cases he
    | error error =>
      unfold copy at h
      by_cases hzero : remaining = 0
      · rw [if_pos hzero] at h
        subst hzero
        exact copySound_end (by simp) (.inr (Nat.zero_le _)) h
      · rw [if_neg hzero] at h
        by_cases hagain : error.kind = .interrupted
        · rw [if_pos hagain] at h
          have hrest := ih h
          unfold CopySound at hrest ⊢
          rw [readToEnd_interrupted hagain, supplies_interrupted hagain]
          exact hrest
        · rw [if_neg hagain] at h
          obtain ⟨rfl, rfl⟩ := Talk.answers_fail.mp h
          exact ⟨by simp, fun n hn => by cases hn⟩

theorem written_injective : Function.Injective (written path) := by
  intro bytes bytes' h
  injection h with hcall
  injection hcall with hfile
  injection hfile

/-- The loop comes to its end when every write is answered well and the body supplies. -/
theorem copy_exists (hsupplies : Supplies body remaining) :
    ∃ chunks : List (List UInt8),
      (copy path body remaining copied).Answers (chunks.map (written path))
        (.ok (copied + chunks.flatten.length)) := by
  induction body generalizing remaining copied with
  | nil => exact ⟨[], Talk.answers_pure.mpr ⟨rfl, rfl⟩⟩
  | cons read rest ih =>
    cases read with
    | ok bytes =>
      unfold copy
      by_cases hend : remaining = 0 ∨ bytes = []
      · rw [if_pos hend]
        exact ⟨[], Talk.answers_pure.mpr ⟨rfl, rfl⟩⟩
      · rw [if_neg hend]
        obtain ⟨-, hne⟩ := not_or.mp hend
        obtain ⟨chunks, h⟩ := @ih _ (copied + (bytes.take remaining).length)
          ((supplies_bytes hne).mp hsupplies)
        refine ⟨bytes.take remaining :: chunks, Talk.answers_ask_bind.mpr ⟨_, _, rfl, ?_⟩⟩
        refine Talk.answers_lift_bind.mpr (.inr ⟨(), rfl, ?_⟩)
        rw [List.flatten_cons, List.length_append, ← Nat.add_assoc]
        exact h
    | error error =>
      unfold copy
      by_cases hzero : remaining = 0
      · rw [if_pos hzero]
        exact ⟨[], Talk.answers_pure.mpr ⟨rfl, rfl⟩⟩
      · rw [if_neg hzero]
        by_cases hagain : error.kind = .interrupted
        · rw [if_pos hagain]
          exact ih ((supplies_interrupted hagain).mp hsupplies)
        · exfalso
          simp [Supplies, readToEnd, hagain] at hsupplies
          exact hzero hsupplies

end Copy

section Stage
variable {stager : HttpRemoteMediaStager} {request : RemoteMediaRequest}
  {policy : RemoteMediaPolicy} {response : RemoteMediaResponse} {directory path : PathBuf}
  {es : List StagingCalled}

/-- The same with the flush. -/
theorem copyAndFlush_answers {body : Body} {limit : Nat} {r : IoResult Nat}
    (h : (copyAndFlush path body limit).Answers es r) :
    (∀ c ∈ es, Fills path c) ∧ ∀ n, r = .ok n → ∃ chunks : List (List UInt8),
      es = chunks.map (written path) ++ [flushed path] ∧
      chunks.flatten = (readToEnd body).1.take limit ∧ n = chunks.flatten.length ∧
      Supplies body limit := by
  rcases Talk.answers_bind.mp h with ⟨e, hcopy, rfl⟩ | ⟨es₁, value, es₂, rfl, hcopy, hrest⟩
  · exact ⟨(copy_answers hcopy).1, fun n hn => by cases hn⟩
  · obtain ⟨hfills, hok⟩ := copy_answers hcopy
    obtain ⟨reply, rest, rfl, hflush⟩ := Talk.answers_ask_bind.mp hrest
    have hcall : Fills path ⟨.file (.flush path), reply⟩ := .inr rfl
    rcases Talk.answers_lift_bind.mp hflush with ⟨e, -, rfl, rfl⟩ | ⟨_, rfl, hend⟩
    · refine ⟨fun c hc => ?_, fun n hn => by cases hn⟩
      rcases List.mem_append.mp hc with hc | hc
      · exact hfills c hc
      · rw [List.mem_singleton.mp hc]
        exact hcall
    · obtain ⟨rfl, rfl⟩ := Talk.answers_pure.mp hend
      obtain ⟨chunks, rfl, hflat, hlen, hsupplies⟩ := hok value rfl
      refine ⟨fun c hc => ?_, fun n hn => ?_⟩
      · rcases List.mem_append.mp hc with hc | hc
        · exact hfills c hc
        · rw [List.mem_singleton.mp hc]
          exact hcall
      · cases hn
        exact ⟨chunks, rfl, hflat, by rw [hlen, Nat.zero_add], hsupplies⟩

/-- **What becomes of a created file**: it gets the body's bytes, within the limit, and is
    answered; or whatever it got, it is removed and the answer is an error. -/
theorem receive_answers {r : Except DomainError OwnedStagedMedia}
    (h : (receive request response path).Answers es r) :
    (∃ chunks : List (List UInt8), es = chunks.map (written path) ++ [flushed path] ∧
      r = .ok ⟨path⟩ ∧ chunks.flatten = (readToEnd response.body).1.take request.limit ∧
      chunks.flatten.length ≤ request.maxBytes.toNat ∧ Supplies response.body request.limit) ∨
    ∃ before reply error, es = before ++ [⟨.file (.removeFile path), reply⟩] ∧ r = .error error ∧
      ∀ c ∈ before, Fills path c := by
  rcases Talk.answers_bind.mp h with ⟨e, hcopy, rfl⟩ | ⟨es₁, outcome, es₂, rfl, hcopy, hrest⟩
  · obtain ⟨result, -, he⟩ := Talk.answers_outcome.mp hcopy
    cases he
  · obtain ⟨result, hcopied, he⟩ := Talk.answers_outcome.mp hcopy
    cases he
    obtain ⟨hfills, hok⟩ := copyAndFlush_answers hcopied
    cases outcome with
    | error error =>
      obtain ⟨reply, rest, rfl, hfail⟩ := Talk.answers_ask_bind.mp hrest
      obtain ⟨rfl, rfl⟩ := Talk.answers_fail.mp hfail
      exact .inr ⟨es₁, reply, _, rfl, rfl, hfills⟩
    | ok copied =>
      obtain ⟨chunks, rfl, hflat, hlen, hsupplies⟩ := hok copied rfl
      dsimp only at hrest
      by_cases hlarge : request.maxBytes.toNat < copied
      · rw [if_pos hlarge] at hrest
        obtain ⟨reply, rest, rfl, hfail⟩ := Talk.answers_ask_bind.mp hrest
        obtain ⟨rfl, rfl⟩ := Talk.answers_fail.mp hfail
        exact .inr ⟨_, reply, _, rfl, rfl, hfills⟩
      · rw [if_neg hlarge] at hrest
        obtain ⟨rfl, rfl⟩ := Talk.answers_pure.mp hrest
        refine .inl ⟨chunks, List.append_nil _, rfl, hflat, ?_, hsupplies⟩
        omega

/-- No file is created while the body is received. -/
theorem receive_attempts {r : Except DomainError OwnedStagedMedia}
    (h : (receive request response path).Answers es r) : attempts es = 0 := by
  have hfills : ∀ {fs : List StagingCalled}, (∀ c ∈ fs, Fills path c) → attempts fs = 0 := by
    intro fs hfs
    refine List.countP_eq_zero.mpr fun c hc => ?_
    rcases hfs c hc with ⟨bytes, he⟩ | he <;> simp [he, StagingCall.attempts]
  rcases receive_answers h with ⟨chunks, rfl, -⟩ | ⟨before, reply, error, rfl, -, hbefore⟩
  · refine hfills fun c hc => ?_
    rcases List.mem_append.mp hc with hc | hc
    · obtain ⟨bytes, -, rfl⟩ := List.mem_map.mp hc
      exact .inl ⟨bytes, rfl⟩
    · rw [List.mem_singleton.mp hc]
      exact .inr rfl
  · rw [attempts_append, hfills hbefore]
    rfl

/-- One attempt: it creates the file it answers, or changes nothing. -/
theorem attempt_answers {answer : Except DomainError (Option PathBuf)}
    (h : (attempt directory).Answers es answer) : attempts es = 1 ∧
    (((∀ c ∈ es, Idle c) ∧ (answer = .ok none ∨ ∃ error, answer = .error error)) ∨
      ∃ before path, es = before ++ [created path] ∧ answer = .ok (some path) ∧
        ∀ c ∈ before, Idle c) := by
  obtain ⟨name, rest, rfl, hcreate⟩ := Talk.answers_ask_bind.mp h
  obtain ⟨reply, rest', rfl, hmatch⟩ := Talk.answers_ask_bind.mp hcreate
  cases reply with
  | ok _ =>
    obtain ⟨rfl, rfl⟩ := Talk.answers_pure.mp hmatch
    refine ⟨rfl, .inr ⟨[⟨.nextName, name⟩], directory.join name, rfl, rfl, fun c hc => ?_⟩⟩
    rw [List.mem_singleton.mp hc]
    trivial
  | error error =>
    have hidle : ∀ c ∈ ([⟨.nextName, name⟩, ⟨.file (.createNew (directory.join name)),
        Except.error error⟩] : List StagingCalled), Idle c := by
      intro c hc
      rcases List.mem_pair.mp hc with rfl | rfl
      · trivial
      · exact ⟨error, rfl⟩
    dsimp only at hmatch
    split at hmatch
    · obtain ⟨rfl, rfl⟩ := Talk.answers_pure.mp hmatch
      exact ⟨rfl, .inl ⟨hidle, .inl rfl⟩⟩
    · obtain ⟨rfl, rfl⟩ := Talk.answers_fail.mp hmatch
      exact ⟨rfl, .inl ⟨hidle, .inr ⟨_, rfl⟩⟩⟩

/-- The attempts: all of them idle and no path, or idle but for the last one, which created the
    file that is answered. -/
theorem allocate_answers {count : Nat} {r : Except DomainError PathBuf}
    (h : (allocate directory count).Answers es r) : attempts es ≤ count ∧
    (((∀ c ∈ es, Idle c) ∧ ∃ error, r = .error error) ∨
      ∃ before path, es = before ++ [created path] ∧ r = .ok path ∧ ∀ c ∈ before, Idle c) := by
  induction count generalizing es with
  | zero =>
    obtain ⟨rfl, rfl⟩ := Talk.answers_fail.mp h
    exact ⟨Nat.le_refl 0, .inl ⟨by simp, _, rfl⟩⟩
  | succ count ih =>
    rcases Talk.answers_bind.mp h with ⟨e, hfirst, rfl⟩ | ⟨es₁, answer, es₂, rfl, hfirst, hrest⟩
    · obtain ⟨hcount, hcases⟩ := attempt_answers hfirst
      refine ⟨by omega, ?_⟩
      rcases hcases with ⟨hidle, -⟩ | ⟨before, path, -, hanswer, -⟩
      · exact .inl ⟨hidle, _, rfl⟩
      · cases hanswer
    · obtain ⟨hcount, hcases⟩ := attempt_answers hfirst
      rcases hcases with ⟨hidle, hnone⟩ | ⟨before, path, rfl, hanswer, hidle⟩
      · rcases hnone with hnone | ⟨error, he⟩
        · cases hnone
          obtain ⟨hle, hlater⟩ := ih hrest
          refine ⟨by rw [attempts_append]; omega, ?_⟩
          rcases hlater with ⟨hlater, he⟩ | ⟨before, path, rfl, hr, hbefore⟩
          · refine .inl ⟨fun c hc => ?_, he⟩
            exact (List.mem_append.mp hc).elim (hidle c) (hlater c)
          · refine .inr ⟨es₁ ++ before, path, (List.append_assoc ..).symm, hr, fun c hc => ?_⟩
            exact (List.mem_append.mp hc).elim (hidle c) (hbefore c)
        · cases he
      · cases hanswer
        obtain ⟨rfl, rfl⟩ := Talk.answers_pure.mp hrest
        rw [List.append_nil]
        exact ⟨by omega, .inr ⟨before, path, rfl, rfl, hidle⟩⟩

/-- The transport answered, with headers that are admitted. -/
def Admitted (request : RemoteMediaRequest) (policy : RemoteMediaPolicy)
    (answer : Except DomainError RemoteMediaResponse) (response : RemoteMediaResponse) : Prop :=
  answer = .ok response ∧ response.admitted request policy = .ok ()

/-- **What a run of the stager calls, whatever it is answered**: the transport once, first; then
    nothing if the headers are rejected; else at most sixteen attempts, and all that follows is
    idle, or one file is created and receives the body. -/
theorem stageWith_answers {r : Except DomainError OwnedStagedMedia}
    (h : (stager.stageWith request policy).Answers es r) :
    ∃ answer rest, es = ⟨.get request.url, answer⟩ :: rest ∧ attempts rest ≤ 16 ∧
      ((∀ response, ¬ Admitted request policy answer response) → rest = []) ∧
      (((∀ c ∈ rest, Idle c) ∧ ∃ error, r = .error error) ∨
        ∃ response before path tail, Admitted request policy answer response ∧
          rest = before ++ created path :: tail ∧ (∀ c ∈ before, Idle c) ∧
          (receive request response path).Answers tail r) := by
  obtain ⟨answer, rest, rfl, hget⟩ := Talk.answers_ask_bind.mp h
  refine ⟨answer, rest, rfl, ?_⟩
  rcases Talk.answers_lift_bind.mp hget with ⟨e, -, rfl, rfl⟩ | ⟨response, rfl, hchecks⟩
  · exact ⟨Nat.zero_le _, fun _ => rfl, .inl ⟨by simp, e, rfl⟩⟩
  · rcases Talk.answers_lift_bind.mp hchecks with ⟨e, -, rfl, rfl⟩ | ⟨_, hok, hdirectory⟩
    · exact ⟨Nat.zero_le _, fun _ => rfl, .inl ⟨by simp, e, rfl⟩⟩
    · have hadmitted : Admitted request policy (.ok response) response := ⟨rfl, hok⟩
      obtain ⟨reply, rest', rfl, hmade⟩ := Talk.answers_ask_bind.mp hdirectory
      have hidle₁ : Idle ⟨.file (.createDirAll stager.directory), reply⟩ := trivial
      rcases Talk.answers_lift_bind.mp hmade with ⟨e, -, rfl, rfl⟩ | ⟨_, -, hallocate⟩
      · refine ⟨Nat.zero_le _, fun hnone => absurd hadmitted (hnone response), ?_⟩
        exact .inl ⟨by simpa using hidle₁, e, rfl⟩
      · rcases Talk.answers_bind.mp hallocate with
          ⟨e, hattempts, rfl⟩ | ⟨es₁, path, es₂, rfl, hattempts, hreceive⟩
        · obtain ⟨hle, hcases⟩ := allocate_answers hattempts
          refine ⟨hle, fun hnone => absurd hadmitted (hnone response), ?_⟩
          rcases hcases with ⟨hidle, -⟩ | ⟨before, path, -, hpath, -⟩
          · exact .inl ⟨List.forall_mem_cons.mpr ⟨hidle₁, hidle⟩, e, rfl⟩
          · cases hpath
        · obtain ⟨hle, hcases⟩ := allocate_answers hattempts
          have hlater : attempts es₂ = 0 := receive_attempts hreceive
          refine ⟨?_, fun hnone => absurd hadmitted (hnone response), ?_⟩
          · rw [← List.cons_append, attempts_append, hlater]
            exact hle
          · rcases hcases with ⟨-, e, he⟩ | ⟨before, path', rfl, hpath, hidle⟩
            · cases he
            · cases hpath
              refine .inr ⟨response, _ :: before, path, es₂, hadmitted, ?_,
                List.forall_mem_cons.mpr ⟨hidle₁, hidle⟩, hreceive⟩
              simp

/-- A run in which nothing fails, on a body that supplies what may be taken of it. -/
theorem stageWith_exists {answer : Except DomainError RemoteMediaResponse} (name : String)
    (hadmitted : Admitted request policy answer response)
    (hsupplies : Supplies response.body request.limit)
    (hle : min request.limit (readToEnd response.body).1.length ≤ request.maxBytes.toNat) :
    ∃ chunks : List (List UInt8), (stager.stageWith request policy).Answers
      ([⟨.get request.url, answer⟩, ⟨.file (.createDirAll stager.directory), Except.ok ()⟩,
          ⟨.nextName, name⟩, created (stager.directory.join name)] ++
        (chunks.map (written (stager.directory.join name)) ++
          [flushed (stager.directory.join name)]))
      (.ok ⟨stager.directory.join name⟩) := by
  obtain ⟨rfl, hchecks⟩ := hadmitted
  obtain ⟨chunks, hcopy⟩ := @copy_exists (stager.directory.join name) response.body _ 0 hsupplies
  obtain ⟨chunks', hmap, hflat, -⟩ := (copy_answers hcopy).2 _ rfl
  have hsame : chunks = chunks' := List.map_injective_iff.mpr written_injective hmap
  have hlen : chunks.flatten.length ≤ request.maxBytes.toNat := by
    rw [hsame, hflat, List.length_take]
    exact hle
  refine ⟨chunks, ?_⟩
  refine Talk.answers_ask_bind.mpr ⟨_, _, rfl, Talk.answers_lift_bind.mpr (.inr ⟨_, rfl, ?_⟩)⟩
  refine Talk.answers_lift_bind.mpr (.inr ⟨_, hchecks, ?_⟩)
  refine Talk.answers_ask_bind.mpr ⟨_, _, rfl, Talk.answers_lift_bind.mpr (.inr ⟨_, rfl, ?_⟩)⟩
  refine Talk.answers_bind.mpr (.inr ⟨[⟨.nextName, name⟩, created _],
    stager.directory.join name, _, rfl, ?_, ?_⟩)
  · refine Talk.answers_bind.mpr (.inr ⟨[⟨.nextName, name⟩, created _], some _, [],
      (List.append_nil _).symm, ?_, Talk.answers_pure.mpr ⟨rfl, rfl⟩⟩)
    refine Talk.answers_ask_bind.mpr ⟨_, _, rfl, Talk.answers_ask_bind.mpr ⟨_, _, rfl, ?_⟩⟩
    exact Talk.answers_pure.mpr ⟨rfl, rfl⟩
  · refine Talk.answers_bind.mpr (.inr ⟨_, .ok chunks.flatten.length, [],
      (List.append_nil _).symm, Talk.answers_outcome.mpr ⟨_, ?_, rfl⟩, ?_⟩)
    · refine Talk.answers_bind.mpr (.inr ⟨_, _, _, rfl, hcopy, ?_⟩)
      refine Talk.answers_ask_bind.mpr ⟨_, _, rfl, Talk.answers_lift_bind.mpr (.inr ⟨_, rfl, ?_⟩)⟩
      exact Talk.answers_pure.mpr ⟨rfl, by rw [Nat.zero_add]⟩
    · dsimp only
      rw [if_neg (by omega)]
      exact Talk.answers_pure.mpr ⟨rfl, rfl⟩

end Stage

end Staging

end MatriXpost
