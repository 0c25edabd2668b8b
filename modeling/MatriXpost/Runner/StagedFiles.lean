/-
  File:      MatriXpost/Runner/StagedFiles.lean
  Subject:   THE FILES A STAGING RUN LEAVES, whatever the file system fails at.

  A file system is the contents of its files; a failed write may have written a part.
  `Handles` says what a call may answer and do there.

  * `trace_on`: calls on one file leave every other file alone;
  * `CleanRun` is what a run owes: an answered file was created by it and holds the body, a failed
    run has called for the removal of what it created, and no other file is touched;
  * `stagesCleanly_iff`: all runs on a response are clean exactly when the limit is below
    `u64::MAX` or the body ends by itself within `u64::MAX` bytes. The stager takes one byte more
    than the limit to see that there are more; of `u64::MAX` there is no such byte.
-/
import Mathlib.Logic.Function.Basic
import MatriXpost.Lib.Trace
import MatriXpost.Runner.Staging

namespace MatriXpost

namespace Staging

/-! ## 1. A file system -/

/-- The contents of the files there are. -/
abbrev Files := PathBuf → Option (List UInt8)

/-- A file with these bytes at its end. -/
def Files.append (fs : Files) (path : PathBuf) (bytes : List UInt8) : Files :=
  Function.update fs path ((fs path).map (· ++ bytes))

/-- What a file call may answer and do. -/
def FileCall.Handles : FileCall → Files → IoResult Unit → Files → Prop
  | .createDirAll _, fs, _, fs' => fs' = fs
  | .createNew path, fs, .ok _, fs' => fs path = none ∧ fs' = Function.update fs path (some [])
  | .createNew _, fs, .error _, fs' => fs' = fs
  | .write path bytes, fs, .ok _, fs' => fs' = fs.append path bytes
  | .write path bytes, fs, .error _, fs' => ∃ part, part <+: bytes ∧ fs' = fs.append path part
  | .flush _, fs, _, fs' => fs' = fs
  | .removeFile path, fs, .ok _, fs' => fs' = Function.update fs path none
  | .removeFile _, fs, .error _, fs' => fs' = fs

/-- What a call of the stager may answer and do. -/
def Handles (fs : Files) (c : StagingCalled) (fs' : Files) : Prop :=
  match c with
  | ⟨.file call, reply⟩ => call.Handles fs reply fs'
  | ⟨.get _, _⟩ | ⟨.nextName, _⟩ => fs' = fs

section Frame
variable {fs fs' : Files} {path q : PathBuf} {c : StagingCalled} {es : List StagingCalled}

/-- A call on this file: a write, a flush or its removal. -/
def On (path : PathBuf) (c : StagingCalled) : Prop :=
  Fills path c ∨ c.call = .file (.removeFile path)

/-- A write to this file, or its removal. -/
def Touches (path : PathBuf) (c : StagingCalled) : Prop :=
  (∃ bytes, c.call = .file (.write path bytes)) ∨ c.call = .file (.removeFile path)

/-- The file a call created. -/
def creation : StagingCalled → Option PathBuf
  | ⟨.file (.createNew path), .ok _⟩ => some path
  | _ => none

/-- The files a run created. -/
def creations (es : List StagingCalled) : List PathBuf := es.filterMap creation

theorem creation_created (path : PathBuf) : creation (created path) = some path := rfl

theorem Idle.creation_none (h : Idle c) : creation c = none := by
  obtain ⟨call, reply⟩ := c
  cases call with
  | get url => rfl
  | nextName => rfl
  | file call =>
    cases call with
    | createNew p =>
      obtain ⟨error, rfl⟩ := h
      rfl
    | _ => rfl

theorem On.creation_none (h : On path c) : creation c = none := by
  obtain ⟨call, reply⟩ := c
  rcases h with (⟨bytes, he⟩ | he) | he
  all_goals
    cases he
    rfl

theorem Idle.not_touches (h : Idle c) : ¬ Touches q c := by
  obtain ⟨call, reply⟩ := c
  intro h
  obtain ⟨bytes, he⟩ | he := h
  all_goals
    cases he
    exact h

theorem On.path_of_touches (h : On path c) (hq : Touches q c) : q = path := by
  obtain ⟨call, reply⟩ := c
  rcases h with (⟨bytes, he⟩ | he) | he <;> cases he <;> rcases hq with ⟨bytes', hq⟩ | hq <;>
    cases hq <;> rfl

/-- An idle call changes no file. -/
theorem Idle.keeps (h : Idle c) (hs : Handles fs c fs') : fs' = fs := by
  obtain ⟨call, reply⟩ := c
  cases call with
  | get url => exact hs
  | nextName => exact hs
  | file call =>
    cases call with
    | createDirAll p => exact hs
    | createNew p =>
      obtain ⟨error, rfl⟩ := h
      exact hs
    | write p bytes => exact h.elim
    | flush p => exact h.elim
    | removeFile p => exact h.elim

theorem append_other (bytes : List UInt8) (hq : q ≠ path) : fs.append path bytes q = fs q :=
  Function.update_of_ne hq _ fs

theorem append_self {old : List UInt8} (bytes : List UInt8) (h : fs path = some old) :
    fs.append path bytes path = some (old ++ bytes) := by
  simp [Files.append, h]

/-- A call on one file leaves the others alone. -/
theorem On.keeps (h : On path c) (hs : Handles fs c fs') (hq : q ≠ path) : fs' q = fs q := by
  obtain ⟨call, reply⟩ := c
  rcases h with (⟨bytes, he⟩ | he) | he
  · cases he
    cases reply with
    | ok _ =>
      have hfs : fs' = fs.append path bytes := hs
      rw [hfs, append_other bytes hq]
    | error error =>
      obtain ⟨part, -, rfl⟩ := hs
      exact append_other part hq
  · cases he
    have hfs : fs' = fs := hs
    rw [hfs]
  · cases he
    cases reply with
    | ok _ =>
      have hfs : fs' = Function.update fs path none := hs
      rw [hfs, Function.update_of_ne hq]
    | error error =>
      have hfs : fs' = fs := hs
      rw [hfs]

theorem trace_idle (ht : Trace Handles fs es fs') (h : ∀ c ∈ es, Idle c) : fs' = fs := by
  refine ht.invariant_on (I := fun m => m = fs) h rfl fun s₁ e s₂ he hs hstep => ?_
  rw [he.keeps hstep, hs]

/-- **Calls on one file leave every other file alone.** -/
theorem trace_on (ht : Trace Handles fs es fs') (h : ∀ c ∈ es, On path c) (hq : q ≠ path) :
    fs' q = fs q := by
  refine ht.invariant_on (I := fun m => m q = fs q) h rfl fun s₁ e s₂ he hs hstep => ?_
  rw [he.keeps hstep hq, hs]

/-- Writes that go well write. -/
theorem trace_written {chunks : List (List UInt8)} {old : List UInt8}
    (ht : Trace Handles fs (chunks.map (written path)) fs') (hold : fs path = some old) :
    fs' path = some (old ++ chunks.flatten) := by
  induction chunks generalizing fs old with
  | nil =>
    cases ht
    rw [hold, List.flatten_nil, List.append_nil]
  | cons bytes rest ih =>
    cases ht with
    | cons hs ht =>
      have hfs : _ = fs.append path bytes := hs
      have hnext := ih ht (by rw [hfs]; exact append_self bytes hold)
      rw [hnext, List.flatten_cons, List.append_assoc]

/-- A file system on which all writes go well. -/
theorem trace_written_exists (chunks : List (List UInt8)) :
    ∃ fs', Trace Handles fs (chunks.map (written path)) fs' := by
  induction chunks generalizing fs with
  | nil => exact ⟨fs, .nil⟩
  | cons bytes rest ih =>
    obtain ⟨fs', ht⟩ := @ih (fs.append path bytes)
    exact ⟨fs', .cons rfl ht⟩

end Frame

/-! ## 2. What a run owes -/

/-- A run with this answer of the transport, its calls, its result and the files before and after
    it. -/
structure CleanRun (request : RemoteMediaRequest) (policy : RemoteMediaPolicy)
    (answer : Except DomainError RemoteMediaResponse) (fs : Files) (es : List StagingCalled)
    (r : Except DomainError OwnedStagedMedia) (fs' : Files) : Prop where
  /-- An answered file is the one file created; it holds all of a body that did not fail. -/
  delivered : ∀ staged, r = .ok staged → creations es = [staged.path] ∧ fs staged.path = none ∧
    ∃ response bytes, answer = .ok response ∧ readToEnd response.body = (bytes, none) ∧
      fs' staged.path = some bytes ∧ bytes.length ≤ request.maxBytes.toNat
  /-- A failed run has called for the removal of what it created. -/
  discarded : ∀ error, r = .error error → ∀ before path after,
    es = before ++ created path :: after → ∃ reply, ⟨.file (.removeFile path), reply⟩ ∈ after
  /-- No file that was there is created, written, removed or changed. -/
  foreign : ∀ path, fs path ≠ none → path ∉ creations es ∧ (∀ c ∈ es, ¬ Touches path c) ∧
    fs' path = fs path
  /-- Rejected headers: nothing is created. -/
  rejected : (∀ response, ¬ Admitted request policy answer response) → creations es = []
  bounded : attempts es ≤ 16

/-- Every run on this answer of the transport is clean, whatever else is answered. -/
def StagesCleanly (stager : HttpRemoteMediaStager) (request : RemoteMediaRequest)
    (policy : RemoteMediaPolicy) (answer : Except DomainError RemoteMediaResponse) : Prop :=
  ∀ fs rest r fs',
    (stager.stageWith request policy).Answers (⟨.get request.url, answer⟩ :: rest) r →
    Trace Handles fs (⟨.get request.url, answer⟩ :: rest) fs' →
    CleanRun request policy answer fs (⟨.get request.url, answer⟩ :: rest) r fs'

/-- The limit is below `u64::MAX`, or the admitted body ends by itself within `u64::MAX` bytes:
    where it fails, it does so before. -/
def EndsInReach (request : RemoteMediaRequest) (policy : RemoteMediaPolicy)
    (answer : Except DomainError RemoteMediaResponse) : Prop :=
  ∀ response, Admitted request policy answer response → request.maxBytes.toNat = u64Max →
    (readToEnd response.body).1.length ≤ u64Max ∧
      ((readToEnd response.body).2 = none ∨ (readToEnd response.body).1.length < u64Max)

section Clean
variable {stager : HttpRemoteMediaStager} {request : RemoteMediaRequest}
  {policy : RemoteMediaPolicy} {answer : Except DomainError RemoteMediaResponse}
  {response : RemoteMediaResponse} {path : PathBuf} {fs fs' : Files}
  {es before tail : List StagingCalled} {r : Except DomainError OwnedStagedMedia}

theorem creations_idle (h : ∀ c ∈ es, Idle c) : creations es = [] :=
  List.filterMap_eq_nil_iff.mpr fun c hc => (h c hc).creation_none

theorem creations_on (h : ∀ c ∈ es, On path c) : creations es = [] :=
  List.filterMap_eq_nil_iff.mpr fun c hc => (h c hc).creation_none

/-- A run that created one file. -/
theorem creations_one (hbefore : ∀ c ∈ before, Idle c) (htail : ∀ c ∈ tail, On path c) :
    creations (before ++ created path :: tail) = [path] := by
  have hb := creations_idle hbefore
  have ht := creations_on htail
  unfold creations at hb ht ⊢
  rw [List.filterMap_append, List.filterMap_cons_some (creation_created path), hb, ht]
  rfl

/-- A run that created one file is cut at its creation in one way. -/
theorem cut_at_created {path' : PathBuf} {earlier after : List StagingCalled}
    (hbefore : ∀ c ∈ before, Idle c) (htail : ∀ c ∈ tail, On path c)
    (h : before ++ created path :: tail = earlier ++ created path' :: after) :
    path' = path ∧ after = tail := by
  have hb : ∀ c ∈ before, ¬ (creation c ≠ none) :=
    fun c hc => not_not.mpr (hbefore c hc).creation_none
  have ht : ∀ c ∈ tail, ¬ (creation c ≠ none) :=
    fun c hc => not_not.mpr (htail c hc).creation_none
  have hkind : creation (created path') ≠ none := by simp [creation_created]
  obtain ⟨-, hcreated, rfl⟩ := cut_unique hb ht hkind h
  have hsome := congrArg creation hcreated
  rw [creation_created, creation_created] at hsome
  exact ⟨(Option.some.inj hsome).symm, rfl⟩

/-- All that is called on while a body is received is the created file. -/
theorem receive_on (h : (receive request response path).Answers es r) : ∀ c ∈ es, On path c := by
  rcases receive_answers h with ⟨chunks, rfl, -⟩ | ⟨earlier, reply, error, rfl, -, hfills⟩
  · intro c hc
    rcases List.mem_append.mp hc with hc | hc
    · obtain ⟨bytes, -, rfl⟩ := List.mem_map.mp hc
      exact .inl (.inl ⟨bytes, rfl⟩)
    · rw [List.mem_singleton.mp hc]
      exact .inl (.inr rfl)
  · intro c hc
    rcases List.mem_append.mp hc with hc | hc
    · exact .inl (hfills c hc)
    · rw [List.mem_singleton.mp hc]
      exact .inr rfl

/-- The first bytes of a body are all of it: there are no more than the limit, and the stager
    would have seen one more. -/
theorem take_all (hends : EndsInReach request policy answer)
    (hadmitted : Admitted request policy answer response)
    (hle : ((readToEnd response.body).1.take request.limit).length ≤ request.maxBytes.toNat)
    (hsupplies : Supplies response.body request.limit) :
    (readToEnd response.body).1.take request.limit = (readToEnd response.body).1 ∧
      (readToEnd response.body).2 = none := by
  have hmax : request.maxBytes.toNat ≤ u64Max := by
    have := request.maxBytes.toNat_lt
    simp only [u64Max]
    omega
  rw [List.length_take] at hle
  unfold RemoteMediaRequest.limit at hle hsupplies ⊢
  by_cases hlast : request.maxBytes.toNat = u64Max
  · obtain ⟨hlen, hfailure⟩ := hends response hadmitted hlast
    refine ⟨List.take_of_length_le (by omega), ?_⟩
    rcases hsupplies with hnone | hlong
    · exact hnone
    · exact hfailure.resolve_right (by omega)
  · refine ⟨List.take_of_length_le (by omega), ?_⟩
    exact hsupplies.resolve_right (by omega)

/-- A run of idle calls that fails is clean. -/
theorem cleanRun_idle {error : DomainError} (hidle : ∀ c ∈ es, Idle c) (hbound : attempts es ≤ 16)
    (ht : Trace Handles fs es fs') : CleanRun request policy answer fs es (.error error) fs' where
  delivered staged h := by cases h
  discarded error _ before path after he := by
    have hmem : created path ∈ es := by
      rw [he]
      exact List.mem_append_right _ List.mem_cons_self
    obtain ⟨error, hreply⟩ := hidle _ hmem
    cases hreply
  foreign path _ := by
    rw [creations_idle hidle]
    refine ⟨List.not_mem_nil, fun c hc => (hidle c hc).not_touches, ?_⟩
    rw [trace_idle ht hidle]
  rejected _ := creations_idle hidle
  bounded := hbound

/-- **A run that creates a file is clean**, if the body ends in reach. -/
theorem cleanRun_received (hends : EndsInReach request policy answer)
    (hadmitted : Admitted request policy answer response) (hidle : ∀ c ∈ before, Idle c)
    (hreceive : (receive request response path).Answers tail r)
    (hbound : attempts (before ++ created path :: tail) ≤ 16)
    (ht : Trace Handles fs (before ++ created path :: tail) fs') :
    CleanRun request policy answer fs (before ++ created path :: tail) r fs' := by
  have hon := receive_on hreceive
  obtain ⟨fs₁, fs₂, hfirst, hcreate, hrest⟩ := ht.at_event
  obtain rfl := trace_idle hfirst hidle
  obtain ⟨hfree, rfl⟩ : fs₁ path = none ∧ fs₂ = Function.update fs₁ path (some []) := hcreate
  refine ⟨fun staged hr => ?_, fun error hr earlier path' after he => ?_, fun q hq => ?_,
    fun hnone => absurd hadmitted (hnone response), hbound⟩
  · rcases receive_answers hreceive with
      ⟨chunks, rfl, hok, hflat, hle, hsupplies⟩ | ⟨_, _, error, -, herr, -⟩
    · rw [hr] at hok
      cases hok
      obtain ⟨fs₃, hwritten, hflush⟩ := hrest.split
      have hfile := trace_written hwritten (Function.update_self path (some []) fs₁)
      have hsame : fs' = fs₃ := by
        cases hflush with
        | cons hs hnil =>
          cases hnil
          exact hs
      obtain ⟨hall, hnone⟩ := take_all hends hadmitted (by rw [← hflat]; exact hle) hsupplies
      rw [hall] at hflat
      refine ⟨creations_one hidle hon, hfree, response, chunks.flatten, hadmitted.1, ?_, ?_, hle⟩
      · rw [hflat, ← hnone]
      · rw [hsame, hfile, List.nil_append]
    · rw [hr] at herr
      cases herr
  · obtain ⟨rfl, rfl⟩ := cut_at_created hidle hon he
    rcases receive_answers hreceive with ⟨_, _, hok, _⟩ | ⟨filled, reply, _, rfl, -, -⟩
    · rw [hr] at hok
      cases hok
    · exact ⟨reply, List.mem_append_right _ List.mem_cons_self⟩
  · have hne : q ≠ path := by
      rintro rfl
      exact hq hfree
    rw [creations_one hidle hon]
    refine ⟨by simpa using hne, fun c hc htouch => ?_, ?_⟩
    · rcases List.mem_append.mp hc with hc | hc
      · exact (hidle c hc).not_touches htouch
      · rcases List.mem_cons.mp hc with rfl | hc
        · rcases htouch with ⟨bytes, he⟩ | he <;> cases he
        · exact hne ((hon c hc).path_of_touches htouch)
    · rw [trace_on hrest hon hne, Function.update_of_ne hne]

/-- **All runs on a response are clean exactly when its body ends in reach.** -/
theorem stagesCleanly_iff :
    StagesCleanly stager request policy answer ↔ EndsInReach request policy answer := by
  constructor
  · intro hclean response hadmitted hmax
    by_contra hout
    have hlong : u64Max ≤ (readToEnd response.body).1.length := by
      by_contra hshort
      exact hout ⟨by omega, .inr (by omega)⟩
    have hlimit : request.limit = u64Max := by
      unfold RemoteMediaRequest.limit
      omega
    -- A run in which nothing fails, on a file system without files.
    obtain ⟨chunks, hanswers⟩ := @stageWith_exists stager request policy response answer "a"
      hadmitted (.inr (by rw [hlimit]; exact hlong)) (by omega)
    obtain ⟨fs', hwritten⟩ := @trace_written_exists
      (Function.update (fun _ => none) (stager.directory.join "a") (some []))
      (stager.directory.join "a") chunks
    have hget : Handles (fun _ => none) ⟨.get request.url, answer⟩ (fun _ => none) := rfl
    have hmade : Handles (fun _ => none) ⟨.file (.createDirAll stager.directory), Except.ok ()⟩
        (fun _ => none) := rfl
    have hname : Handles (fun _ => none) ⟨.nextName, "a"⟩ (fun _ => none) := rfl
    have hcreated : Handles (fun _ => none) (created (stager.directory.join "a"))
        (Function.update (fun _ => none) (stager.directory.join "a") (some [])) := ⟨rfl, rfl⟩
    have hflushed : Handles fs' (flushed (stager.directory.join "a")) fs' := rfl
    have ht := Trace.cons hget (.cons hmade (.cons hname (.cons hcreated
      (hwritten.snoc hflushed))))
    obtain ⟨-, -, response', bytes, ha, hread, -, hle⟩ :=
      (hclean _ _ _ _ hanswers ht).delivered _ rfl
    obtain ⟨rfl, -⟩ := hadmitted
    cases ha
    rw [hread] at hout hlong
    exact hout ⟨by rw [← hmax]; exact hle, .inl rfl⟩
  · intro hends fs rest r fs' hanswers ht
    obtain ⟨answer', rest', he, hbound, hrejected, hcases⟩ := stageWith_answers hanswers
    obtain ⟨hget, rfl⟩ := List.cons.inj he
    cases hget
    have hget : Idle ⟨.get request.url, answer⟩ := trivial
    rcases hcases with ⟨hidle, error, rfl⟩ |
      ⟨response, before, path, tail, hadmitted, rfl, hidle, hreceive⟩
    · exact cleanRun_idle (List.forall_mem_cons.mpr ⟨hget, hidle⟩) hbound ht
    · exact cleanRun_received hends hadmitted (List.forall_mem_cons.mpr ⟨hget, hidle⟩) hreceive
        hbound ht

/-- The bytes of a body that is read in equal parts. -/
theorem length_readToEnd_replicate (n : Nat) {m : Nat} (hm : 0 < m) :
    (readToEnd (List.replicate n (.ok (List.replicate m 0)))).1.length = n * m := by
  have hne : List.replicate m (0 : UInt8) ≠ [] := by
    intro hnil
    have hlen := congrArg List.length hnil
    rw [List.length_replicate, List.length_nil] at hlen
    omega
  induction n with
  | zero => simp [readToEnd]
  | succ n ih =>
    rw [List.replicate_succ, readToEnd, if_neg hne]
    dsimp only
    rw [List.length_append, List.length_replicate, ih, Nat.succ_mul, Nat.add_comm]

/-- With the largest limit there is, a stream of `2 ^ 64` zeros, read 8192 at a time, is cut. -/
theorem not_stagesCleanly_zeros : ¬ StagesCleanly ⟨.utf8 "stage"⟩
    ⟨⟨"https", "//media.example/clip.mp4", rfl⟩, 18446744073709551615⟩
    ⟨18446744073709551615, fun _ => true⟩
    (.ok ⟨some "video/mp4", none, List.replicate (2 ^ 51) (.ok (List.replicate 8192 0))⟩) := by
  intro h
  obtain ⟨hle, -⟩ := stagesCleanly_iff.mp h _ ⟨rfl, rfl⟩ rfl
  rw [length_readToEnd_replicate _ (by omega)] at hle
  exact absurd hle (by decide)

end Clean

end Staging

end MatriXpost
