/-
  File:      MatriXpost/Runner/StagedPublication.lean
  Subject:   A PUBLICATION WITH A STAGED MEDIUM: the stager, the executor and the cleanup that
             `publish_with_staged_media` calls, in the order it calls them.

  * `publishWithStagedMedia_answers` lists the runs there are, whatever is answered;
  * `publishWithStagedMedia_task`: seen by the executor alone, a run is one of the runner's task,
    which knows of staging and cleanup only how they end;
  * `staging_leaves_nothing_behind` puts the stager's runs and the publications together.
-/
import MatriXpost.Runner.StagedFiles
import MatriXpost.Process.Entry

namespace MatriXpost

namespace Staging

/-! ## 1. The program -/

inductive PublicationCall where
  | stage (request : RemoteMediaRequest)
  | execute (platform : Platform) (request : PublishRequest)
  | cleanup (staged : OwnedStagedMedia)

def PublicationCall.Reply : PublicationCall → Type
  | .stage _ => Except DomainError OwnedStagedMedia
  | .execute _ _ => Except String String
  | .cleanup _ => Except DomainError Unit

abbrev PublicationCalled := Called PublicationCall PublicationCall.Reply

abbrev PublicationTask := Talk PublicationCall PublicationCall.Reply String

def stageCall (request : RemoteMediaRequest) :
    PublicationTask (Except DomainError OwnedStagedMedia) :=
  Talk.ask (PublicationCall.stage request)

def execute (platform : Platform) (request : PublishRequest) :
    PublicationTask (Except String String) :=
  Talk.ask (PublicationCall.execute platform request)

def cleanup (staged : OwnedStagedMedia) : PublicationTask (Except DomainError Unit) :=
  Talk.ask (PublicationCall.cleanup staged)

/-- The policy the runner stages by; its stager is called. -/
structure RemoteMediaSupport where
  policy : MediaStagingPolicy

def RemoteMediaSupport.stage (support : RemoteMediaSupport) :
    MediaSource → PublicationTask OwnedStagedMedia
  | .localFile _ => Talk.fail "remote media staging requires an HTTP(S) media URL"
  | .remoteUrl url => do
    let request ← Talk.lift ((RemoteMediaRequest.new url support.policy.policy).mapError
      fun _ => "remote media URL is not supported")
    let staged ← stageCall request
    Talk.lift (staged.mapError fun _ => "remote media staging failed")

def publishWithStagedMedia (remoteMedia : Option RemoteMediaSupport) (platform : Platform)
    (request : PublishRequest) : PublicationTask String :=
  match request.source with
  | .localFile _ => do
    let publish ← execute platform request
    Talk.lift publish
  | .remoteUrl _ => do
    let support ← Talk.lift (match remoteMedia with
      | some support => .ok support
      | none => .error
        "remote media staging is disabled; start the runner with --remote-media-dir")
    let staged ← support.stage request.source
    let publish ← execute platform { request with source := .localFile staged.path }
    let closed ← cleanup staged
    match publish, closed with
    | .error error, _ => Talk.fail error
    | .ok _, .error _ => Talk.fail "staged remote media cleanup failed"
    | .ok jobId, .ok _ => pure jobId

/-! ## 2. Its runs -/

section Runs
variable {remoteMedia : Option RemoteMediaSupport} {platform : Platform} {request : PublishRequest}
  {es : List PublicationCalled} {r : Except String String}

/-- What the two replies come to. -/
def settled (publish : Except String String) (closed : Except DomainError Unit) :
    Except String String :=
  match publish, closed with
  | .error error, _ => .error error
  | .ok _, .error _ => .error "staged remote media cleanup failed"
  | .ok jobId, .ok _ => .ok jobId

/-- The runs of `publish_with_staged_media`. -/
inductive PublicationRun (remoteMedia : Option RemoteMediaSupport) (platform : Platform)
    (request : PublishRequest) : List PublicationCalled → Except String String → Prop
  | onLocal {path : PathBuf} {reply : Except String String} : request.source = .localFile path →
      PublicationRun remoteMedia platform request [⟨.execute platform request, reply⟩] reply
  | disabled {url : Url} : request.source = .remoteUrl url → remoteMedia = none →
      PublicationRun remoteMedia platform request []
        (.error "remote media staging is disabled; start the runner with --remote-media-dir")
  | unsupported {url : Url} {support : RemoteMediaSupport} : request.source = .remoteUrl url →
      remoteMedia = some support →
      PublicationRun remoteMedia platform request [] (.error "remote media URL is not supported")
  | unstaged {url : Url} {support : RemoteMediaSupport} {media : RemoteMediaRequest}
      {cause : DomainError} : request.source = .remoteUrl url → remoteMedia = some support →
      PublicationRun remoteMedia platform request [⟨.stage media, Except.error cause⟩]
        (.error "remote media staging failed")
  | staged {url : Url} {support : RemoteMediaSupport} {media : RemoteMediaRequest}
      {staged : OwnedStagedMedia} {publish : Except String String}
      {closed : Except DomainError Unit} : request.source = .remoteUrl url →
      remoteMedia = some support →
      PublicationRun remoteMedia platform request
        [⟨.stage media, Except.ok staged⟩,
          ⟨.execute platform { request with source := .localFile staged.path }, publish⟩,
          ⟨.cleanup staged, closed⟩]
        (settled publish closed)

/-- To stage a URL calls the stager, once, or is refused before. -/
theorem RemoteMediaSupport.stage_answers {support : RemoteMediaSupport} {url : Url}
    {result : Except String OwnedStagedMedia}
    (h : (support.stage (.remoteUrl url)).Answers es result) :
    (es = [] ∧ result = .error "remote media URL is not supported") ∨
    ∃ (media : RemoteMediaRequest) (reply : Except DomainError OwnedStagedMedia),
      es = [⟨.stage media, reply⟩] ∧
        result = reply.mapError fun _ => "remote media staging failed" := by
  unfold RemoteMediaSupport.stage at h
  obtain ⟨e, hnew, rfl, rfl⟩ | ⟨media, -, hask⟩ := Talk.answers_lift_bind.mp h
  · refine .inl ⟨rfl, ?_⟩
    cases hurl : RemoteMediaRequest.new url support.policy.policy with
    | ok media =>
      rw [hurl] at hnew
      cases hnew
    | error cause =>
      rw [hurl] at hnew
      exact congrArg Except.error (Except.error.inj hnew).symm
  · obtain ⟨reply, rest, rfl, hlift⟩ := Talk.answers_ask_bind.mp hask
    obtain ⟨rfl, hresult⟩ := Talk.answers_lift.mp hlift
    exact .inr ⟨media, reply, rfl, hresult⟩

/-- The executor and the cleanup are called, and their replies are settled. -/
theorem settled_answers {staged : OwnedStagedMedia}
    (h : Talk.Answers (do
      let publish ← execute platform request
      let closed ← cleanup staged
      match publish, closed with
      | .error error, _ => Talk.fail error
      | .ok _, .error _ => Talk.fail "staged remote media cleanup failed"
      | .ok jobId, .ok _ => pure jobId) es r) :
    ∃ (publish : Except String String) (closed : Except DomainError Unit),
      es = [⟨.execute platform request, publish⟩, ⟨.cleanup staged, closed⟩] ∧
        r = settled publish closed := by
  obtain ⟨publish, rest, rfl, hexecuted⟩ := Talk.answers_ask_bind.mp h
  obtain ⟨closed, rest', rfl, hclosed⟩ := Talk.answers_ask_bind.mp hexecuted
  have hend : rest' = [] ∧ r = settled publish closed := by
    cases publish with
    | error error => exact Talk.answers_fail.mp hclosed
    | ok jobId =>
      cases closed with
      | error cause => exact Talk.answers_fail.mp hclosed
      | ok done => exact Talk.answers_pure.mp hclosed
  obtain ⟨rfl, hr⟩ := hend
  exact ⟨publish, closed, rfl, hr⟩

/-- **The runs there are, whatever is answered.** -/
theorem publishWithStagedMedia_answers
    (h : (publishWithStagedMedia remoteMedia platform request).Answers es r) :
    PublicationRun remoteMedia platform request es r := by
  unfold publishWithStagedMedia at h
  split at h
  · rename_i path hsource
    obtain ⟨reply, rest, rfl, hreply⟩ := Talk.answers_ask_bind.mp h
    obtain ⟨rfl, rfl⟩ := Talk.answers_lift.mp hreply
    exact .onLocal hsource
  · rename_i url hsource
    obtain ⟨e, he, rfl, rfl⟩ | ⟨support, hsome, hstage⟩ := Talk.answers_lift_bind.mp h
    · split at he
      · cases he
      · cases he
        exact .disabled hsource rfl
    · have hmedia : remoteMedia = some support := by
        split at hsome <;> cases hsome
        rfl
      rw [hsource] at hstage
      obtain ⟨e, hfail, rfl⟩ | ⟨es₁, staged, es₂, rfl, hok, hrest⟩ := Talk.answers_bind.mp hstage
      · obtain ⟨rfl, he⟩ | ⟨media, reply, rfl, he⟩ := RemoteMediaSupport.stage_answers hfail
        · cases he
          exact .unsupported hsource hmedia
        · cases reply with
          | error cause =>
            cases he
            exact .unstaged hsource hmedia
          | ok staged => cases he
      · obtain ⟨rfl, he⟩ | ⟨media, reply, rfl, he⟩ := RemoteMediaSupport.stage_answers hok
        · cases he
        · cases reply with
          | error cause => cases he
          | ok answered =>
            cases he
            obtain ⟨publish, closed, rfl, rfl⟩ := settled_answers hrest
            exact .staged hsource hmedia

/-! ## 3. The runner's task -/

/-- The calls of the executor, as the runner's task makes them. -/
def executed : PublicationCalled → Option (Called Call Call.Reply)
  | ⟨.execute platform request, reply⟩ => some ⟨.execute platform request, reply⟩
  | _ => none

/-- **Seen by the executor alone, a run is one of the runner's task**, for what staging and cleanup
    answered in it. -/
theorem publishWithStagedMedia_task
    (h : (publishWithStagedMedia remoteMedia platform request).Answers es r) :
    ∃ service : Option MatriXpost.RemoteMediaSupport, service.isSome = remoteMedia.isSome ∧
      (MatriXpost.publishWithStagedMedia service platform request).Answers
        (es.filterMap executed) r := by
  cases publishWithStagedMedia_answers h with
  | @onLocal path reply hsource =>
    refine ⟨remoteMedia.map fun _ => ⟨fun _ => .error "", .ok ()⟩, by simp, ?_⟩
    unfold MatriXpost.publishWithStagedMedia
    rw [hsource]
    exact answers_call.mpr ⟨_, [], rfl, answers_pure.mpr ⟨rfl, rfl⟩⟩
  | disabled hsource hnone =>
    refine ⟨none, by rw [hnone]; rfl, ?_⟩
    unfold MatriXpost.publishWithStagedMedia
    rw [hsource]
    exact answers_pure.mpr ⟨rfl, rfl⟩
  | unsupported hsource hsome =>
    refine ⟨some ⟨fun _ => .error "remote media URL is not supported", .ok ()⟩,
      by rw [hsome]; rfl, ?_⟩
    unfold MatriXpost.publishWithStagedMedia
    rw [hsource]
    exact answers_pure.mpr ⟨rfl, rfl⟩
  | unstaged hsource hsome =>
    refine ⟨some ⟨fun _ => .error "remote media staging failed", .ok ()⟩,
      by rw [hsome]; rfl, ?_⟩
    unfold MatriXpost.publishWithStagedMedia
    rw [hsource]
    exact answers_pure.mpr ⟨rfl, rfl⟩
  | @staged url support media staged publish closed hsource hsome =>
    refine ⟨some ⟨fun _ => .ok staged.path,
      closed.mapError fun _ => "staged remote media cleanup failed"⟩, by rw [hsome]; rfl, ?_⟩
    unfold MatriXpost.publishWithStagedMedia
    rw [hsource]
    refine answers_call.mpr ⟨publish, [], rfl, ?_⟩
    cases publish with
    | error error => exact answers_pure.mpr ⟨rfl, rfl⟩
    | ok jobId => cases closed <;> exact answers_pure.mpr ⟨rfl, rfl⟩

/-! ## 4. What a publication owes -/

def PublicationCall.stages : PublicationCall → Bool
  | .stage _ => true
  | _ => false

/-- The file a call staged. -/
def stagedFile : PublicationCalled → Option OwnedStagedMedia
  | ⟨.stage _, .ok staged⟩ => some staged
  | _ => none

/-- The file a call cleaned up. -/
def cleanedFile : PublicationCalled → Option OwnedStagedMedia
  | ⟨.cleanup staged, _⟩ => some staged
  | _ => none

/-- A publication, its calls and its result. -/
structure CleanPublication (request : PublishRequest) (es : List PublicationCalled)
    (r : Except String String) : Prop where
  stagedOnce : es.countP (·.call.stages) ≤ 1
  /-- The executor is given the request with a local file: its own, or one that was staged. -/
  executedLocally : ∀ before platform sent reply after,
    es = before ++ ⟨.execute platform sent, reply⟩ :: after →
      ∃ path, sent = { request with source := .localFile path } ∧
        (request.source = .localFile path ∨ ∃ media, ⟨.stage media, Except.ok ⟨path⟩⟩ ∈ before)
  /-- Every staged file is cleaned up, once. -/
  cleaned : es.filterMap cleanedFile = es.filterMap stagedFile
  succeeded : ∀ jobId, r = .ok jobId →
    (∃ platform sent, ⟨.execute platform sent, Except.ok jobId⟩ ∈ es) ∧
      ∀ staged reply, ⟨.cleanup staged, reply⟩ ∈ es → reply = Except.ok ()

/-- A publication that calls nobody and fails. -/
theorem cleanPublication_nil (error : String) : CleanPublication request [] (.error error) where
  stagedOnce := Nat.zero_le _
  executedLocally before platform sent reply after he := by simp at he
  cleaned := rfl
  succeeded jobId hr := by cases hr

/-- **Every run is clean.** -/
theorem PublicationRun.clean (h : PublicationRun remoteMedia platform request es r) :
    CleanPublication request es r := by
  cases h with
  | @onLocal path reply hsource =>
    refine ⟨Nat.zero_le _, fun before platform sent reply' after he => ?_, rfl, fun jobId hr => ?_⟩
    · obtain ⟨rfl, hcall⟩ := cut_singleton he
      cases hcall
      exact ⟨path, by rw [← hsource], .inl hsource⟩
    · refine ⟨⟨platform, request, by rw [hr]; exact List.mem_singleton_self _⟩, ?_⟩
      intro staged reply' hmem
      cases List.mem_singleton.mp hmem
  | disabled _ _ => exact cleanPublication_nil _
  | unsupported _ _ => exact cleanPublication_nil _
  | unstaged _ _ =>
    refine ⟨Nat.le_refl 1, fun before platform sent reply after he => ?_, rfl, fun jobId hr => ?_⟩
    · obtain ⟨rfl, hcall⟩ := cut_singleton he
      cases hcall
    · cases hr
  | @staged url support media staged publish closed hsource _ =>
    refine ⟨Nat.le_refl 1, fun before platform' sent reply after he => ?_, rfl, fun jobId hr => ?_⟩
    · -- The executor is the second of the three.
      cases before with
      | nil => cases he
      | cons c before =>
        obtain ⟨rfl, hrest⟩ := List.cons.inj he
        cases before with
        | nil =>
          cases hrest
          exact ⟨staged.path, rfl, .inr ⟨media, List.mem_singleton_self _⟩⟩
        | cons c before =>
          obtain ⟨-, hcall⟩ := cut_singleton (List.cons.inj hrest).2
          cases hcall
    · cases publish with
      | error error => cases hr
      | ok jobId' =>
        cases closed with
        | error cause => cases hr
        | ok done =>
          cases hr
          refine ⟨⟨platform, _, List.mem_cons_of_mem _ List.mem_cons_self⟩, ?_⟩
          intro staged' reply' hmem
          rcases List.mem_cons.mp hmem with he | hmem
          · cases he
          · rcases List.mem_pair.mp hmem with he | he
            · cases he
            · cases he
              rfl

end Runs

/-- **Staging leaves nothing behind**: all runs of the stager on a response are clean exactly when
    the body ends in reach, and every publication is clean. -/
theorem staging_leaves_nothing_behind (stager : HttpRemoteMediaStager)
    (request : RemoteMediaRequest) (policy : RemoteMediaPolicy)
    (answer : Except DomainError RemoteMediaResponse) :
    (StagesCleanly stager request policy answer ↔ EndsInReach request policy answer) ∧
    ∀ remoteMedia platform request es r,
      (publishWithStagedMedia remoteMedia platform request).Answers es r →
        CleanPublication request es r :=
  ⟨stagesCleanly_iff, fun _ _ _ _ _ h => (publishWithStagedMedia_answers h).clean⟩

end Staging

end MatriXpost
