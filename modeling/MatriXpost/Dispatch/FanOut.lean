/-
  File:      MatriXpost/Dispatch/FanOut.lean
  Subject:   ONE REQUEST FANNED OUT TO ITS TARGETS: whom `dispatch_all` calls, and what each
             target's outcome depends on.

  * `targetOutcome` is the abstract view: the outcome of a platform by what is registered for it,
    and nothing else;
  * `dispatchAll_eq`: for a valid request the report is `targetOutcome` on the targets, and the
    calls are one for each target whose provider is available, in target order;
  * `fan_out` reads off it that no target is dropped or called twice, that an error stays with its
    target, and that two registries agreeing on a platform give it one outcome.
-/
import MatriXpost.Dispatch.Classify

namespace MatriXpost

/-! ## 1. One target -/

namespace ProviderRegistry

/-- The platform's provider is registered and available. -/
def Reaches (registry : ProviderRegistry) (p : Platform) : Prop :=
  ∃ provider, registry.providers p = some provider ∧ provider.availability = .available

instance (registry : ProviderRegistry) (p : Platform) : Decidable (registry.Reaches p) :=
  decidable_of_iff ((registry.providers p).any fun provider =>
    provider.availability = .available) (by
      cases h : registry.providers p <;> simp [Reaches, h])

/-- The outcome of a platform, by what is registered for it. -/
def targetOutcome (registry : ProviderRegistry) (request : PublishRequest) (p : Platform) :
    DispatchOutcome :=
  match registry.providers p with
  | none => .unavailable (registry.unregisteredReason p)
  | some provider =>
    match provider.availability with
    | .unavailable reason => .unavailable reason
    | .available =>
      match provider.enqueue request with
      | .ok outcome => outcome
      | .error error => .rejected error.text

/-- What is registered for a platform decides its outcome. -/
theorem targetOutcome_congr {registry registry' : ProviderRegistry} {p : Platform}
    (hproviders : registry.providers p = registry'.providers p)
    (hrunners : registry.runners p = registry'.runners p) (request : PublishRequest) :
    registry.targetOutcome request p = registry'.targetOutcome request p := by
  unfold targetOutcome unregisteredReason
  rw [hproviders, hrunners]

theorem targetOutcome_error {registry : ProviderRegistry} {request : PublishRequest} {p : Platform}
    {provider : PublishProvider} {error : DomainError} (hp : registry.providers p = some provider)
    (havailable : provider.availability = .available)
    (herror : provider.enqueue request = .error error) :
    registry.targetOutcome request p = .rejected error.text := by
  unfold targetOutcome
  rw [hp]
  dsimp only
  rw [havailable]
  dsimp only
  rw [herror]

variable {registry : ProviderRegistry} {request : PublishRequest}

/-- **A dispatch to a target** calls its provider if that is available, and ends as the target's
    outcome says. -/
theorem dispatch_target (hvalid : request.validate = .ok ()) {p : Platform}
    (hp : p ∈ request.targets) :
    (registry.dispatch p request).1 = (if registry.Reaches p then [⟨p, request⟩] else []) ∧
      (match (registry.dispatch p request).2 with
        | .ok outcome => outcome
        | .error error => DispatchOutcome.rejected error.text) =
        registry.targetOutcome request p := by
  unfold dispatch targetOutcome
  rw [hvalid]
  dsimp only
  rw [if_neg (not_not.mpr hp)]
  cases hprovider : registry.providers p with
  | none =>
    have hnone : ¬ registry.Reaches p := by simp [Reaches, hprovider]
    rw [if_neg hnone]
    exact ⟨rfl, rfl⟩
  | some provider =>
    dsimp only
    cases havailability : provider.availability with
    | available =>
      have hreaches : registry.Reaches p := ⟨provider, hprovider, havailability⟩
      rw [if_pos hreaches]
      exact ⟨rfl, rfl⟩
    | unavailable reason =>
      have hnone : ¬ registry.Reaches p := by
        intro h
        obtain ⟨other, hother, havailable⟩ := h
        rw [hprovider] at hother
        cases hother
        rw [havailability] at havailable
        cases havailable
      rw [if_neg hnone]
      exact ⟨rfl, rfl⟩

/-! ## 2. All targets -/

/-- The loop: one call for each available target in turn, and each target's own outcome. -/
theorem dispatchTargets_eq (hvalid : request.validate = .ok ()) (targets : List Platform)
    (htargets : ∀ p ∈ targets, p ∈ request.targets) (report : ProviderDispatchReport) :
    registry.dispatchTargets request targets report =
      ((targets.filter fun p => registry.Reaches p).map fun p => ⟨p, request⟩,
        ⟨fun p => if p ∈ targets then some (registry.targetOutcome request p)
          else report.outcomes p⟩) := by
  induction targets generalizing report with
  | nil => simp [dispatchTargets]
  | cons q rest ih =>
    obtain ⟨hcalls, houtcome⟩ :=
      @dispatch_target registry request hvalid q (htargets q List.mem_cons_self)
    have hrest : ∀ p ∈ rest, p ∈ request.targets :=
      fun p hp => htargets p (List.mem_cons_of_mem q hp)
    have hturn : registry.dispatchTargets request (q :: rest) report =
        ((registry.dispatch q request).1 ++ (registry.dispatchTargets request rest
            (report.insert q (registry.targetOutcome request q))).1,
          (registry.dispatchTargets request rest
            (report.insert q (registry.targetOutcome request q))).2) := by
      rw [← houtcome]
      rfl
    rw [hturn, ih hrest, hcalls]
    refine Prod.ext ?_ ?_
    · by_cases hq : registry.Reaches q <;> simp [hq]
    · simp only [ProviderDispatchReport.insert]
      congr 1
      funext p
      by_cases hmem : p ∈ rest
      · simp [hmem]
      · by_cases hpq : p = q <;> simp [hmem, hpq]

/-- **A valid request is fanned out**: the calls and the report. -/
theorem dispatchAll_eq (hvalid : request.validate = .ok ()) :
    registry.dispatchAll request =
      ((request.targets.filter fun p => registry.Reaches p).map fun p => ⟨p, request⟩,
        .ok ⟨fun p => if p ∈ request.targets then some (registry.targetOutcome request p)
          else none⟩) := by
  unfold dispatchAll
  rw [hvalid]
  dsimp only
  rw [dispatchTargets_eq hvalid request.targets (fun p hp => hp)]
  rfl

/-- Each available target is called once: targets are pairwise different. -/
theorem countP_calls (hvalid : request.validate = .ok ()) {p : Platform}
    (hp : p ∈ request.targets) (hreaches : registry.Reaches p) :
    (((request.targets.filter fun p => registry.Reaches p).map fun p =>
      (⟨p, request⟩ : ProviderCall)).countP fun call => call.platform = p) = 1 := by
  have hnodup := (PublishRequest.validate_targets hvalid).2.filter fun p => registry.Reaches p
  have hmem : p ∈ request.targets.filter fun p => registry.Reaches p := by
    simp [hp, hreaches]
  rw [List.countP_map, ← List.count_eq_one_of_mem hnodup hmem, List.count]
  exact List.countP_congr fun q _ => by simp

end ProviderRegistry

/-! ## 3. The fan-out -/

/-- **The fan-out of one request.** Its report has an outcome for each target and no other; the
    provider of an available target is called once, with the request, and nobody else is; an
    error of a provider is its target's rejection; registries that agree on a platform give it the
    same outcome; and an invalid request calls no provider. -/
theorem fan_out :
    (∀ (registry : ProviderRegistry) (request : PublishRequest), request.validate = .ok () →
      ∃ calls report, registry.dispatchAll request = (calls, .ok report) ∧
        (∀ p, (report.outcomes p).isSome = true ↔ p ∈ request.targets) ∧
        (∀ p ∈ request.targets, registry.Reaches p →
          calls.countP (fun call => call.platform = p) = 1) ∧
        (∀ call ∈ calls, call.request = request ∧ call.platform ∈ request.targets ∧
          registry.Reaches call.platform) ∧
        (∀ p ∈ request.targets, ∀ provider error, registry.providers p = some provider →
          provider.availability = .available → provider.enqueue request = .error error →
          report.outcomes p = some (.rejected error.text))) ∧
    (∀ (registry registry' : ProviderRegistry) (request : PublishRequest) (p : Platform)
        calls report calls' report',
      registry.providers p = registry'.providers p → registry.runners p = registry'.runners p →
      registry.dispatchAll request = (calls, .ok report) →
      registry'.dispatchAll request = (calls', .ok report') →
      report.outcomes p = report'.outcomes p) ∧
    ∀ (registry : ProviderRegistry) (request : PublishRequest) error,
      request.validate = .error error → registry.dispatchAll request = ([], .error error) := by
  refine ⟨?_, ?_, fun registry request error => dispatchAll_invalid⟩
  · intro registry request hvalid
    refine ⟨_, _, ProviderRegistry.dispatchAll_eq hvalid, ?_, ?_, ?_, ?_⟩
    · intro p
      by_cases hp : p ∈ request.targets <;> simp [hp]
    · intro p hp hreaches
      exact ProviderRegistry.countP_calls hvalid hp hreaches
    · intro call hcall
      obtain ⟨p, hp, rfl⟩ := List.mem_map.mp hcall
      rw [List.mem_filter, decide_eq_true_eq] at hp
      exact ⟨rfl, hp⟩
    · intro p hp provider error hprovider havailable herror
      have houtcome := ProviderRegistry.targetOutcome_error hprovider havailable herror
      simp [hp, houtcome]
  · intro registry registry' request p calls report calls' report' hproviders hrunners h h'
    have hvalid := dispatchAll_valid h
    rw [ProviderRegistry.dispatchAll_eq hvalid] at h h'
    cases h
    cases h'
    simp only [ProviderRegistry.targetOutcome_congr hproviders hrunners]

/-- A request for a provider that fails, one that is available, and one that is missing. -/
def threeTargets : PublishRequest :=
  { sampleRequest with targets := [.douyin, .bilibili, .kuaishou] }

def mixedRegistry : ProviderRegistry where
  providers
    | .douyin => some ⟨.available, fun _ => .error (.io "broken pipe")⟩
    | .bilibili => some ⟨.available, fun _ => .ok (.queued "1")⟩
    | _ => none
  runners _ := none

/-- Both registered providers are called once, the missing one is not, and the failure of one is
    its target's rejection. -/
theorem fan_out_sample :
    ∃ calls report, mixedRegistry.dispatchAll threeTargets = (calls, .ok report) ∧
      (∀ p, (report.outcomes p).isSome = true ↔ p ∈ threeTargets.targets) ∧
      calls.countP (fun call => call.platform = .douyin) = 1 ∧
      calls.countP (fun call => call.platform = .bilibili) = 1 ∧
      (∀ call ∈ calls, call.platform ≠ .kuaishou) ∧
      report.outcomes .douyin = some (.rejected (DomainError.io "broken pipe").text) := by
  obtain ⟨calls, report, hdispatch, hkeys, honce, honly, herror⟩ :=
    fan_out.1 mixedRegistry threeTargets (by decide)
  refine ⟨calls, report, hdispatch, hkeys, honce .douyin (by decide) (by decide),
    honce .bilibili (by decide) (by decide), fun call hcall hplatform => ?_,
    herror .douyin (by decide) _ _ rfl rfl rfl⟩
  obtain ⟨-, -, hreaches⟩ := honly call hcall
  rw [hplatform] at hreaches
  exact absurd hreaches (by decide)

end MatriXpost
