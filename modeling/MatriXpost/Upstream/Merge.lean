/-
  File:      MatriXpost/Upstream/Merge.lean
  Subject:   WHAT THE MERGE OF AN UPSTREAM INPUT KEEPS, platform by platform.

  The overrides of one platform are merged in their order: of each part the last one given stays.
  What is one part decides what is lost: title, short title, tags and statement are parts of their
  own, an account is one part and a link is one.

  * `normalize_gathers`: the merged override of a platform has the last of each part;
  * `overridesFor_applyStatements`: the statements of a platform are put on its first override;
  * `converted`: the one override of a platform of a converted request;
  * `merge_fieldWise`, `statement_precedence`, `targets_named`: when the merge is field by field,
    which statement is published, and when the targets are those the input names.
-/
import MatriXpost.Lib.LastGiven
import MatriXpost.Upstream.Dto
import Mathlib.Data.List.Induction

namespace MatriXpost

/-! ## 1. The merge -/

/-- The overrides of one platform. -/
def overridesFor (p : Platform) (overrides : List PlatformOverride) : List PlatformOverride :=
  overrides.filter (·.platform = p)

theorem overridesFor_cons_of_eq {p : Platform} {o : PlatformOverride} (h : o.platform = p)
    (rest : List PlatformOverride) :
    overridesFor p (o :: rest) = o :: overridesFor p rest :=
  List.filter_cons_of_pos (by simpa using h)

theorem overridesFor_cons_of_ne {p : Platform} {o : PlatformOverride} (h : o.platform ≠ p)
    (rest : List PlatformOverride) : overridesFor p (o :: rest) = overridesFor p rest :=
  List.filter_cons_of_neg (by simpa using h)

/-- An override that has of each part the last one these give. -/
structure Gathers (overrides : List PlatformOverride) (o : PlatformOverride) : Prop where
  title : o.title = lastGiven (·.title) overrides
  shortTitle : o.shortTitle = lastGiven (·.shortTitle) overrides
  tags : o.tags = lastGiven (·.tags) overrides
  creativeStatement : o.creativeStatement = lastGiven (·.creativeStatement) overrides
  account : o.account = lastGiven (·.account) overrides
  wechatLink : o.wechatLink = lastGiven (·.wechatLink) overrides

section Merge
variable {overrides : List PlatformOverride} {p : Platform} {o o' : PlatformOverride}

theorem gathers_singleton (o : PlatformOverride) : Gathers [o] o := by
  constructor <;> rw [lastGiven_singleton]

/-- One merge more. -/
theorem Gathers.merge (h : Gathers overrides o) (o' : PlatformOverride) :
    Gathers (overrides ++ [o']) (o.merge o') := by
  obtain ⟨h₁, h₂, h₃, h₄, h₅, h₆⟩ := h
  constructor <;> rw [lastGiven_concat]
  · rw [← h₁]
    rfl
  · rw [← h₂]
    rfl
  · rw [← h₃]
    rfl
  · rw [← h₄]
    rfl
  · rw [← h₅]
    rfl
  · rw [← h₆]
    rfl

theorem overridesFor_concat (o : PlatformOverride) : overridesFor p (overrides ++ [o]) =
    if o.platform = p then overridesFor p overrides ++ [o] else overridesFor p overrides := by
  unfold overridesFor
  rw [List.filter_append]
  by_cases h : o.platform = p
  · simp [h]
  · simp [h]

theorem normalize_concat (o : PlatformOverride) :
    normalize (overrides ++ [o]) = mergeInto (normalize overrides) o := by
  unfold normalize
  rw [List.foldl_append]
  rfl

/-- **The merge, platform by platform**: nothing without an override of it, else one override of
    the platform that has of each part the last. -/
theorem normalize_gathers (overrides : List PlatformOverride) (p : Platform) :
    match normalize overrides p with
    | none => overridesFor p overrides = []
    | some o => overridesFor p overrides ≠ [] ∧ o.platform = p ∧
        Gathers (overridesFor p overrides) o := by
  induction overrides using List.reverseRecOn with
  | nil => rfl
  | append_singleton overrides o ih =>
    rw [normalize_concat, overridesFor_concat]
    by_cases h : o.platform = p
    · subst h
      rw [if_pos rfl]
      unfold mergeInto
      rw [Function.update_self]
      cases hcurrent : normalize overrides o.platform with
      | none =>
        rw [hcurrent] at ih
        rw [ih]
        exact ⟨by simp, rfl, gathers_singleton o⟩
      | some current =>
        rw [hcurrent] at ih
        obtain ⟨-, hplatform, hgathers⟩ := ih
        exact ⟨by simp, hplatform, hgathers.merge o⟩
    · rw [if_neg h]
      unfold mergeInto
      rw [Function.update_of_ne (Ne.symm h)]
      exact ih

theorem normalize_platform (h : normalize overrides p = some o) : o.platform = p := by
  have hspec := normalize_gathers overrides p
  rw [h] at hspec
  exact hspec.2.1

theorem normalize_eq_none : normalize overrides p = none ↔ overridesFor p overrides = [] := by
  have hspec := normalize_gathers overrides p
  cases h : normalize overrides p with
  | none =>
    rw [h] at hspec
    simpa using hspec
  | some o =>
    rw [h] at hspec
    simpa using hspec.1

/-- The values of a map whose values know their keys, by one key. -/
theorem overridesFor_filterMap {g : Platform → Option PlatformOverride} {ps : List Platform}
    (hg : ∀ q o, g q = some o → o.platform = q) (hn : ps.Nodup) (hp : p ∈ ps) :
    overridesFor p (ps.filterMap g) = (g p).toList := by
  have hother : ∀ {qs : List Platform}, p ∉ qs → overridesFor p (qs.filterMap g) = [] := by
    intro qs hnot
    refine List.filter_eq_nil_iff.mpr fun o ho => ?_
    obtain ⟨q, hq, hgq⟩ := List.mem_filterMap.mp ho
    have hne : o.platform ≠ p := by
      intro he
      rw [hg q o hgq] at he
      exact hnot (he ▸ hq)
    simpa using hne
  induction ps with
  | nil => cases hp
  | cons q rest ih =>
    obtain ⟨hq, hrest⟩ := List.nodup_cons.mp hn
    by_cases hqp : q = p
    · subst hqp
      cases hgq : g q with
      | none =>
        rw [List.filterMap_cons_none hgq, hother hq]
        rfl
      | some o =>
        rw [List.filterMap_cons_some hgq, overridesFor_cons_of_eq (hg q o hgq), hother hq]
        rfl
    · have hmem : p ∈ rest := (List.mem_cons.mp hp).resolve_left (Ne.symm hqp)
      cases hgq : g q with
      | none =>
        rw [List.filterMap_cons_none hgq]
        exact ih hrest hmem
      | some o =>
        have hne : o.platform ≠ p := by
          rw [hg q o hgq]
          exact hqp
        rw [List.filterMap_cons_some hgq, overridesFor_cons_of_ne hne]
        exact ih hrest hmem

theorem platform_all_nodup : Platform.all.Nodup := by decide

theorem overridesFor_normalizedValues :
    overridesFor p (normalizedValues overrides) = (normalize overrides p).toList :=
  overridesFor_filterMap (fun _ _ => normalize_platform) platform_all_nodup (Platform.mem_all p)

/-- The platforms that are left are those with an override, each once. -/
theorem targets_normalizedValues :
    ((normalizedValues overrides).map (·.platform)).Nodup ∧
      (p ∈ (normalizedValues overrides).map (·.platform) ↔ overridesFor p overrides ≠ []) := by
  have hstep : ∀ q, (normalize overrides q).map (·.platform) =
      if (normalize overrides q).isSome then some q else none := by
    intro q
    cases hq : normalize overrides q with
    | none => rfl
    | some o => simp [normalize_platform hq]
  have hmap : (normalizedValues overrides).map (·.platform) =
      Platform.all.filter fun q => (normalize overrides q).isSome := by
    unfold normalizedValues
    rw [List.map_filterMap, ← List.filterMap_eq_filter]
    refine List.filterMap_congr fun q _ => ?_
    rw [hstep q, Option.guard]
  rw [hmap]
  refine ⟨platform_all_nodup.filter _, ?_⟩
  rw [List.mem_filter, ne_eq, ← normalize_eq_none]
  simp [Platform.mem_all, Option.isSome_iff_ne_none]

end Merge

/-! ## 2. The statements put on the overrides -/

/-- The platform a name stands for, under any accepted alias. -/
def Platform.named (name : String) : Option Platform := (Platform.fromStr name).toOption

theorem Platform.named_eq_some {name : String} {p : Platform} :
    Platform.named name = some p ↔ Platform.fromStr name = .ok p := by
  unfold Platform.named
  cases Platform.fromStr name <;> simp [Except.toOption]

/-- The overrides of a platform after a statement for it. -/
def withStatement (p : Platform) : Option String → List PlatformOverride → List PlatformOverride
  | none, overrides => overrides
  | some statement, [] => [.ofStatement p statement]
  | some statement, o :: rest => { o with creativeStatement := some statement } :: rest

section Statements
variable {overrides result : List PlatformOverride} {p q : Platform} {o : PlatformOverride}

theorem withStatement_withStatement (s t : Option String) :
    withStatement p t (withStatement p s overrides) = withStatement p (t.or s) overrides := by
  cases t with
  | none => rfl
  | some t =>
    cases s with
    | none => rfl
    | some s => cases overrides <;> rfl

/-- A part the statements do not touch. -/
theorem lastGiven_withStatement {β : Type} {f : PlatformOverride → Option β}
    (hf : ∀ o statement, f { o with creativeStatement := some statement } = f o)
    (hs : ∀ statement, f (.ofStatement p statement) = none) (s : Option String) :
    lastGiven f (withStatement p s overrides) = lastGiven f overrides := by
  cases s with
  | none => rfl
  | some statement =>
    cases overrides with
    | nil =>
      unfold withStatement
      rw [lastGiven_singleton, hs, lastGiven_nil]
    | cons o rest =>
      unfold withStatement
      rw [lastGiven_cons, lastGiven_cons, hf]

/-- The statement is on the first override: those behind it may still say another. -/
theorem lastGiven_creativeStatement_withStatement (s : Option String) :
    lastGiven (·.creativeStatement) (withStatement p s overrides) =
      (lastGiven (·.creativeStatement) overrides.tail).or
        (s.or (overrides.head?.bind (·.creativeStatement))) := by
  cases overrides with
  | nil => cases s <;> rfl
  | cons o rest =>
    cases s with
    | none => exact lastGiven_cons
    | some statement => exact lastGiven_cons

/-- A later statement is the one that stays: the others are gone. -/
theorem overridesFor_applyStatement (statement : String) :
    overridesFor p (applyStatement q statement overrides) =
      withStatement p (if q = p then some statement else none) (overridesFor p overrides) := by
  have hnone (rest : List PlatformOverride) : withStatement p none rest = rest := rfl
  induction overrides with
  | nil =>
    unfold applyStatement
    by_cases h : q = p
    · rw [if_pos h, overridesFor_cons_of_eq h, h]
      rfl
    · rw [if_neg h, overridesFor_cons_of_ne h]
      rfl
  | cons o rest ih =>
    unfold applyStatement
    by_cases ho : o.platform = q
    · rw [if_pos ho]
      have hset : ({ o with creativeStatement := some statement } : PlatformOverride).platform =
          o.platform := rfl
      by_cases h : q = p
      · have hp : o.platform = p := ho.trans h
        rw [if_pos h, overridesFor_cons_of_eq (hset.trans hp), overridesFor_cons_of_eq hp]
        rfl
      · have hp : o.platform ≠ p := fun he => h (ho.symm.trans he)
        rw [if_neg h, overridesFor_cons_of_ne (hset ▸ hp), overridesFor_cons_of_ne hp, hnone]
    · rw [if_neg ho]
      by_cases hp : o.platform = p
      · have hq : q ≠ p := fun h => ho (hp.trans h.symm)
        rw [if_neg hq, hnone] at ih ⊢
        rw [overridesFor_cons_of_eq hp, overridesFor_cons_of_eq hp, ih]
      · rw [overridesFor_cons_of_ne hp, overridesFor_cons_of_ne hp]
        exact ih

/-- The statement given for a platform: the last one under a name of it. -/
def lastStatement (p : Platform) (statements : List (String × String)) : Option String :=
  lastGiven (fun s => if Platform.named s.1 = some p then some s.2 else none) statements

/-- **All statements, platform by platform**: the last one of a platform is put on its first
    override. -/
theorem overridesFor_applyStatements {statements : List (String × String)}
    (h : applyStatements statements overrides = .ok result) :
    overridesFor p result =
      withStatement p (lastStatement p statements) (overridesFor p overrides) := by
  induction statements generalizing overrides with
  | nil =>
    cases h
    rfl
  | cons s rest ih =>
    obtain ⟨name, statement⟩ := s
    unfold applyStatements at h
    obtain ⟨q, hq, h⟩ := except_bind_ok.mp h
    have hname : Platform.named name = some q := Platform.named_eq_some.mpr hq
    rw [ih h, overridesFor_applyStatement, withStatement_withStatement]
    unfold lastStatement
    rw [lastGiven_cons, hname]
    simp only [Option.some.injEq]

end Statements

/-! ## 3. One platform of a conversion -/

/-- The entry names the platform. -/
def UpstreamPlatformOption.Names (item : UpstreamPlatformOption) (p : Platform) : Prop :=
  Platform.named item.platform = some p

instance (item : UpstreamPlatformOption) (p : Platform) : Decidable (item.Names p) :=
  inferInstanceAs (Decidable (_ = _))

namespace UpstreamPublishDto

/-- The entries that name a platform, in their order. -/
def entriesFor (value : UpstreamPublishDto) (p : Platform) : List UpstreamPlatformOption :=
  value.entries.filter (·.Names p)

/-- The statement `creativeStatements` gives for a platform. -/
def statementFor (value : UpstreamPublishDto) (p : Platform) : Option String :=
  lastStatement p value.statements

/-- The account of the whole input. -/
def globalAccount (value : UpstreamPublishDto) : AccountSelection :=
  ⟨value.phone, value.partition⟩

end UpstreamPublishDto

section Conversion
variable {parseUrl : String → Option Url} {value : UpstreamPublishDto} {request : PublishRequest}
  {p : Platform} {account : AccountSelection}

theorem toOverride_ok {item : UpstreamPlatformOption} {o : PlatformOverride} :
    item.toOverride account = .ok o ↔
      ∃ q, item.Names q ∧ o = item.overrideFor account q := by
  unfold UpstreamPlatformOption.toOverride UpstreamPlatformOption.Names
  constructor
  · intro h
    cases hq : Platform.fromStr item.platform with
    | error e =>
      rw [hq] at h
      cases h
    | ok q =>
      rw [hq] at h
      cases h
      exact ⟨q, Platform.named_eq_some.mpr hq, rfl⟩
  · intro h
    obtain ⟨q, hq, ho⟩ := h
    rw [Platform.named_eq_some.mp hq, ho]
    rfl

/-- The entries of one platform become its overrides. -/
theorem overridesFor_named {items : List UpstreamPlatformOption} {named : List PlatformOverride}
    (h : items.mapM (fun item => item.toOverride account) = .ok named) :
    overridesFor p named =
      (items.filter (·.Names p)).map fun item => item.overrideFor account p := by
  have hall := mapM_ok_iff.mp h
  clear h
  induction hall with
  | nil => rfl
  | @cons item o items named hitem _ ih =>
    obtain ⟨q, hq, ho⟩ := toOverride_ok.mp hitem
    have hplatform : o.platform = q := by
      rw [ho]
      rfl
    by_cases hp : q = p
    · subst hp
      rw [List.filter_cons_of_pos (by simpa using hq), List.map_cons, ← ih, ← ho,
        overridesFor_cons_of_eq hplatform]
    · have hnot : ¬ item.Names p := fun h => hp (Option.some.inj (hq.symm.trans h))
      have hne : o.platform ≠ p := fun h => hp (hplatform.symm.trans h)
      rw [List.filter_cons_of_neg (by simpa using hnot), ← ih, overridesFor_cons_of_ne hne]

/-- What a conversion merges for one platform: the overrides of its entries, the statement of
    `creativeStatements` on the first. -/
def mergedFor (value : UpstreamPublishDto) (p : Platform) : List PlatformOverride :=
  withStatement p (value.statementFor p)
    ((value.entriesFor p).map fun item => item.overrideFor value.globalAccount p)

/-- The overrides a conversion merges, platform by platform. -/
theorem tryFrom_merged (h : PublishRequest.tryFrom parseUrl value = .ok request) :
    ∃ overrides, (∀ p, overridesFor p overrides = mergedFor value p) ∧
      request.overrides =
        (normalizedValues overrides).map (fillStatement value.creativeStatement) ∧
      request.targets = (normalizedValues overrides).map (·.platform) ∧
      request.wechatLink = upstreamLink value (normalizedValues overrides) := by
  obtain ⟨named, overrides, hnamed, hoverrides, hos, htargets, hlink, -⟩ :=
    PublishRequest.tryFrom_ok h
  refine ⟨overrides, fun p => ?_, hos, htargets, hlink⟩
  rw [overridesFor_applyStatements hoverrides, overridesFor_named hnamed]
  rfl

/-- **One platform of a conversion**: without entries and statements it is no target, else it is
    one, and its one override has the last of each part, and the global statement if none. -/
theorem converted (h : PublishRequest.tryFrom parseUrl value = .ok request) (p : Platform) :
    (p ∈ request.targets ↔ mergedFor value p ≠ []) ∧
      (p ∈ request.targets → ∃ o, Gathers (mergedFor value p) o ∧
        overridesFor p request.overrides = [fillStatement value.creativeStatement o]) := by
  obtain ⟨overrides, hmerged, hos, htargets, -⟩ := tryFrom_merged h
  have hfill : ∀ os, overridesFor p (os.map (fillStatement value.creativeStatement)) =
      (overridesFor p os).map (fillStatement value.creativeStatement) := by
    intro os
    unfold overridesFor
    rw [List.filter_map]
    rfl
  have hmem : p ∈ request.targets ↔ mergedFor value p ≠ [] := by
    rw [htargets, ← hmerged p]
    exact targets_normalizedValues.2
  refine ⟨hmem, fun hp => ?_⟩
  have hspec := normalize_gathers overrides p
  rw [hos, hfill, overridesFor_normalizedValues]
  cases ho : normalize overrides p with
  | none => exact absurd ((hmerged p).symm.trans (normalize_eq_none.mp ho)) (hmem.mp hp)
  | some o =>
    rw [ho, hmerged p] at hspec
    exact ⟨o, hspec.2.2, rfl⟩

/-- A part of the merged entries that the statements do not touch. -/
theorem lastGiven_mergedFor {β : Type} {f : PlatformOverride → Option β}
    (hf : ∀ o statement, f { o with creativeStatement := some statement } = f o)
    (hs : ∀ statement, f (.ofStatement p statement) = none) :
    lastGiven f (mergedFor value p) =
      lastGiven (fun item => f (item.overrideFor value.globalAccount p)) (value.entriesFor p) := by
  unfold mergedFor
  rw [lastGiven_withStatement hf hs, lastGiven_map]

theorem mergedFor_eq_nil :
    mergedFor value p = [] ↔ value.entriesFor p = [] ∧ value.statementFor p = none := by
  unfold mergedFor
  cases value.statementFor p with
  | none => simp [withStatement]
  | some statement => cases value.entriesFor p <;> simp [withStatement]

end Conversion

/-! ## 4. The fields of an entry -/

/-- Of each field the last explicit value the entries of the platform give; of an account the
    global one if there is none. -/
structure FieldWise (value : UpstreamPublishDto) (p : Platform) (o : PlatformOverride) : Prop where
  title : o.title = lastGiven (·.title) (value.entriesFor p)
  shortTitle : o.shortTitle = lastGiven (·.shortTitle) (value.entriesFor p)
  tags : o.tags = lastGiven (·.tags) (value.entriesFor p)
  phone : o.account.bind (·.phone) = (lastGiven (·.phone) (value.entriesFor p)).or value.phone
  partition : o.account.bind (·.partition) =
    (lastGiven (·.partition) (value.entriesFor p)).or value.partition
  linkType : o.wechatLink.bind (·.linkType) =
    lastGiven (fun item => item.link.bind (·.linkType)) (value.entriesFor p)
  linkValue : o.wechatLink.bind (·.linkValue) =
    lastGiven (fun item => item.link.bind (·.linkValue)) (value.entriesFor p)

/-- The last entry of the platform speaks for the account, the last link for the link. -/
structure LastEntrySpeaks (value : UpstreamPublishDto) (p : Platform) : Prop where
  phone : LastSpeaks (·.phone) (value.entriesFor p) value.phone
  partition : LastSpeaks (·.partition) (value.entriesFor p) value.partition
  linkType : LastSpeaks (·.linkType) ((value.entriesFor p).filterMap (·.link)) none
  linkValue : LastSpeaks (·.linkValue) ((value.entriesFor p).filterMap (·.link)) none

section Fields
variable {parseUrl : String → Option Url} {value : UpstreamPublishDto} {request : PublishRequest}
  {p : Platform} {o : PlatformOverride}

/-- The account of a merged override is that of the last entry, with the global one behind it. -/
theorem Gathers.account_eq (h : Gathers (mergedFor value p) o) :
    o.account = (value.entriesFor p).getLast?.map fun item =>
      ⟨item.phone.or value.phone, item.partition.or value.partition⟩ := by
  rw [h.account, lastGiven_mergedFor (fun _ _ => rfl) fun _ => rfl]
  exact lastGiven_some

/-- A part of the account, if the platform has entries at all. -/
theorem Gathers.account_bind (h : Gathers (mergedFor value p) o) (hp : value.entriesFor p ≠ [])
    {f : AccountSelection → Option String} {g : UpstreamPlatformOption → Option String}
    {fallback : Option String}
    (hf : ∀ item : UpstreamPlatformOption, f ⟨item.phone.or value.phone,
      item.partition.or value.partition⟩ = (g item).or fallback) :
    o.account.bind f = ((value.entriesFor p).getLast?.bind g).or fallback := by
  rw [h.account_eq]
  rw [List.getLast?_eq_some_getLast hp]
  exact hf _

/-- The link of a merged override is the last one. -/
theorem Gathers.link_eq (h : Gathers (mergedFor value p) o) :
    o.wechatLink = (lastGiven (·.link) (value.entriesFor p)).map fun link =>
      ⟨none, link.linkType, link.linkValue⟩ := by
  rw [h.wechatLink, lastGiven_mergedFor (fun _ _ => rfl) fun _ => rfl]
  exact lastGiven_option_map

/-- A part of the link. -/
theorem Gathers.link_bind (h : Gathers (mergedFor value p) o)
    {f : WechatLink → Option String} {g : UpstreamSphLink → Option String}
    (hf : ∀ link : UpstreamSphLink, f ⟨none, link.linkType, link.linkValue⟩ = g link) :
    o.wechatLink.bind f = ((value.entriesFor p).filterMap (·.link)).getLast?.bind g := by
  rw [h.link_eq, Option.bind_map]
  exact congrArg _ (funext hf)

/-- **The merge of the entries is field-wise** if and only if the last entry of the platform speaks
    for its account and the last link for the link: an account is replaced as a whole, and so is a
    link, whatever it leaves open. -/
theorem merge_fieldWise (h : PublishRequest.tryFrom parseUrl value = .ok request)
    (hp : value.entriesFor p ≠ []) :
    ∃ o, overridesFor p request.overrides = [o] ∧
      (FieldWise value p o ↔ LastEntrySpeaks value p) := by
  obtain ⟨hmem, hone⟩ := converted h p
  have htarget : p ∈ request.targets := hmem.mpr fun hnil => hp (mergedFor_eq_nil.mp hnil).1
  obtain ⟨o, ho, hos⟩ := hone htarget
  refine ⟨_, hos, ?_⟩
  have hphone := ho.account_bind hp (f := (·.phone)) fun item => rfl
  have hpartition := ho.account_bind hp (f := (·.partition)) fun item => rfl
  have htype := ho.link_bind (f := (·.linkType)) fun link => rfl
  have hvalue := ho.link_bind (f := (·.linkValue)) fun link => rfl
  constructor
  · intro hw
    constructor
    · exact given_by_last_iff.mp (hphone.symm.trans hw.phone)
    · exact given_by_last_iff.mp (hpartition.symm.trans hw.partition)
    · refine given_by_last_iff.mp ?_
      rw [Option.or_none, Option.or_none, ← lastGiven_bind]
      exact htype.symm.trans hw.linkType
    · refine given_by_last_iff.mp ?_
      rw [Option.or_none, Option.or_none, ← lastGiven_bind]
      exact hvalue.symm.trans hw.linkValue
  · intro hl
    have hlinkType := given_by_last_iff.mpr hl.linkType
    have hlinkValue := given_by_last_iff.mpr hl.linkValue
    rw [Option.or_none, Option.or_none, ← lastGiven_bind] at hlinkType hlinkValue
    constructor
    · exact ho.title.trans (lastGiven_mergedFor (fun _ _ => rfl) fun _ => rfl)
    · exact ho.shortTitle.trans (lastGiven_mergedFor (fun _ _ => rfl) fun _ => rfl)
    · exact ho.tags.trans (lastGiven_mergedFor (fun _ _ => rfl) fun _ => rfl)
    · exact hphone.trans (given_by_last_iff.mpr hl.phone)
    · exact hpartition.trans (given_by_last_iff.mpr hl.partition)
    · exact htype.trans hlinkType
    · exact hvalue.trans hlinkValue

/-- An input that gives platforms, a file and a title only. -/
def plainInput (platforms : UpstreamTargets) : UpstreamPublishDto :=
  ⟨none, some platforms, "movie.mp4", "T", .empty, none, none, none, none, none, none, none, none,
    none, false, none, none, none⟩

/-- The first entry gives a phone, tags and a link, the second one a phone and a title. -/
def phoneThenPhone : UpstreamPublishDto :=
  { plainInput (.targets [
      { UpstreamPlatformOption.named "dy" with
        phone := some "one", tags := some ["tag"], link := some ⟨some "product", some "1"⟩ },
      { UpstreamPlatformOption.named "抖音" with phone := some "two", title := some "Second" }]) with
    partition := some "persist:main" }

theorem merge_fieldWise_sample :
    ∃ request, PublishRequest.tryFrom (fun _ => none) phoneThenPhone = .ok request ∧
      ∃ o, overridesFor .douyin request.overrides = [o] ∧ FieldWise phoneThenPhone .douyin o := by
  have hspeaks : LastEntrySpeaks phoneThenPhone .douyin :=
    ⟨.inl (by decide), .inr (.inl (by decide)), .inl (by decide), .inl (by decide)⟩
  obtain ⟨o, ho, hw⟩ := merge_fieldWise (p := .douyin)
    (rfl : PublishRequest.tryFrom (fun _ => none) phoneThenPhone = .ok _) (by decide)
  exact ⟨_, rfl, o, ho, hw.mpr hspeaks⟩

/-- The first entry gives the account, the second one nothing. -/
def phoneThenNothing : UpstreamPublishDto :=
  plainInput (.targets [{ UpstreamPlatformOption.named "dy" with phone := some "one" },
    .named "抖音"])

/-- The phone the first entry gives is lost. -/
theorem not_merge_fieldWise_phone :
    ¬ ∀ parseUrl value request p, PublishRequest.tryFrom parseUrl value = .ok request →
      value.entriesFor p ≠ [] →
      ∃ o, overridesFor p request.overrides = [o] ∧ FieldWise value p o := by
  intro hall
  obtain ⟨o, ho, hw⟩ := hall (fun _ => none) phoneThenNothing _ .douyin rfl (by decide)
  cases ho
  exact absurd hw.phone (by decide)

end Fields

/-! ## 5. The statement of a platform -/

section Precedence
variable {parseUrl : String → Option Url} {value : UpstreamPublishDto} {request : PublishRequest}
  {p : Platform} {o : PlatformOverride}

namespace UpstreamPublishDto

/-- The statement that counts for a platform: that of `creativeStatements`, the last one of its
    entries, the global one. -/
def effectiveStatement (value : UpstreamPublishDto) (p : Platform) : Option String :=
  ((value.statementFor p).or (lastGiven (·.creativeStatement) (value.entriesFor p))).or
    value.creativeStatement

/-- No entry behind the first gives a statement against the one of `creativeStatements`. -/
def LaterEntriesAgree (value : UpstreamPublishDto) (p : Platform) : Prop :=
  value.statementFor p = none ∨
    lastGiven (·.creativeStatement) (value.entriesFor p).tail = none ∨
    lastGiven (·.creativeStatement) (value.entriesFor p).tail = value.statementFor p

end UpstreamPublishDto

/-- The statement of a merged override: one of the entries behind the first, if any gives one. -/
theorem Gathers.statement_eq (h : Gathers (mergedFor value p) o) :
    o.creativeStatement =
      (lastGiven (·.creativeStatement) (value.entriesFor p).tail).or
        ((value.statementFor p).or
          ((value.entriesFor p).head?.bind (·.creativeStatement))) := by
  rw [h.creativeStatement]
  unfold mergedFor
  rw [lastGiven_creativeStatement_withStatement, ← List.map_tail, lastGiven_map, List.head?_map,
    Option.bind_map]
  rfl

/-- **The precedence of the statements** holds for a platform if and only if no entry behind its
    first one gives a statement against that of `creativeStatements`. -/
theorem statement_precedence (h : PublishRequest.tryFrom parseUrl value = .ok request)
    (hp : p ∈ request.targets) :
    ∃ o, overridesFor p request.overrides = [o] ∧
      (o.creativeStatement = value.effectiveStatement p ↔ value.LaterEntriesAgree p) := by
  obtain ⟨o, ho, hos⟩ := (converted h p).2 hp
  refine ⟨_, hos, ?_⟩
  have hfirst : lastGiven (·.creativeStatement) (value.entriesFor p) =
      (lastGiven (·.creativeStatement) (value.entriesFor p).tail).or
        ((value.entriesFor p).head?.bind (·.creativeStatement)) := by
    cases value.entriesFor p with
    | nil => rfl
    | cons item rest => exact lastGiven_cons
  show o.creativeStatement.or value.creativeStatement = _ ↔ _
  unfold UpstreamPublishDto.effectiveStatement UpstreamPublishDto.LaterEntriesAgree
  rw [ho.statement_eq, hfirst]
  cases value.statementFor p with
  | none => simp
  | some statement =>
    cases lastGiven (·.creativeStatement) (value.entriesFor p).tail with
    | none => simp
    | some later => simp

/-- A statement for the platform, an entry with another and one without, and a global one. -/
def statementOverEntry : UpstreamPublishDto :=
  { plainInput (.targets [{ UpstreamPlatformOption.named "dy" with
      creativeStatement := some "fiction" }, .named "抖音"]) with
    creativeStatement := some "original"
    creativeStatements := some ⟨[("dy", "ai_generated")], by decide⟩ }

theorem statement_precedence_sample :
    ∃ request, PublishRequest.tryFrom (fun _ => none) statementOverEntry = .ok request ∧
      ∃ o, overridesFor .douyin request.overrides = [o] ∧
        o.creativeStatement = statementOverEntry.effectiveStatement .douyin ∧
        statementOverEntry.effectiveStatement .douyin = some "ai_generated" := by
  have hagree : statementOverEntry.LaterEntriesAgree .douyin := .inr (.inl (by decide))
  obtain ⟨o, ho, hw⟩ := statement_precedence (p := .douyin)
    (rfl : PublishRequest.tryFrom (fun _ => none) statementOverEntry = .ok _) (by decide)
  exact ⟨_, rfl, o, ho, hw.mpr hagree, by decide⟩

/-- A statement for the platform, and a second entry with another. -/
def statementThenEntry : UpstreamPublishDto :=
  { plainInput (.targets [.named "dy",
      { UpstreamPlatformOption.named "dy" with creativeStatement := some "fiction" }]) with
    creativeStatements := some ⟨[("dy", "ai_generated")], by decide⟩ }

/-- The statement of the second entry is published instead. -/
theorem not_statement_precedence :
    ¬ ∀ parseUrl value request p, PublishRequest.tryFrom parseUrl value = .ok request →
      p ∈ request.targets →
      ∃ o, overridesFor p request.overrides = [o] ∧
        o.creativeStatement = value.effectiveStatement p := by
  intro hall
  obtain ⟨o, ho, hw⟩ := hall (fun _ => none) statementThenEntry _ .douyin rfl (by decide)
  cases ho
  exact absurd hw (by decide)

end Precedence

/-! ## 6. The targets -/

section Targets
variable {parseUrl : String → Option Url} {value : UpstreamPublishDto} {request : PublishRequest}
  {p : Platform}

namespace UpstreamPublishDto

/-- `platform` or `platforms` names the platform. -/
def NamesTarget (value : UpstreamPublishDto) (p : Platform) : Prop :=
  ∃ item ∈ value.targetEntries, item.Names p

/-- The options and the statements are for platforms named as targets. -/
structure AdjustsTargetsOnly (value : UpstreamPublishDto) : Prop where
  options : ∀ item ∈ value.optionEntries, ∀ p, item.Names p → value.NamesTarget p
  statements : ∀ s ∈ value.statements, ∀ p, Platform.named s.1 = some p → value.NamesTarget p

theorem entriesFor_eq_nil :
    value.entriesFor p = [] ↔
      ¬ value.NamesTarget p ∧ ∀ item ∈ value.optionEntries, ¬ item.Names p := by
  unfold entriesFor entries NamesTarget
  rw [List.filter_eq_nil_iff]
  simp only [List.mem_append, decide_eq_true_eq, or_imp, forall_and, not_exists, not_and]

theorem statementFor_eq_none :
    value.statementFor p = none ↔ ∀ s ∈ value.statements, Platform.named s.1 ≠ some p := by
  unfold statementFor lastStatement
  rw [lastGiven_eq_none]
  simp only [ite_eq_right_iff, reduceCtorEq, imp_false, ne_eq]

end UpstreamPublishDto

/-- The targets of a conversion: what a target entry, an option or a statement names. -/
theorem mem_targets (h : PublishRequest.tryFrom parseUrl value = .ok request) :
    p ∈ request.targets ↔ value.NamesTarget p ∨ (∃ item ∈ value.optionEntries, item.Names p) ∨
      ∃ s ∈ value.statements, Platform.named s.1 = some p := by
  rw [(converted h p).1, ne_eq, mergedFor_eq_nil, UpstreamPublishDto.entriesFor_eq_nil,
    UpstreamPublishDto.statementFor_eq_none]
  constructor
  · intro hnot
    by_contra hnone
    obtain ⟨htarget, hnone⟩ := not_or.mp hnone
    obtain ⟨hoptions, hstatements⟩ := not_or.mp hnone
    exact hnot ⟨⟨htarget, fun item hitem hp => hoptions ⟨item, hitem, hp⟩⟩,
      fun s hs hp => hstatements ⟨s, hs, hp⟩⟩
  · intro hnamed hall
    obtain htarget | ⟨item, hitem, hp⟩ | ⟨s, hs, hp⟩ := hnamed
    · exact hall.1.1 htarget
    · exact hall.1.2 item hitem hp
    · exact hall.2 s hs hp

/-- **The targets are the platforms named as targets**, each once, if and only if the options and
    the statements name no other: each of these adds a platform to publish to. -/
theorem targets_named (h : PublishRequest.tryFrom parseUrl value = .ok request) :
    (request.targets.Nodup ∧ ∀ p, p ∈ request.targets ↔ value.NamesTarget p) ↔
      value.AdjustsTargetsOnly := by
  have hnodup : request.targets.Nodup := by
    obtain ⟨-, -, -, -, -, -, -, hvalid⟩ := PublishRequest.tryFrom_ok h
    exact (PublishRequest.validate_targets hvalid).2
  constructor
  · intro hsame
    constructor
    · intro item hitem p hp
      exact (hsame.2 p).mp ((mem_targets h).mpr (.inr (.inl ⟨item, hitem, hp⟩)))
    · intro s hs p hp
      exact (hsame.2 p).mp ((mem_targets h).mpr (.inr (.inr ⟨s, hs, hp⟩)))
  · intro honly
    refine ⟨hnodup, fun p => ⟨fun hp => ?_, fun hp => (mem_targets h).mpr (.inl hp)⟩⟩
    obtain hnamed | ⟨item, hitem, hnamed⟩ | ⟨s, hs, hnamed⟩ := (mem_targets h).mp hp
    · exact hnamed
    · exact honly.options item hitem p hnamed
    · exact honly.statements s hs p hnamed

/-- Two targets, one of them named twice, with an option for it and a statement for the other. -/
def statementForTarget : UpstreamPublishDto :=
  { plainInput (.names ["dy", "blbl", "抖音"]) with
    platformOptions := some (.values [{ UpstreamPlatformOption.named "dy" with title := some "D" }])
    creativeStatements := some ⟨[("blbl", "fiction")], by decide⟩ }

theorem adjusts_statementForTarget : statementForTarget.AdjustsTargetsOnly where
  options := fun item hitem p hp => by
    obtain rfl := List.mem_singleton.mp hitem
    exact ⟨.named "dy", by decide, hp⟩
  statements := fun s hs p hp => by
    obtain rfl := List.mem_singleton.mp hs
    exact ⟨.named "blbl", by decide, hp⟩

theorem targets_named_sample :
    ∃ request, PublishRequest.tryFrom (fun _ => none) statementForTarget = .ok request ∧
      request.targets.Nodup ∧ ∀ p, p ∈ request.targets ↔ statementForTarget.NamesTarget p :=
  ⟨_, rfl, (targets_named (rfl : PublishRequest.tryFrom (fun _ => none) _ = .ok _)).mpr
    adjusts_statementForTarget⟩

/-- One target, and a statement for another platform. -/
def statementElsewhere : UpstreamPublishDto :=
  { plainInput (.name "dy") with
    creativeStatements := some ⟨[("blbl", "fiction")], by decide⟩ }

/-- It is published there, too. -/
theorem not_targets_named :
    ¬ ∀ parseUrl value request, PublishRequest.tryFrom parseUrl value = .ok request →
      (∃ p, value.NamesTarget p) →
      request.targets.Nodup ∧ ∀ p, p ∈ request.targets ↔ value.NamesTarget p := by
  intro hall
  have hdouyin : statementElsewhere.NamesTarget .douyin := ⟨.named "dy", by decide, by decide⟩
  obtain ⟨-, hsame⟩ := hall (fun _ => none) statementElsewhere _ rfl ⟨_, hdouyin⟩
  obtain ⟨item, hitem, hp⟩ := (hsame .bilibili).mp (by decide)
  have hone : item = .named "dy" := List.mem_singleton.mp hitem
  subst hone
  exact absurd hp (by decide)

end Targets

end MatriXpost
