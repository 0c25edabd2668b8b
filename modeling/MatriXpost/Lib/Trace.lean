/-
  File:      MatriXpost/Lib/Trace.lean
  Subject:   RUNS OF A LABELLED STEP RELATION, AND OPTIMISTIC VERSIONS. Nothing here names a
             program.

  `Trace step s events s'` is a run: the events in their order, any interleaving of whatever
  the labels stand for.

  * `Trace.invariant` is the induction over a run, made once;
  * `Trace.simulates` follows a run by one of another relation;
  * `Trace.idle_or_le` counts the turns it takes to work off a load;
  * `Trace.split` and `Trace.at_event` give the states before and after a part of it;
  * `Versioned step version wins`: every key carries a version, an event may win some keys at
    the version they have, which raises them by one, and nothing else moves a version. Then no
    key is won twice at one version in any run (`Versioned.wins_nodup`), which is what
    compare-and-set on a revision column is for.
-/
import Mathlib.Algebra.Ring.Nat
import Mathlib.Data.List.Nodup
import Mathlib.Data.List.Flatten

namespace MatriXpost

/-! ## 1. Runs -/

/-- A run of `step` from one state to another and the events it shows. -/
inductive Trace {σ ℓ : Type*} (step : σ → ℓ → σ → Prop) : σ → List ℓ → σ → Prop
  | nil {s : σ} : Trace step s [] s
  | cons {s s₁ s₂ : σ} {e : ℓ} {events : List ℓ} :
      step s e s₁ → Trace step s₁ events s₂ → Trace step s (e :: events) s₂

namespace Trace

variable {σ ℓ : Type*} {step : σ → ℓ → σ → Prop} {s s' : σ} {events : List ℓ}

/-- **What holds at the start and is kept by every step holds at the end.** -/
theorem invariant {I : σ → Prop} (h : Trace step s events s') (h0 : I s)
    (hstep : ∀ s₁ e s₂, I s₁ → step s₁ e s₂ → I s₂) : I s' := by
  induction h with
  | nil => exact h0
  | cons hs _ ih => exact ih (hstep _ _ _ h0 hs)

/-- The same for runs whose events meet a condition. -/
theorem invariant_on {I : σ → Prop} {P : ℓ → Prop} (h : Trace step s events s')
    (hP : ∀ e ∈ events, P e) (h0 : I s)
    (hstep : ∀ s₁ e s₂, P e → I s₁ → step s₁ e s₂ → I s₂) : I s' := by
  induction h with
  | nil => exact h0
  | cons hs _ ih =>
    refine ih (fun e he => hP e (List.mem_cons_of_mem _ he)) ?_
    exact hstep _ _ _ (hP _ List.mem_cons_self) h0 hs

/-- A run without events stays where it is. -/
theorem eq_of_nil (h : Trace step s [] s') : s' = s := by
  cases h
  rfl

theorem single {e : ℓ} (h : step s e s') : Trace step s [e] s' := cons h nil

theorem append {es : List ℓ} {s₂ : σ} (h : Trace step s events s') (h' : Trace step s' es s₂) :
    Trace step s (events ++ es) s₂ := by
  induction h with
  | nil => exact h'
  | cons hs _ ih => exact cons hs (ih h')

theorem snoc {e : ℓ} {s₂ : σ} (h : Trace step s events s') (he : step s' e s₂) :
    Trace step s (events ++ [e]) s₂ := append h (single he)

/-- A run of some steps is a run of more. -/
theorem mono {step' : σ → ℓ → σ → Prop} (h : Trace step s events s')
    (hstep : ∀ s₁ e s₂, step s₁ e s₂ → step' s₁ e s₂) : Trace step' s events s' := by
  induction h with
  | nil => exact nil
  | cons hs _ ih => exact cons (hstep _ _ _ hs) ih

/-- A run through the events of two lists passes through a state between them. -/
theorem split {es : List ℓ} (h : Trace step s (events ++ es) s') :
    ∃ m, Trace step s events m ∧ Trace step m es s' := by
  induction events generalizing s with
  | nil => exact ⟨s, nil, h⟩
  | cons e rest ih =>
    cases h with
    | cons hs ht =>
      obtain ⟨m, hm, hm'⟩ := ih ht
      exact ⟨m, cons hs hm, hm'⟩

/-- The states before and after one event of a run. -/
theorem at_event {es₁ es₂ : List ℓ} {e : ℓ} (h : Trace step s (es₁ ++ e :: es₂) s') :
    ∃ s₁ s₂, Trace step s es₁ s₁ ∧ step s₁ e s₂ ∧ Trace step s₂ es₂ s' := by
  obtain ⟨s₁, h₁, h₂⟩ := split h
  cases h₂ with
  | cons hs h₃ => exact ⟨s₁, _, h₁, hs, h₃⟩

/-- **A run is followed by a run of another relation, where every step is.** -/
theorem simulates {τ : Type*} {step' : τ → ℓ → τ → Prop} {R : σ → τ → Prop} {t : τ}
    (h : Trace step s events s') (h0 : R s t)
    (hstep : ∀ s₁ e s₂ t₁, R s₁ t₁ → step s₁ e s₂ → ∃ t₂, step' t₁ e t₂ ∧ R s₂ t₂) :
    ∃ t', Trace step' t events t' ∧ R s' t' := by
  induction h generalizing t with
  | nil => exact ⟨t, nil, h0⟩
  | cons hs _ ih =>
    obtain ⟨t₁, ht, h₁⟩ := hstep _ _ _ _ h0 hs
    obtain ⟨t', hrest, h'⟩ := ih h₁
    exact ⟨t', cons ht hrest, h'⟩

/-- A run whose events meet a condition and whose states keep an invariant is a run of the steps
    that do. -/
theorem restrict {I : σ → Prop} {P : ℓ → Prop} (h : Trace step s events s')
    (hP : ∀ e ∈ events, P e) (h0 : I s)
    (hstep : ∀ s₁ e s₂, P e → I s₁ → step s₁ e s₂ → I s₂) :
    Trace (fun s₁ e s₂ => I s₁ ∧ P e ∧ step s₁ e s₂) s events s' := by
  induction h with
  | nil => exact nil
  | @cons s s₁ s₂ e rest hs _ ih =>
    have he : P e := hP e List.mem_cons_self
    exact cons ⟨h0, he, hs⟩ (ih (fun e' he' => hP e' (List.mem_cons_of_mem e he'))
      (hstep s e s₁ he h0 hs))

/-- The induction over a run from its end: what the events so far establish. -/
theorem invariant_events {I : List ℓ → σ → Prop} (h : Trace step s events s') (h0 : I [] s)
    (hstep : ∀ es s₁ e s₂, Trace step s es s₁ → I es s₁ → step s₁ e s₂ → I (es ++ [e]) s₂) :
    I events s' := by
  suffices hgen : ∀ es s₁, Trace step s es s₁ → I es s₁ → ∀ es', Trace step s₁ es' s' →
      I (es ++ es') s' from hgen [] s nil h0 events h
  intro es s₁ ht hI es' h'
  induction h' generalizing es with
  | nil => rwa [List.append_nil]
  | @cons s₁ s₂ s' e rest hs h' ih =>
    rw [← List.singleton_append, ← List.append_assoc]
    exact ih h (es ++ [e]) (ht.snoc hs) (hstep es _ e _ ht hI hs)

/-- **Work is done or runs out.** A turn takes its capacity from the load unless it leaves the state
    idle, and other events bring load. Then a run passes through an idle state, or its turns have
    taken their capacity from what there was and what came. -/
theorem idle_or_le (idle : σ → Prop) (load : σ → Nat) (turn : ℓ → Bool) (brings : ℓ → Nat)
    (capacity : Nat) (h : Trace step s events s')
    (hturn : ∀ s₁ e s₂, step s₁ e s₂ → turn e = true → idle s₂ ∨ load s₂ + capacity ≤ load s₁)
    (hother : ∀ s₁ e s₂, step s₁ e s₂ → turn e = false → load s₂ ≤ load s₁ + brings e) :
    (∃ es₁ es₂ m, events = es₁ ++ es₂ ∧ Trace step s es₁ m ∧ idle m ∧ Trace step m es₂ s') ∨
      load s' + capacity * events.countP turn ≤ load s + (events.map brings).sum := by
  induction h with
  | nil => exact .inr (by simp)
  | @cons s s₁ s' e rest hs hrest ih =>
    rcases ih with ⟨es₁, es₂, m, rfl, h₁, hidle, h₂⟩ | hle
    · exact .inl ⟨e :: es₁, es₂, m, rfl, cons hs h₁, hidle, h₂⟩
    rw [List.map_cons, List.sum_cons]
    cases he : turn e with
    | true =>
      rcases hturn s e s₁ hs he with hidle | htook
      · exact .inl ⟨[e], rest, s₁, rfl, single hs, hidle, hrest⟩
      · rw [List.countP_cons_of_pos he, Nat.mul_succ]
        exact .inr (by omega)
    | false =>
      have hcame := hother s e s₁ hs he
      rw [List.countP_cons_of_neg (by simp [he])]
      exact .inr (by omega)

end Trace

/-! ## 2. Optimistic versions -/

/-- Keys with versions: an event wins the keys of `wins e`, each at the version it has, and
    raises these by one; no other version moves, and no key goes away. -/
structure Versioned {σ ℓ κ : Type*} (step : σ → ℓ → σ → Prop) (version : σ → κ → Option Nat)
    (wins : ℓ → List (κ × Nat)) : Prop where
  distinct : ∀ s e s', step s e s' → (wins e).Nodup
  present : ∀ s e s', step s e s' → ∀ k v, (k, v) ∈ wins e → version s k = some v
  raised : ∀ s e s', step s e s' → ∀ k v, (k, v) ∈ wins e → version s' k = some (v + 1)
  kept : ∀ s e s', step s e s' → ∀ k v, version s k = some v → (k, v) ∉ wins e →
    version s' k = some v

namespace Versioned

variable {σ ℓ κ : Type*} {step : σ → ℓ → σ → Prop} {version : σ → κ → Option Nat}
  {wins : ℓ → List (κ × Nat)}

/-- No version falls. -/
theorem version_le (hv : Versioned step version wins) {s s' : σ} {events : List ℓ}
    (h : Trace step s events s') {k : κ} {v : Nat} (hk : version s k = some v) :
    ∃ w, version s' k = some w ∧ v ≤ w := by
  refine h.invariant (I := fun s => ∃ w, version s k = some w ∧ v ≤ w) ⟨v, hk, Nat.le_refl v⟩ ?_
  rintro s₁ e s₂ ⟨w, hw, hle⟩ hs
  by_cases hmem : (k, w) ∈ wins e
  · exact ⟨w + 1, hv.raised _ _ _ hs k w hmem, Nat.le_succ_of_le hle⟩
  · exact ⟨w, hv.kept _ _ _ hs k w hw hmem, hle⟩

/-- What is still to be won lies at or above the version the key has now. -/
theorem le_of_win (hv : Versioned step version wins) {s s' : σ} {events : List ℓ}
    (h : Trace step s events s') {k : κ} {u v : Nat} (hk : version s k = some u)
    (hw : (k, v) ∈ events.flatMap wins) : u ≤ v := by
  obtain ⟨e, he, hke⟩ := List.mem_flatMap.mp hw
  obtain ⟨es₁, es₂, rfl⟩ := List.append_of_mem he
  obtain ⟨s₁, s₂, h₁, hs, _⟩ := h.at_event
  obtain ⟨w, hw, hle⟩ := hv.version_le h₁ hk
  rw [hv.present _ _ _ hs k v hke] at hw
  cases hw
  exact hle

/-- **No key is won twice at one version, in whichever order the events come.** -/
theorem wins_nodup (hv : Versioned step version wins) {s s' : σ} {events : List ℓ}
    (h : Trace step s events s') : (events.flatMap wins).Nodup := by
  induction h with
  | nil => exact List.nodup_nil
  | @cons s s₁ s' e rest hs ht ih =>
    rw [List.flatMap_cons, List.nodup_append]
    refine ⟨hv.distinct _ _ _ hs, ih, ?_⟩
    rintro ⟨k, v⟩ hwon ⟨k', v'⟩ hlater heq
    cases heq
    -- Won now, the version is past `v`; what is won later lies at or above it.
    have hle := hv.le_of_win ht (hv.raised _ _ _ hs k v hwon) hlater
    omega

/-- The same by positions: two events of a run that win one key at one version are one event. -/
theorem win_position (hv : Versioned step version wins) {s s' : σ} {events : List ℓ}
    (h : Trace step s events s') {i j : Nat} {e₁ e₂ : ℓ} (h₁ : events[i]? = some e₁)
    (h₂ : events[j]? = some e₂) {p : κ × Nat} (hp₁ : p ∈ wins e₁) (hp₂ : p ∈ wins e₂) : i = j := by
  have hpair := (List.nodup_flatMap.mp (hv.wins_nodup h)).2
  rw [List.pairwise_iff_getElem] at hpair
  obtain ⟨hi, rfl⟩ := List.getElem?_eq_some_iff.mp h₁
  obtain ⟨hj, rfl⟩ := List.getElem?_eq_some_iff.mp h₂
  rcases Nat.lt_trichotomy i j with hlt | heq | hgt
  · exact absurd hp₂ (hpair i j hi hj hlt hp₁)
  · exact heq
  · exact absurd hp₁ (hpair j i hj hi hgt hp₂)

end Versioned

end MatriXpost
