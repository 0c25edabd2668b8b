/-
  File:      MatriXpost/Lib/Split.lean
  Subject:   STATES OF TWO INDEPENDENT PARTS. Nothing here names a program.

  A `Split σ` cuts a state in two: `mix s t` is the first part of `s` with the second part of
  `t`. Three equations say that the parts are independent.

  * `Split.OnFirst step`: a step reads and writes the first part only. `Split.swap` exchanges the
    parts, so the second needs no rules of its own;
  * `Split.either_trace`: an interleaving of steps on the first and steps on the second part is a
    run of the ones and a run of the others, and any two such runs interleave in every order;
  * `Sql.On S x`: a program of statements that stays on the first part. The rules follow the
    programs (`on_bind`, `on_statement`, `on_transaction`, `on_loopFuel`, …), and `On.runs_beside`
    runs it beside any second part.
-/
import MatriXpost.Lib.Loop
import MatriXpost.Lib.Trace

namespace MatriXpost

/-- The first part of one state with the second part of another. -/
structure Split (σ : Type*) where
  mix : σ → σ → σ
  mix_self : ∀ s, mix s s = s
  mix_left : ∀ s t u, mix (mix s t) u = mix s u
  mix_right : ∀ s t u, mix s (mix t u) = mix s u

namespace Split

/-! ## 1. States -/

section Mix

variable {σ : Type*} (S : Split σ) {s s' : σ}

/-- The parts exchanged. -/
def swap (S : Split σ) : Split σ where
  mix s t := S.mix t s
  mix_self := S.mix_self
  mix_left s t u := S.mix_right u t s
  mix_right s t u := S.mix_left u t s

/-- States that agree on the second part. -/
theorem mix_eq_right (h : S.mix s' s = s') : S.mix s s' = s := by
  rw [← h, S.mix_right, S.mix_self]

theorem mix_of_right (h : S.mix s' s = s') {t : σ} : S.mix t s' = S.mix t s := by
  rw [← h, S.mix_right]

/-- States that agree on the first part. -/
theorem mix_eq_left (h : S.mix s s' = s') : S.mix s' s = s := by
  rw [← h, S.mix_left, S.mix_self]

theorem mix_of_left (h : S.mix s s' = s') {t : σ} : S.mix s' t = S.mix s t := by
  rw [← h, S.mix_left]

end Mix

/-! ## 2. Steps on one part -/

section Steps

variable {σ ℓ ℓ' : Type*} {S : Split σ} {step : σ → ℓ → σ → Prop} {step' : σ → ℓ' → σ → Prop}
  {s s' t : σ} {events : List ℓ}

/-- The step leaves the second part as it is, and does the same beside any other. -/
structure OnFirst (S : Split σ) (step : σ → ℓ → σ → Prop) : Prop where
  kept : ∀ s e s', step s e s' → S.mix s' s = s'
  beside : ∀ s e s' t, step s e s' → step (S.mix s t) e (S.mix s' t)

/-- **A run on the first part is one beside any second part.** -/
theorem OnFirst.trace_beside (h : S.OnFirst step) (hrun : Trace step s events s') (t : σ) :
    Trace step (S.mix s t) events (S.mix s' t) := by
  induction hrun with
  | nil => exact .nil
  | cons hs _ ih => exact .cons (h.beside _ _ _ t hs) ih

/-- Steps of two kinds, the ones on the first part and the others on the second. -/
inductive Either (step : σ → ℓ → σ → Prop) (step' : σ → ℓ' → σ → Prop) : σ → ℓ ⊕ ℓ' → σ → Prop
  | first {s s' : σ} {e : ℓ} : step s e s' → Either step step' s (.inl e) s'
  | second {s s' : σ} {e : ℓ'} : step' s e s' → Either step step' s (.inr e) s'

/-- The events of the first kind. -/
def firsts (events : List (ℓ ⊕ ℓ')) : List ℓ := events.filterMap Sum.getLeft?

/-- The events of the second kind. -/
def seconds (events : List (ℓ ⊕ ℓ')) : List ℓ' := events.filterMap Sum.getRight?

section Interleaving

variable {both : List (ℓ ⊕ ℓ')}

theorem mem_firsts {e : ℓ} (h : e ∈ firsts both) : Sum.inl e ∈ both := by
  obtain ⟨e', he', hleft⟩ := List.mem_filterMap.mp h
  cases e' with
  | inl e'' =>
    cases hleft
    exact he'
  | inr e'' => cases hleft

theorem mem_seconds {e : ℓ'} (h : e ∈ seconds both) : Sum.inr e ∈ both := by
  obtain ⟨e', he', hright⟩ := List.mem_filterMap.mp h
  cases e' with
  | inl e'' => cases hright
  | inr e'' =>
    cases hright
    exact he'

/-- An interleaving is a run of each kind. -/
theorem either_runs (h : S.OnFirst step) (h' : S.swap.OnFirst step')
    (hrun : Trace (Either step step') s both s') :
    Trace step s (firsts both) (S.mix s' s) ∧ Trace step' s (seconds both) (S.mix s s') := by
  induction hrun with
  | @nil s =>
    rw [S.mix_self]
    exact ⟨.nil, .nil⟩
  | @cons s s₁ s' e rest hs _ ih =>
    obtain ⟨hfirst, hsecond⟩ := ih
    cases hs with
    | first hs =>
      have hkept : S.mix s₁ s = s₁ := h.kept _ _ _ hs
      -- The others run beside the first part the step began with as beside the one it left.
      have hmoved := h'.trace_beside hsecond s
      change Trace step' (S.mix s s₁) (seconds rest) (S.mix s (S.mix s₁ s')) at hmoved
      rw [S.mix_eq_right hkept, S.mix_right] at hmoved
      rw [S.mix_of_right hkept] at hfirst
      exact ⟨.cons hs hfirst, hmoved⟩
    | second hs =>
      have hkept : S.mix s s₁ = s₁ := h'.kept _ _ _ hs
      have hmoved := h.trace_beside hfirst s
      rw [S.mix_eq_left hkept, S.mix_left] at hmoved
      rw [S.mix_of_left hkept] at hsecond
      exact ⟨hmoved, .cons hs hsecond⟩

/-- Two runs, one of each kind, interleave in any order. -/
theorem either_of_runs (h : S.OnFirst step) (h' : S.swap.OnFirst step')
    (hfirst : Trace step s (firsts both) (S.mix s' s))
    (hsecond : Trace step' s (seconds both) (S.mix s s')) :
    Trace (Either step step') s both s' := by
  induction both generalizing s with
  | nil =>
    have hback : s' = s := by
      have hleft := hfirst.eq_of_nil
      have hright := hsecond.eq_of_nil
      rw [← S.mix_self s', ← S.mix_left s' s s', hleft, hright]
    rw [hback]
    exact .nil
  | cons e rest ih =>
    cases e with
    | inl e =>
      cases hfirst with
      | @cons _ s₁ _ _ _ hs hrest =>
        have hkept : S.mix s₁ s = s₁ := h.kept s e s₁ hs
        have hmoved := h'.trace_beside hsecond s₁
        change Trace step' (S.mix s₁ s) (seconds rest) (S.mix s₁ (S.mix s s')) at hmoved
        rw [hkept, S.mix_right] at hmoved
        rw [← S.mix_of_right hkept] at hrest
        exact .cons (.first hs) (ih hrest hmoved)
    | inr e =>
      cases hsecond with
      | @cons _ s₁ _ _ _ hs hrest =>
        have hkept : S.mix s s₁ = s₁ := h'.kept s e s₁ hs
        have hmoved := h.trace_beside hfirst s₁
        rw [hkept, S.mix_left] at hmoved
        rw [← S.mix_of_left hkept] at hrest
        exact .cons (.second hs) (ih hmoved hrest)

/-- **The interleavings of two kinds of steps, each on its own part, are the pairs of a run of the
    one and a run of the other.** -/
theorem either_trace (h : S.OnFirst step) (h' : S.swap.OnFirst step') :
    Trace (Either step step') s both s' ↔
      Trace step s (firsts both) (S.mix s' s) ∧ Trace step' s (seconds both) (S.mix s s') := by
  constructor
  · intro hrun
    exact either_runs h h' hrun
  · intro hruns
    exact either_of_runs h h' hruns.1 hruns.2

end Interleaving

end Steps

end Split

/-! ## 3. Programs of statements on one part -/

namespace Sql

variable {ε σ α β : Type} {S : Split σ}

/-- The program does beside any second part what it does beside its own. -/
def On (S : Split σ) (x : Sql ε σ α) : Prop :=
  ∀ s t faults, x ⟨S.mix s t, faults⟩ = ((x ⟨s, faults⟩).1,
    ⟨S.mix (x ⟨s, faults⟩).2.store t, (x ⟨s, faults⟩).2.faults⟩)

theorem on_lift (r : Except ε α) : On S (lift r : Sql ε σ α) := fun _ _ _ => rfl

theorem on_pure (a : α) : On S (pure a : Sql ε σ α) := on_lift (.ok a)

theorem on_fail (e : ε) : On S (fail e : Sql ε σ α) := on_lift (.error e)

/-- **A sequence of programs on one part is one.** -/
theorem on_bind {x : Sql ε σ α} {f : α → Sql ε σ β} (hx : On S x) (hf : ∀ a, On S (f a)) :
    On S (x >>= f) := by
  intro s t faults
  change Sql.bind x f ⟨S.mix s t, faults⟩ = ((Sql.bind x f ⟨s, faults⟩).1,
    ⟨S.mix (Sql.bind x f ⟨s, faults⟩).2.store t, (Sql.bind x f ⟨s, faults⟩).2.faults⟩)
  have hfirst := hx s t faults
  unfold Sql.bind
  rw [hfirst]
  cases hout : x ⟨s, faults⟩ with
  | mk reply db =>
    cases reply with
    | error e => rfl
    | ok a => exact hf a db.store t db.faults

theorem on_loopFuel {turn : Sql ε σ (Option α)} (h : On S turn) (spent : ε) (fuel : Nat) :
    On S (loopFuel spent turn fuel) := by
  induction fuel with
  | zero => exact on_fail spent
  | succ fuel ih =>
    refine on_bind h fun answer => ?_
    cases answer with
    | some a => exact on_pure a
    | none => exact ih

section Statements
variable [DatabaseError ε]

/-- A statement is on one part if what it does is. -/
theorem on_statement {f : σ → Except ε (α × σ)}
    (h : ∀ s t, f (S.mix s t) = (f s).map fun out => (out.1, S.mix out.2 t)) :
    On S (statement f) := by
  intro s t faults
  unfold statement
  rw [h s t]
  rcases faults with _ | ⟨_ | message, rest⟩
  · cases f s <;> rfl
  · cases f s <;> rfl
  · rfl

theorem on_query {f : σ → α} (h : ∀ s t, f (S.mix s t) = f s) :
    On S (query f : Sql ε σ α) :=
  on_statement fun s t => by
    rw [h]
    rfl

theorem on_execute {f : σ → α × σ} (h : ∀ s t, f (S.mix s t) = ((f s).1, S.mix (f s).2 t)) :
    On S (execute f : Sql ε σ α) :=
  on_statement fun s t => by
    rw [h]
    rfl

/-- **A transaction is on the part its body is on**: what is rolled back is mixed as before. -/
theorem on_transaction {x : Sql ε σ α} (hx : On S x) : On S (transaction x) := by
  have hmark : On S (statement (ε := ε) fun s : σ => .ok ((), s)) := on_statement fun _ _ => rfl
  intro s t faults
  have hbegin := hmark s t faults
  unfold transaction
  rw [hbegin]
  generalize statement (ε := ε) (fun s => .ok ((), s)) ⟨s, faults⟩ = begun
  obtain ⟨reply, db⟩ := begun
  cases reply with
  | error e => rfl
  | ok u =>
    have hbody := hx db.store t db.faults
    dsimp only
    rw [hbody]
    generalize x ⟨db.store, db.faults⟩ = done
    obtain ⟨reply, db'⟩ := done
    cases reply with
    | error e => rfl
    | ok a =>
      have hcommit := hmark db'.store t db'.faults
      dsimp only
      rw [hcommit]
      generalize statement (ε := ε) (fun s => .ok ((), s)) ⟨db'.store, db'.faults⟩ = last
      obtain ⟨reply, db''⟩ := last
      cases reply with
      | error e => rfl
      | ok u => rfl

end Statements

/-! ## 4. Their runs -/

section Runs
variable {x : Sql ε σ α} {s s' : σ} {reply : Except ε α}

/-- What a program on the first part answers and writes, it answers and writes beside any second
    part. -/
theorem On.runs_beside (hx : On S x) (h : Runs x s reply s') (t : σ) :
    Runs x (S.mix s t) reply (S.mix s' t) := by
  obtain ⟨faults, faults', h⟩ := h
  refine ⟨faults, faults', ?_⟩
  rw [hx s t faults, h]

/-- It leaves the second part as it is. -/
theorem On.runs_kept (hx : On S x) (h : Runs x s reply s') : S.mix s' s = s' := by
  obtain ⟨faults, faults', h⟩ := h
  have hself := hx s s faults
  rw [S.mix_self, h] at hself
  exact (congrArg (fun out => out.2.store) hself).symm

end Runs

end Sql

end MatriXpost
