/-
  File:      MatriXpost/Lib/Simulation.lean
  Subject:   THE SAME PROGRAMS OVER TWO STATES that answer calls alike. Nothing here names a
             program.

  * `Prog.eval answer p t`: over a state that has one answer for each call a program is a function;
    a program alone on a related state answers what it says (`exec_eq_eval`, `exec_eval`);
  * `pool_simulates`: a pool over one state is followed, event by event, by the same pool over
    the other. What the second does at its calls is what the first is seen to do.
-/
import MatriXpost.Lib.Dialogue
import MatriXpost.Lib.Trace

namespace MatriXpost

/-! ## 1. A program alone -/

/-- The run of a program over a state that has one answer for each call. -/
def Prog.eval {E : Type} {R : E → Type} {α τ : Type} (answer : (e : E) → τ → R e × τ) :
    Prog E R α → τ → α × τ
  | .ret a, t => (a, t)
  | .call e k, t => (k (answer e t).1).eval answer (answer e t).2

theorem Prog.eval_bind {E : Type} {R : E → Type} {α β τ : Type}
    {answer : (e : E) → τ → R e × τ} (p : Prog E R α) (f : α → Prog E R β) (t : τ) :
    (p >>= f).eval answer t = (f (p.eval answer t).1).eval answer (p.eval answer t).2 := by
  induction p generalizing t with
  | ret a => rfl
  | call e k ih => exact ih _ _

section TwoStates

variable {O E : Type} {R : E → Type} {α σ τ : Type} {rel : σ → τ → Prop}
  {handle : (e : E) → σ → R e → σ → Prop} {handle' : (e : E) → τ → R e → τ → Prop}

/-- **A program that runs alone answers what it answers on the related state**, where each of its
    calls does. -/
theorem exec_eq_eval {answer : (e : E) → τ → R e × τ} {good : E → Prop}
    (hcall : ∀ e s t r s', good e → rel s t → handle e s r s' →
      r = (answer e t).1 ∧ rel s' (answer e t).2)
    {p : Prog E R α} {s s' : σ} {t : τ} {es : List (Called E R)} {a : α} (hp : p.Only good)
    (h0 : rel s t) (h : Exec (· = ·) handle p s es a s') :
    a = (p.eval answer t).1 ∧ rel s' (p.eval answer t).2 := by
  induction h generalizing t with
  | ret henv =>
    subst henv
    exact ⟨rfl, h0⟩
  | @call e k s m m' s' r es a henv hdo _ ih =>
    obtain ⟨hgood, hrest⟩ := only_call.mp hp
    subst henv
    obtain ⟨rfl, hrel⟩ := hcall e _ t r m' hgood h0 hdo
    exact ih (hrest _) hrel

/-- **And it does run**, where each of its calls is answered so. -/
theorem exec_eval {answer : (e : E) → τ → R e × τ} {good : E → Prop}
    (hcall : ∀ e s t, good e → rel s t → ∃ s', handle e s (answer e t).1 s' ∧ rel s' (answer e t).2)
    {p : Prog E R α} {s : σ} {t : τ} (hp : p.Only good) (h0 : rel s t) :
    ∃ es s', Exec (· = ·) handle p s es (p.eval answer t).1 s' := by
  induction p generalizing s t with
  | ret a => exact ⟨[], s, .ret rfl⟩
  | call e k ih =>
    obtain ⟨hgood, hrest⟩ := only_call.mp hp
    obtain ⟨m, hdo, hrel⟩ := hcall e s t hgood h0
    obtain ⟨es, s', hrun⟩ := ih _ (hrest _) hrel
    exact ⟨_, s', .call rfl hdo hrun⟩

/-! ## 2. Many programs -/

/-- The call of an event is one that the related state can make too. -/
def PoolEvent.Follows (good : Called E R → Prop) : PoolEvent O E R → Prop
  | .called _ _ c => good c
  | _ => True

variable {program : O → Prog E R Unit}

/-- One event of a pool over one state is one of the same pool over the related state. -/
theorem poolStep_simulates {good : Called E R → Prop}
    (hcall : ∀ e s t r s', good ⟨e, r⟩ → rel s t → handle e s r s' →
      ∃ t', handle' e t r t' ∧ rel s' t')
    {w w' : Pool O E R σ} {t : τ} {e : PoolEvent O E R} (he : e.Follows good)
    (h0 : rel w.state t) (h : PoolStep program handle w e w') :
    ∃ t', PoolStep program handle' ⟨t, w.processes⟩ e ⟨t', w'.processes⟩ ∧ rel w'.state t' := by
  cases h with
  | started origin => exact ⟨t, .started origin, h0⟩
  | called before after hdo =>
    obtain ⟨t', hdo', hrel⟩ := hcall _ _ _ _ _ he h0 hdo
    exact ⟨t', .called before after hdo', hrel⟩
  | ended before after => exact ⟨t, .ended before after, h0⟩
  | crashed before after => exact ⟨t, .crashed before after, h0⟩

/-- **A run of a pool over one state is a run of the same pool over the related state**: the same
    processes make the same calls and get the same replies. -/
theorem pool_simulates {good : Called E R → Prop}
    (hcall : ∀ e s t r s', good ⟨e, r⟩ → rel s t → handle e s r s' →
      ∃ t', handle' e t r t' ∧ rel s' t')
    {s : σ} {t : τ} {ps : List (Process O E R)} {events : List (PoolEvent O E R)}
    {w : Pool O E R σ} (h : Trace (PoolStep program handle) ⟨s, ps⟩ events w)
    (hgood : ∀ e ∈ events, e.Follows good) (h0 : rel s t) :
    ∃ t', Trace (PoolStep program handle') ⟨t, ps⟩ events ⟨t', w.processes⟩ ∧ rel w.state t' := by
  have hrun := h.restrict (I := fun _ => True) hgood trivial fun _ _ _ _ _ _ => trivial
  have hfollow : ∀ (w₁ : Pool O E R σ) (e : PoolEvent O E R) (w₂ : Pool O E R σ)
      (v : Pool O E R τ), rel w₁.state v.state ∧ v.processes = w₁.processes →
      (True ∧ e.Follows good ∧ PoolStep program handle w₁ e w₂) →
      ∃ v', PoolStep program handle' v e v' ∧ rel w₂.state v'.state ∧
        v'.processes = w₂.processes := by
    intro w₁ e w₂ v hR hstep
    obtain ⟨u, qs⟩ := v
    obtain ⟨hrel, rfl⟩ := hR
    obtain ⟨u', hstep', hrel'⟩ := poolStep_simulates hcall hstep.2.1 hrel hstep.2.2
    exact ⟨⟨u', w₂.processes⟩, hstep', hrel', rfl⟩
  obtain ⟨⟨t', ps'⟩, htrace, hrel, rfl⟩ := hrun.simulates
    (R := fun (w : Pool O E R σ) (v : Pool O E R τ) =>
      rel w.state v.state ∧ v.processes = w.processes) (t := ⟨t, ps⟩) ⟨h0, rfl⟩ hfollow
  exact ⟨t', htrace, hrel⟩

end TwoStates

end MatriXpost
