/-
  File:      MatriXpost/Lib/Pair.lean
  Subject:   TWO PROGRAMS OVER ONE STATE, CALL BY CALL, IN ANY ORDER. Nothing here names a program.

  Each call is answered by `perform`, at once and by the state it meets. An event of a run is a
  call and that state.

  * `pair_invariant`: what a program's own call establishes, and every call of the other keeps,
    holds of both in every run;
  * a program that has come to its end stays there (`pair_left_ended`);
  * `Pair.follow` is the run of a schedule, `Prog.alone` that of one program.
-/
import MatriXpost.Lib.Prog

namespace MatriXpost

section Pair

variable {E : Type} {R : E → Type} {σ α : Type}

/-- Two programs and what they share. -/
structure Pair (E : Type) (R : E → Type) (σ α : Type) where
  state : σ
  left : Prog E R α
  right : Prog E R α

/-- A call, and the state it met. -/
structure PairEvent (E σ : Type) where
  met : σ
  call : E

/-- One of the two makes its next call. -/
inductive PairStep (perform : (e : E) → σ → R e × σ) :
    Pair E R σ α → PairEvent E σ → Pair E R σ α → Prop
  | left {e : E} {k : R e → Prog E R α} {q : Prog E R α} {s : σ} :
      PairStep perform ⟨s, .call e k, q⟩ ⟨s, e⟩ ⟨(perform e s).2, k (perform e s).1, q⟩
  | right {e : E} {k : R e → Prog E R α} {q : Prog E R α} {s : σ} :
      PairStep perform ⟨s, q, .call e k⟩ ⟨s, e⟩ ⟨(perform e s).2, q, k (perform e s).1⟩

variable {perform : (e : E) → σ → R e × σ} {w w' : Pair E R σ α} {events : List (PairEvent E σ)}

/-! ## 1. Runs -/

/-- **What a call establishes for its program and keeps for the other holds of both.** -/
theorem pair_invariant (stands : σ → Prog E R α → Prop) (allowed : PairEvent E σ → Prop)
    (hcall : ∀ s e k, stands s (.call e k) → allowed ⟨s, e⟩ →
      stands (perform e s).2 (k (perform e s).1) ∧ ∀ q, stands s q → stands (perform e s).2 q)
    (h : Trace (PairStep perform) w events w') (hevents : ∀ e ∈ events, allowed e)
    (hleft : stands w.state w.left) (hright : stands w.state w.right) :
    stands w'.state w'.left ∧ stands w'.state w'.right := by
  refine h.invariant_on (I := fun w => stands w.state w.left ∧ stands w.state w.right)
    (P := allowed) hevents ⟨hleft, hright⟩ ?_
  intro w₁ e w₂ hallowed hI hstep
  cases hstep with
  | left =>
    obtain ⟨hown, hother⟩ := hcall _ _ _ hI.1 hallowed
    exact ⟨hown, hother _ hI.2⟩
  | right =>
    obtain ⟨hown, hother⟩ := hcall _ _ _ hI.2 hallowed
    exact ⟨hother _ hI.1, hown⟩

theorem pair_left_ended {a : α} (h : Trace (PairStep perform) w events w')
    (ha : w.left = .ret a) : w'.left = .ret a := by
  refine h.invariant (I := fun w => w.left = .ret a) ha ?_
  intro w₁ e w₂ hI hstep
  cases hstep with
  | left => cases hI
  | right => exact hI

theorem pair_right_ended {a : α} (h : Trace (PairStep perform) w events w')
    (ha : w.right = .ret a) : w'.right = .ret a := by
  refine h.invariant (I := fun w => w.right = .ret a) ha ?_
  intro w₁ e w₂ hI hstep
  cases hstep with
  | left => exact hI
  | right => cases hI

/-! ## 2. Schedules -/

/-- The run of a schedule: whose turn it is, the left's if `true`. A program that has come to its
    end lets its turns pass. -/
def Pair.follow (perform : (e : E) → σ → R e × σ) :
    List Bool → Pair E R σ α → List (PairEvent E σ) × Pair E R σ α
  | [], w => ([], w)
  | turn :: rest, ⟨s, p, q⟩ =>
    match turn, p, q with
    | true, .call e k, q =>
      let run := follow perform rest ⟨(perform e s).2, k (perform e s).1, q⟩
      (⟨s, e⟩ :: run.1, run.2)
    | false, p, .call e k =>
      let run := follow perform rest ⟨(perform e s).2, p, k (perform e s).1⟩
      (⟨s, e⟩ :: run.1, run.2)
    | _, p, q => follow perform rest ⟨s, p, q⟩

theorem trace_follow (schedule : List Bool) (w : Pair E R σ α) :
    Trace (PairStep perform) w (w.follow perform schedule).1 (w.follow perform schedule).2 := by
  induction schedule generalizing w with
  | nil => exact .nil
  | cons turn rest ih =>
    obtain ⟨s, p, q⟩ := w
    cases turn with
    | true =>
      cases p with
      | ret a => exact ih _
      | call e k => exact .cons .left (ih _)
    | false =>
      cases q with
      | ret a => exact ih _
      | call e k => exact .cons .right (ih _)

/-- A program alone: its answer, and the state it leaves. -/
def Prog.alone (perform : (e : E) → σ → R e × σ) : Prog E R α → σ → α × σ
  | .ret a, s => (a, s)
  | .call e k, s => alone perform (k (perform e s).1) (perform e s).2

end Pair

end MatriXpost
