/-
  File:      MatriXpost/Lib/Prog.lean
  Subject:   PROGRAMS THAT CALL SERVICES, ALONE OR AMONG OTHERS. Nothing here names a program.

  A `Prog E R α` answers, or makes a call `e : E` and goes on with its reply `R e`. What a call
  does to the state is a relation `handle`, so that services may answer in many ways.

  * `Exec env handle p s es a s'`: `p` runs to its end and shows the calls `es`, while others
    change the state by `env` between any two of them. `exec_bind`, `exec_call` and
    `exec_forEach` take such a run apart;
  * a `Pool` runs any number of programs over one state, one call at a time, in any order; each
    may end, or crash between any two calls. Every process keeps the log of its own calls.
    `Prog.Keeps` says of a program alone that each of its calls is one its log permits;
    `pool_keeps_step` and `pool_permitted` carry this to all processes of a run.
-/
import MatriXpost.Lib.Trace

namespace MatriXpost

/-! ## 1. Programs -/

/-- An answer, or a call and what is done with its reply. -/
inductive Prog (E : Type) (R : E → Type) (α : Type) where
  | ret (a : α)
  | call (e : E) (k : R e → Prog E R α)

/-- A call with its reply. -/
structure Called (E : Type) (R : E → Type) where
  call : E
  reply : R call

namespace Prog

variable {E : Type} {R : E → Type} {α β : Type}

protected def bind : Prog E R α → (α → Prog E R β) → Prog E R β
  | ret a, f => f a
  | call e k, f => call e fun r => (k r).bind f

instance : Monad (Prog E R) where
  pure := ret
  bind := Prog.bind

/-- One call. -/
def perform (e : E) : Prog E R (R e) := call e ret

/-- `for a in items { f(a) }`. -/
def forEach (items : List α) (f : α → Prog E R Unit) : Prog E R Unit :=
  match items with
  | [] => ret ()
  | a :: rest => do
    f a
    forEach rest f

end Prog

/-! ## 2. A run among others -/

section Exec

variable {E : Type} {R : E → Type} {α β σ : Type}

/-- `p` runs to its end: between its calls others change the state by `env`. -/
inductive Exec (env : σ → σ → Prop) (handle : (e : E) → σ → R e → σ → Prop) :
    Prog E R α → σ → List (Called E R) → α → σ → Prop
  | ret {a : α} {s s' : σ} : env s s' → Exec env handle (.ret a) s [] a s'
  | call {e : E} {k : R e → Prog E R α} {s m m' s' : σ} {r : R e} {es : List (Called E R)}
      {a : α} :
      env s m → handle e m r m' → Exec env handle (k r) m' es a s' →
      Exec env handle (.call e k) s (⟨e, r⟩ :: es) a s'

variable {env : σ → σ → Prop} {handle : (e : E) → σ → R e → σ → Prop}

theorem exec_ret {a b : α} {s s' : σ} {es : List (Called E R)}
    (h : Exec env handle (pure a : Prog E R α) s es b s') : es = [] ∧ b = a ∧ env s s' := by
  cases h with
  | ret henv => exact ⟨rfl, rfl, henv⟩

/-- **A run of a sequence is a run of its first part and one of its second.** -/
theorem exec_bind (hrefl : ∀ s, env s s) {p : Prog E R α} {f : α → Prog E R β} {s s' : σ}
    {es : List (Called E R)} {b : β} (h : Exec env handle (p >>= f) s es b s') :
    ∃ es₁ es₂ a m, es = es₁ ++ es₂ ∧ Exec env handle p s es₁ a m ∧
      Exec env handle (f a) m es₂ b s' := by
  induction p generalizing s es with
  | ret a => exact ⟨[], es, a, s, rfl, .ret (hrefl s), h⟩
  | call e k ih =>
    cases h with
    | call henv hcall hrest =>
      obtain ⟨es₁, es₂, a, m, rfl, hfirst, hsecond⟩ := ih _ hrest
      exact ⟨_ :: es₁, es₂, a, m, rfl, .call henv hcall hfirst, hsecond⟩

/-- A run may begin with what others do. -/
theorem exec_env (htrans : ∀ s m s', env s m → env m s' → env s s') {p : Prog E R α} {s m s' : σ}
    {es : List (Called E R)} {a : α} (h : env s m) (hrun : Exec env handle p m es a s') :
    Exec env handle p s es a s' := by
  cases hrun with
  | ret henv => exact .ret (htrans _ _ _ h henv)
  | call henv hcall hrest => exact .call (htrans _ _ _ h henv) hcall hrest

/-- **And a run of the first part with one of the second is a run of the sequence.** -/
theorem exec_then (htrans : ∀ s m s', env s m → env m s' → env s s') {p : Prog E R α}
    {f : α → Prog E R β} {s m s' : σ} {es₁ es₂ : List (Called E R)} {a : α} {b : β}
    (h : Exec env handle p s es₁ a m) (h' : Exec env handle (f a) m es₂ b s') :
    Exec env handle (p >>= f) s (es₁ ++ es₂) b s' := by
  induction h with
  | ret henv => exact exec_env htrans henv h'
  | call henv hcall _ ih => exact .call henv hcall (ih h')

/-- A run that begins with a call: others act, the call is answered, the rest runs. -/
theorem exec_call {e : E} {f : R e → Prog E R β} {s s' : σ} {es : List (Called E R)} {b : β}
    (h : Exec env handle (Prog.perform e >>= f) s es b s') :
    ∃ r es' m m', es = ⟨e, r⟩ :: es' ∧ env s m ∧ handle e m r m' ∧
      Exec env handle (f r) m' es' b s' := by
  cases h with
  | call henv hcall hrest => exact ⟨_, _, _, _, rfl, henv, hcall, hrest⟩

theorem exec_perform {e : E} {f : R e → Prog E R β} {s m m' s' : σ} {r : R e}
    {es : List (Called E R)} {b : β} (henv : env s m) (hcall : handle e m r m')
    (h : Exec env handle (f r) m' es b s') :
    Exec env handle (Prog.perform e >>= f) s (⟨e, r⟩ :: es) b s' := .call henv hcall h

/-- A run of a loop is a run of its first turn and one of the others. -/
theorem exec_forEach (hrefl : ∀ s, env s s) {a : α} {rest : List α} {f : α → Prog E R Unit}
    {s s' : σ} {es : List (Called E R)}
    (h : Exec env handle (Prog.forEach (a :: rest) f) s es () s') :
    ∃ es₁ es₂ m, es = es₁ ++ es₂ ∧ Exec env handle (f a) s es₁ () m ∧
      Exec env handle (Prog.forEach rest f) m es₂ () s' := by
  obtain ⟨es₁, es₂, u, m, he, hfirst, hrest⟩ := exec_bind hrefl h
  exact ⟨es₁, es₂, m, he, hfirst, hrest⟩

end Exec

/-! ## 3. What a program's log permits -/

section Keeps

variable {E : Type} {R : E → Type} {α β : Type} {rely : Called E R → Prop}
  {permits : List (Called E R) → E → Prop} {log : List (Called E R)}

/-- Every call of the program is one the log before it permits, and its answer comes with a log
    that is `final`, as long as the replies are such as `rely` says. -/
def Prog.Keeps (rely : Called E R → Prop) (permits : List (Called E R) → E → Prop)
    (final : List (Called E R) → α → Prop) (log : List (Called E R)) : Prog E R α → Prop
  | .ret a => final log a
  | .call e k => permits log e ∧
      ∀ r, rely ⟨e, r⟩ → Keeps rely permits final (log ++ [⟨e, r⟩]) (k r)

theorem keeps_bind {p : Prog E R α} {f : α → Prog E R β} {final : List (Called E R) → β → Prop}
    (h : p.Keeps rely permits (fun log a => (f a).Keeps rely permits final log) log) :
    (p >>= f).Keeps rely permits final log := by
  induction p generalizing log with
  | ret a => exact h
  | call e k ih => exact ⟨h.1, fun r hr => ih r (h.2 r hr)⟩

/-- More may be permitted at the end. -/
theorem keeps_mono {p : Prog E R α} {F F' : List (Called E R) → α → Prop}
    (h : p.Keeps rely permits F log) (himp : ∀ log a, F log a → F' log a) :
    p.Keeps rely permits F' log := by
  induction p generalizing log with
  | ret a => exact himp log a h
  | call e k ih => exact ⟨h.1, fun r hr => ih r (h.2 r hr)⟩

/-- A loop whose turns keep an invariant of the items still to come. -/
theorem keeps_forEach {f : α → Prog E R Unit} {items : List α}
    {I : List α → List (Called E R) → Prop} (h0 : I items log)
    (hturn : ∀ a rest log, I (a :: rest) log →
      (f a).Keeps rely permits (fun log _ => I rest log) log) :
    (Prog.forEach items f).Keeps rely permits (fun log _ => I [] log) log := by
  induction items generalizing log with
  | nil => exact h0
  | cons a rest ih => exact keeps_bind (keeps_mono (hturn a rest log h0) fun _ _ hI => ih hI)

end Keeps

/-! ## 4. Many programs over one state -/

section Pool

variable {O E : Type} {R : E → Type} {σ : Type}

/-- A running program: what it was started for, what it has called so far, what is left. -/
structure Process (O E : Type) (R : E → Type) where
  origin : O
  log : List (Called E R)
  rest : Prog E R Unit

/-- Processes over one state. -/
structure Pool (O E : Type) (R : E → Type) (σ : Type) where
  state : σ
  processes : List (Process O E R)

inductive PoolEvent (O E : Type) (R : E → Type) where
  | started (origin : O)
  | called (origin : O) (log : List (Called E R)) (c : Called E R)
  | ended (origin : O) (log : List (Called E R))
  | crashed (origin : O) (log : List (Called E R))

/-- A process starts, makes its next call, comes to its end, or crashes wherever it stands. -/
inductive PoolStep (program : O → Prog E R Unit) (handle : (e : E) → σ → R e → σ → Prop) :
    Pool O E R σ → PoolEvent O E R → Pool O E R σ → Prop
  | started (origin : O) {s : σ} {ps : List (Process O E R)} :
      PoolStep program handle ⟨s, ps⟩ (.started origin) ⟨s, ⟨origin, [], program origin⟩ :: ps⟩
  | called {origin : O} {log : List (Called E R)} {e : E} {k : R e → Prog E R Unit} {r : R e}
      {s s' : σ} (before after : List (Process O E R)) : handle e s r s' →
      PoolStep program handle ⟨s, before ++ ⟨origin, log, .call e k⟩ :: after⟩
        (.called origin log ⟨e, r⟩) ⟨s', before ++ ⟨origin, log ++ [⟨e, r⟩], k r⟩ :: after⟩
  | ended {origin : O} {log : List (Called E R)} {s : σ} (before after : List (Process O E R)) :
      PoolStep program handle ⟨s, before ++ ⟨origin, log, .ret ()⟩ :: after⟩ (.ended origin log)
        ⟨s, before ++ after⟩
  | crashed {p : Process O E R} {s : σ} (before after : List (Process O E R)) :
      PoolStep program handle ⟨s, before ++ p :: after⟩ (.crashed p.origin p.log)
        ⟨s, before ++ after⟩

variable {program : O → Prog E R Unit} {handle : (e : E) → σ → R e → σ → Prop}
  {rely : Called E R → Prop} {permits : O → List (Called E R) → E → Prop}
  {final : O → List (Called E R) → Prop}

/-- The next call of a process that is alone. -/
theorem poolStep_called {origin : O} {log : List (Called E R)} {p : Prog E R Unit} {e : E}
    {k : R e → Prog E R Unit} {r : R e} {s s' : σ} (h : handle e s r s') (hp : p = .call e k) :
    PoolStep program handle ⟨s, [⟨origin, log, p⟩]⟩ (.called origin log ⟨e, r⟩)
      ⟨s', [⟨origin, log ++ [⟨e, r⟩], k r⟩]⟩ := by
  subst hp
  exact .called [] [] h

/-- What every process of a pool is held to. -/
def Pool.Keeps (rely : Called E R → Prop) (permits : O → List (Called E R) → E → Prop)
    (final : O → List (Called E R) → Prop) (w : Pool O E R σ) : Prop :=
  ∀ p ∈ w.processes, p.rest.Keeps rely (permits p.origin) (fun log _ => final p.origin log) p.log

/-- The replies of an event are such as `rely` says. -/
def PoolEvent.Relies (rely : Called E R → Prop) : PoolEvent O E R → Prop
  | .called _ _ c => rely c
  | _ => True

/-- A program started by an event keeps to its account. -/
def PoolEvent.Starts (program : O → Prog E R Unit) (rely : Called E R → Prop)
    (permits : O → List (Called E R) → E → Prop) (final : O → List (Called E R) → Prop) :
    PoolEvent O E R → Prop
  | .started origin =>
    (program origin).Keeps rely (permits origin) (fun log _ => final origin log) []
  | _ => True

theorem mem_of_mem_without {α : Type} {a b : α} {before after : List α}
    (h : a ∈ before ++ after) : a ∈ before ++ b :: after := by
  rcases List.mem_append.mp h with h | h
  · exact List.mem_append_left _ h
  · exact List.mem_append_right _ (List.mem_cons_of_mem b h)

/-- **One step keeps every process to its account.** -/
theorem pool_keeps_step {w w' : Pool O E R σ} {e : PoolEvent O E R}
    (hI : w.Keeps rely permits final) (h : PoolStep program handle w e w') (hrely : e.Relies rely)
    (hstart : e.Starts program rely permits final) : w'.Keeps rely permits final := by
  cases h with
  | started origin =>
    intro p hp
    rcases List.mem_cons.mp hp with rfl | hp
    · exact hstart
    · exact hI p hp
  | @called origin log e k r s s' before after hcall =>
    intro p hp
    have hself := hI ⟨origin, log, .call e k⟩ (by simp)
    rw [List.mem_append, List.mem_cons] at hp
    rcases hp with hp | rfl | hp
    · exact hI p (by simp [hp])
    · exact hself.2 r hrely
    · exact hI p (by simp [hp])
  | ended before after =>
    intro p hp
    exact hI p (mem_of_mem_without hp)
  | crashed before after =>
    intro p hp
    exact hI p (mem_of_mem_without hp)

/-- **A call that is made is one the caller's log permits.** -/
theorem pool_permitted {w w' : Pool O E R σ} {origin : O} {log : List (Called E R)}
    {c : Called E R} (hI : w.Keeps rely permits final)
    (h : PoolStep program handle w (.called origin log c) w') : permits origin log c.call := by
  cases h with
  | @called _ _ e k r s s' before after hcall =>
    exact (hI ⟨origin, log, .call e k⟩ (by simp)).1

end Pool

end MatriXpost
