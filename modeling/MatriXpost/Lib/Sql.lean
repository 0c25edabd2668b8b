/-
  File:      MatriXpost/Lib/Sql.lean
  Subject:   PROGRAMS OF SQL STATEMENTS THAT CAN FAIL. Nothing here names a program.

  A `Db` is the committed contents of a database together with the faults still to come: every
  statement consumes one entry, and an entry that carries a message replaces the statement by
  that error. A program `Sql ε σ α` answers or stops with an error, like a body written with `?`.

  * `statement` is one auto-committed statement, `transaction` is BEGIN, body, COMMIT: an error
    anywhere in it puts the contents back (`runs_transaction_error`);
  * `Runs x s reply s'` says that under some faults `x` answers `reply` on `s` and leaves `s'`.
    Its rules (`runs_bind_ok`, `runs_statement_ok`, `runs_transaction_ok`, …) take an answered
    program apart, so no proof about an operation looks at faults;
  * `ReadOnly x`: no run of `x` changes the contents;
  * `Clean x s reply s'` is the run without any fault, computed forwards by its simp rules;
  * `Steady x`: whatever `x` replies under faults it replies without them, or it passes on the
    message of one.
-/
import Mathlib.Data.List.Basic

namespace MatriXpost

/-- Committed contents, and the outcome of the statements to come: `some message` fails. -/
structure Db (σ : Type) where
  store : σ
  faults : List (Option String)

/-- The constructor by which an error type carries the driver's message. -/
class DatabaseError (ε : Type) where
  database : String → ε

/-- A program of statements. -/
def Sql (ε σ α : Type) : Type := Db σ → Except ε α × Db σ

namespace Sql

variable {ε σ α β : Type}

/-! ## 1. The programs -/

/-- Answers at once. -/
protected def pure (a : α) : Sql ε σ α := fun db => (.ok a, db)

/-- Sequencing with early return: the second part runs on an answer of the first. -/
protected def bind (x : Sql ε σ α) (f : α → Sql ε σ β) : Sql ε σ β := fun db =>
  match x db with
  | (.ok a, db') => f a db'
  | (.error e, db') => (.error e, db')

instance : Monad (Sql ε σ) where
  pure := Sql.pure
  bind := Sql.bind

instance : LawfulMonad (Sql ε σ) := LawfulMonad.mk'
  (Sql ε σ) (fun x => by
    funext db
    change Sql.bind x Sql.pure db = x db
    unfold Sql.bind
    split
    · rename_i a db' h
      exact h.symm
    · rename_i e db' h
      exact h.symm)
  (fun a f => rfl)
  (fun x f g => by
    funext db
    change Sql.bind (Sql.bind x f) g db = Sql.bind x (fun a => Sql.bind (f a) g) db
    simp only [Sql.bind]
    cases x db with
    | mk reply db' => cases reply <;> rfl)

/-- A computed result with `?`: an error stops the program, the database is not touched. -/
def lift (r : Except ε α) : Sql ε σ α := fun db => (r, db)

/-- `return Err(e)`. -/
def fail (e : ε) : Sql ε σ α := lift (.error e)

/-- `map_err`. -/
def mapErr {ε' : Type} (g : ε → ε') (x : Sql ε σ α) : Sql ε' σ α := fun db =>
  ((x db).1.mapError g, (x db).2)

/-- One statement. The next fault, if there is one, replaces it. -/
def statement [DatabaseError ε] (f : σ → Except ε (α × σ)) : Sql ε σ α := fun db =>
  match db.faults with
  | some message :: rest => (.error (DatabaseError.database message), ⟨db.store, rest⟩)
  | faults =>
    match f db.store with
    | .ok (a, s) => (.ok a, ⟨s, faults.tail⟩)
    | .error e => (.error e, ⟨db.store, faults.tail⟩)

/-- A statement that only reads. -/
def query [DatabaseError ε] (f : σ → α) : Sql ε σ α := statement fun s => .ok (f s, s)

/-- A statement that writes and always succeeds when it runs. -/
def execute [DatabaseError ε] (f : σ → α × σ) : Sql ε σ α := statement fun s => .ok (f s)

/-- BEGIN, body, COMMIT. A transaction dropped on the way is rolled back, and so is one whose
    COMMIT fails. -/
def transaction [DatabaseError ε] (body : Sql ε σ α) : Sql ε σ α := fun db =>
  match statement (fun s => .ok ((), s)) db with
  | (.error e, db') => (.error e, db')
  | (.ok _, begun) =>
    match body begun with
    | (.error e, db') => (.error e, ⟨db.store, db'.faults⟩)
    | (.ok a, done) =>
      match statement (fun s => .ok ((), s)) done with
      | (.error e, db') => (.error e, ⟨db.store, db'.faults⟩)
      | (.ok _, db') => (.ok a, db')

/-- On an error the cleanup runs, and what it answers is ignored. -/
def onError (x : Sql ε σ α) (cleanup : Sql ε σ Unit) : Sql ε σ α := fun db =>
  match x db with
  | (.ok a, db') => (.ok a, db')
  | (.error e, db') => (.error e, (cleanup db').2)

/-! ## 2. What an answered program did -/

/-- Under some faults `x` answers `reply` on the contents `s` and leaves `s'`. -/
def Runs (x : Sql ε σ α) (s : σ) (reply : Except ε α) (s' : σ) : Prop :=
  ∃ faults faults', x ⟨s, faults⟩ = (reply, ⟨s', faults'⟩)

theorem runs_pure {a : α} {s s' : σ} {reply : Except ε α} :
    Runs (pure a : Sql ε σ α) s reply s' ↔ reply = .ok a ∧ s' = s := by
  constructor
  · intro h
    obtain ⟨faults, faults', h⟩ := h
    cases h
    exact ⟨rfl, rfl⟩
  · intro h
    obtain ⟨rfl, rfl⟩ := h
    exact ⟨[], [], rfl⟩

theorem runs_lift {r reply : Except ε α} {s s' : σ} :
    Runs (lift r : Sql ε σ α) s reply s' ↔ reply = r ∧ s' = s := by
  constructor
  · intro h
    obtain ⟨faults, faults', h⟩ := h
    cases h
    exact ⟨rfl, rfl⟩
  · intro h
    obtain ⟨rfl, rfl⟩ := h
    exact ⟨[], [], rfl⟩

theorem runs_fail {e : ε} {reply : Except ε α} {s s' : σ} :
    Runs (fail e : Sql ε σ α) s reply s' ↔ reply = .error e ∧ s' = s := runs_lift

/-- An answer of a sequence is an answer of its second part after one of its first. -/
theorem runs_bind_ok {x : Sql ε σ α} {f : α → Sql ε σ β} {s s' : σ} {b : β}
    (h : Runs (x >>= f) s (.ok b) s') :
    ∃ a s₁, Runs x s (.ok a) s₁ ∧ Runs (f a) s₁ (.ok b) s' := by
  obtain ⟨faults, faults', h⟩ := h
  change Sql.bind x f ⟨s, faults⟩ = _ at h
  unfold Sql.bind at h
  split at h
  · rename_i a db₁ hx
    exact ⟨a, db₁.store, ⟨faults, db₁.faults, hx⟩, ⟨db₁.faults, faults', h⟩⟩
  · cases h

/-- An error of a sequence is one of its first part, or of its second after an answer. -/
theorem runs_bind_error {x : Sql ε σ α} {f : α → Sql ε σ β} {s s' : σ} {e : ε}
    (h : Runs (x >>= f) s (.error e) s') :
    Runs x s (.error e) s' ∨ ∃ a s₁, Runs x s (.ok a) s₁ ∧ Runs (f a) s₁ (.error e) s' := by
  obtain ⟨faults, faults', h⟩ := h
  change Sql.bind x f ⟨s, faults⟩ = _ at h
  unfold Sql.bind at h
  split at h
  · rename_i a db₁ hx
    exact .inr ⟨a, db₁.store, ⟨faults, db₁.faults, hx⟩, ⟨db₁.faults, faults', h⟩⟩
  · rename_i e' db₁ hx
    cases h
    exact .inl ⟨faults, faults', hx⟩

theorem runs_mapErr_ok {ε' : Type} {g : ε → ε'} {x : Sql ε σ α} {s s' : σ} {a : α} :
    Runs (x.mapErr g) s (.ok a) s' ↔ Runs x s (.ok a) s' := by
  constructor
  · intro h
    obtain ⟨faults, faults', h⟩ := h
    refine ⟨faults, faults', ?_⟩
    unfold mapErr at h
    cases hx : x ⟨s, faults⟩ with
    | mk reply db' =>
      rw [hx] at h
      cases reply with
      | ok a' =>
        cases h
        rfl
      | error e => cases h
  · intro h
    obtain ⟨faults, faults', h⟩ := h
    refine ⟨faults, faults', ?_⟩
    unfold mapErr
    rw [h]
    rfl

theorem runs_mapErr_error {ε' : Type} {g : ε → ε'} {x : Sql ε σ α} {s s' : σ} {e : ε'}
    (h : Runs (x.mapErr g) s (.error e) s') : ∃ e₀, Runs x s (.error e₀) s' := by
  obtain ⟨faults, faults', h⟩ := h
  unfold mapErr at h
  cases hx : x ⟨s, faults⟩ with
  | mk reply db' =>
    rw [hx] at h
    cases reply with
    | ok a => cases h
    | error e₀ =>
      cases h
      exact ⟨e₀, faults, faults', hx⟩

theorem runs_onError_ok {x : Sql ε σ α} {cleanup : Sql ε σ Unit} {s s' : σ} {a : α}
    (h : Runs (onError x cleanup) s (.ok a) s') : Runs x s (.ok a) s' := by
  obtain ⟨faults, faults', h⟩ := h
  unfold onError at h
  split at h
  · rename_i b db' hx
    cases h
    exact ⟨faults, faults', hx⟩
  · cases h

theorem runs_onError_error {x : Sql ε σ α} {cleanup : Sql ε σ Unit} {s s' : σ} {e : ε}
    (h : Runs (onError x cleanup) s (.error e) s') :
    ∃ s₁ r, Runs x s (.error e) s₁ ∧ Runs cleanup s₁ r s' := by
  obtain ⟨faults, faults', h⟩ := h
  unfold onError at h
  split at h
  · cases h
  · rename_i e' db' hx
    obtain ⟨he, hcleanup⟩ := Prod.mk.inj h
    cases he
    exact ⟨db'.store, (cleanup db').1, ⟨faults, db'.faults, hx⟩, db'.faults, faults',
      Prod.ext rfl hcleanup⟩

section Statements
variable [DatabaseError ε]

theorem runs_statement_ok {f : σ → Except ε (α × σ)} {s s' : σ} {a : α} :
    Runs (statement f) s (.ok a) s' ↔ f s = .ok (a, s') := by
  constructor
  · intro h
    obtain ⟨faults, faults', h⟩ := h
    unfold statement at h
    split at h
    · cases h
    · simp only at h
      split at h
      · rename_i a₁ s₁ hf
        cases h
        exact hf
      · cases h
  · intro h
    refine ⟨[], [], ?_⟩
    simp [statement, h]

theorem runs_query_ok {f : σ → α} {s s' : σ} {a : α} :
    Runs (query f : Sql ε σ α) s (.ok a) s' ↔ a = f s ∧ s' = s := by
  rw [query, runs_statement_ok]
  constructor
  · intro h
    cases h
    exact ⟨rfl, rfl⟩
  · intro h
    obtain ⟨rfl, rfl⟩ := h
    rfl

theorem runs_execute_ok {f : σ → α × σ} {s s' : σ} {a : α} :
    Runs (execute f : Sql ε σ α) s (.ok a) s' ↔ f s = (a, s') := by
  rw [execute, runs_statement_ok]
  exact ⟨fun h => Except.ok.inj h, fun h => by rw [h]⟩

/-- What a statement answers on two contents, when it would answer the same on both. -/
theorem mapErr_execute_reply {ε' : Type} {g : ε → ε'} {f : σ → α × σ} {s₁ s₂ : σ}
    (h : (f s₁).1 = (f s₂).1) (k : α → β) (faults : List (Option String)) :
    (((execute f : Sql ε σ α).mapErr g >>= fun a => pure (k a)) ⟨s₁, faults⟩).1 =
      (((execute f : Sql ε σ α).mapErr g >>= fun a => pure (k a)) ⟨s₂, faults⟩).1 := by
  have hanswers : ∀ s, (f s).1 = (f s₁).1 → ∀ rest : List (Option String),
      (Sql.pure (k (f s).1) ⟨(f s).2, rest⟩ : Except ε' β × Db σ).1 = .ok (k (f s₁).1) := by
    intro s hs rest
    rw [hs]
    rfl
  cases faults with
  | nil => exact (hanswers s₁ rfl []).trans (hanswers s₂ h.symm []).symm
  | cons fault rest =>
    cases fault with
    | none => exact (hanswers s₁ rfl rest).trans (hanswers s₂ h.symm rest).symm
    | some message => rfl

/-- A statement that fails changes nothing. -/
theorem runs_statement_error {f : σ → Except ε (α × σ)} {s s' : σ} {e : ε}
    (h : Runs (statement f) s (.error e) s') : s' = s := by
  obtain ⟨faults, faults', h⟩ := h
  unfold statement at h
  split at h
  · cases h
    rfl
  · simp only at h
    split at h
    · cases h
    · cases h
      rfl

/-- What a committed transaction did is what its body did. -/
theorem runs_transaction_ok {body : Sql ε σ α} {s s' : σ} {a : α}
    (h : Runs (transaction body) s (.ok a) s') : Runs body s (.ok a) s' := by
  obtain ⟨faults, faults', h⟩ := h
  unfold transaction at h
  split at h
  · cases h
  rename_i u begun hbegin
  have hs : begun.store = s := by
    have := runs_statement_ok.mp ⟨faults, begun.faults, hbegin⟩
    cases this
    rfl
  split at h
  · cases h
  rename_i a₁ done hbody
  split at h
  · cases h
  rename_i u' db' hcommit
  cases h
  have hs' : done.store = s' := by
    have := runs_statement_ok.mp ⟨done.faults, faults', hcommit⟩
    cases this
    rfl
  refine ⟨begun.faults, done.faults, ?_⟩
  rw [← hs, ← hs']
  exact hbody

/-- **A transaction that fails, at whichever statement, leaves the contents as they were.** -/
theorem runs_transaction_error {body : Sql ε σ α} {s s' : σ} {e : ε}
    (h : Runs (transaction body) s (.error e) s') : s' = s := by
  obtain ⟨faults, faults', h⟩ := h
  unfold transaction at h
  split at h
  · rename_i e₁ db' hbegin
    cases h
    exact runs_statement_error ⟨faults, faults', hbegin⟩
  split at h
  · cases h
    rfl
  split at h
  · cases h
    rfl
  · cases h

end Statements

/-! ## 3. Programs that only read -/

/-- Whatever it answers, and under whatever faults, the program leaves the contents alone. -/
def ReadOnly (x : Sql ε σ α) : Prop := ∀ s reply s', Runs x s reply s' → s' = s

theorem readOnly_pure (a : α) : ReadOnly (pure a : Sql ε σ α) := fun _ _ _ h => (runs_pure.mp h).2

theorem readOnly_lift (r : Except ε α) : ReadOnly (lift r : Sql ε σ α) :=
  fun _ _ _ h => (runs_lift.mp h).2

theorem readOnly_fail (e : ε) : ReadOnly (fail e : Sql ε σ α) := readOnly_lift (.error e)

theorem readOnly_query [DatabaseError ε] (f : σ → α) : ReadOnly (query f : Sql ε σ α) := by
  intro s reply s' h
  cases reply with
  | ok a => exact (runs_query_ok.mp h).2
  | error e => exact runs_statement_error h

/-- Reading and then reading is reading. -/
theorem ReadOnly.bind {x : Sql ε σ α} {f : α → Sql ε σ β} (hx : ReadOnly x)
    (hf : ∀ a, ReadOnly (f a)) : ReadOnly (x >>= f) := by
  intro s reply s' h
  cases reply with
  | ok b =>
    obtain ⟨a, s₁, hxa, hfa⟩ := runs_bind_ok h
    rw [hf a _ _ _ hfa, hx _ _ _ hxa]
  | error e =>
    rcases runs_bind_error h with hxe | ⟨a, s₁, hxa, hfa⟩
    · exact hx _ _ _ hxe
    · rw [hf a _ _ _ hfa, hx _ _ _ hxa]

/-! ## 4. The run without faults -/

/-- Without any fault, `x` answers `reply` on `s` and leaves `s'`. -/
def Clean (x : Sql ε σ α) (s : σ) (reply : Except ε α) (s' : σ) : Prop :=
  x ⟨s, []⟩ = (reply, ⟨s', []⟩)

theorem Clean.runs {x : Sql ε σ α} {s s' : σ} {reply : Except ε α} (h : Clean x s reply s') :
    Runs x s reply s' := ⟨[], [], h⟩

/-- Without faults a program has one run. -/
theorem Clean.unique {x : Sql ε σ α} {s s₁ s₂ : σ} {reply₁ reply₂ : Except ε α}
    (h₁ : Clean x s reply₁ s₁) (h₂ : Clean x s reply₂ s₂) : reply₁ = reply₂ ∧ s₁ = s₂ := by
  have he : (reply₁, (⟨s₁, []⟩ : Db σ)) = (reply₂, ⟨s₂, []⟩) := h₁.symm.trans h₂
  cases he
  exact ⟨rfl, rfl⟩

/-- A program evaluated without faults is a run of it. -/
theorem runs_of_reply {x : Sql ε σ α} {s : σ} {reply : Except ε α} (h : (x ⟨s, []⟩).1 = reply) :
    Runs x s reply (x ⟨s, []⟩).2.store := ⟨[], (x ⟨s, []⟩).2.faults, by rw [← h]⟩

theorem clean_pure (a : α) (s : σ) : Clean (pure a : Sql ε σ α) s (.ok a) s := rfl

theorem clean_lift (r : Except ε α) (s : σ) : Clean (lift r : Sql ε σ α) s r s := rfl

theorem Clean.bind {x : Sql ε σ α} {f : α → Sql ε σ β} {s m s' : σ} {a : α}
    {reply : Except ε β} (hx : Clean x s (.ok a) m) (hf : Clean (f a) m reply s') :
    Clean (x >>= f) s reply s' := by
  unfold Clean at hx hf ⊢
  change Sql.bind x f ⟨s, []⟩ = _
  simp only [Sql.bind, hx, hf]

/-- An error of the first part ends the sequence. -/
theorem clean_bind_error {x : Sql ε σ α} {f : α → Sql ε σ β} {s s' : σ} {e : ε}
    (hx : Clean x s (.error e) s') : Clean (x >>= f) s (.error e) s' := by
  unfold Clean at hx ⊢
  change Sql.bind x f ⟨s, []⟩ = _
  simp only [Sql.bind, hx]

/-- A part that leaves the contents alone, and then the rest: their answers in sequence. -/
theorem clean_bind_answers {x : Sql ε σ α} {f : α → Sql ε σ β} {s : σ} {r : Except ε α}
    {g : α → Except ε β} (hx : Clean x s r s) (hf : ∀ a, r = .ok a → Clean (f a) s (g a) s) :
    Clean (x >>= f) s (r >>= g) s := by
  cases r with
  | ok a => exact hx.bind (hf a rfl)
  | error e => exact clean_bind_error hx

theorem clean_onError_ok {x : Sql ε σ α} {cleanup : Sql ε σ Unit} {s s' : σ} {a : α}
    (hx : Clean x s (.ok a) s') : Clean (onError x cleanup) s (.ok a) s' := by
  unfold Clean at hx ⊢
  simp only [onError, hx]

theorem clean_onError_error {x : Sql ε σ α} {cleanup : Sql ε σ Unit} {s m s' : σ} {e : ε}
    {r : Except ε Unit} (hx : Clean x s (.error e) m) (hcleanup : Clean cleanup m r s') :
    Clean (onError x cleanup) s (.error e) s' := by
  unfold Clean at hx hcleanup ⊢
  simp only [onError, hx, hcleanup]

section Statements
variable [DatabaseError ε]

theorem clean_statement {f : σ → Except ε (α × σ)} {s s' : σ} {a : α} (h : f s = .ok (a, s')) :
    Clean (statement f) s (.ok a) s' := by
  simp [Clean, statement, h]

/-- A statement that fails without a fault. -/
theorem clean_statement_error {f : σ → Except ε (α × σ)} {s : σ} {e : ε} (h : f s = .error e) :
    Clean (statement f) s (.error e) s := by
  simp [Clean, statement, h]

theorem clean_query (f : σ → α) (s : σ) : Clean (query f : Sql ε σ α) s (.ok (f s)) s :=
  clean_statement rfl

theorem clean_execute (f : σ → α × σ) (s : σ) :
    Clean (execute f : Sql ε σ α) s (.ok (f s).1) (f s).2 :=
  clean_statement rfl

theorem clean_execute_of {f : σ → α × σ} {s s' : σ} {a : α} (h : f s = (a, s')) :
    Clean (execute f : Sql ε σ α) s (.ok a) s' := by
  have hrun := clean_execute (ε := ε) f s
  rwa [h] at hrun

/-- A transaction whose body fails is rolled back. -/
theorem clean_transaction_error {body : Sql ε σ α} {s m : σ} {e : ε}
    (h : Clean body s (.error e) m) : Clean (Sql.transaction body) s (.error e) s := by
  unfold Clean at h ⊢
  simp [Sql.transaction, statement, h]

/-- Without faults a transaction answers what its body answers, and keeps what it wrote. -/
theorem Clean.transaction {body : Sql ε σ α} {s s' : σ} {a : α} (h : Clean body s (.ok a) s') :
    Clean (Sql.transaction body) s (.ok a) s' := by
  unfold Clean at h ⊢
  simp [Sql.transaction, statement, h]

end Statements

/-! ## 5. Replies that do not depend on faults -/

section Steady
variable [DatabaseError ε]

/-- A reply under some faults is the reply without any, or the message of a fault. -/
def Steady (x : Sql ε σ α) : Prop := ∀ s reply s', Runs x s reply s' →
  Clean x s reply s' ∨ ∃ message, reply = .error (DatabaseError.database message)

theorem steady_pure (a : α) : Steady (pure a : Sql ε σ α) := by
  intro s reply s' h
  obtain ⟨rfl, rfl⟩ := runs_pure.mp h
  exact .inl (clean_pure a s')

theorem steady_lift (r : Except ε α) : Steady (lift r : Sql ε σ α) := by
  intro s reply s' h
  obtain ⟨rfl, rfl⟩ := runs_lift.mp h
  exact .inl (clean_lift reply s')

theorem steady_fail (e : ε) : Steady (fail e : Sql ε σ α) := steady_lift (.error e)

/-- **An answer of a steady program is its answer without faults.** -/
theorem Steady.ok {x : Sql ε σ α} (h : Steady x) {s s' : σ} {a : α}
    (hrun : Runs x s (.ok a) s') : Clean x s (.ok a) s' := by
  rcases h s _ s' hrun with hclean | ⟨message, he⟩
  · exact hclean
  · cases he

theorem Steady.bind {x : Sql ε σ α} {f : α → Sql ε σ β} (hx : Steady x)
    (hf : ∀ a, Steady (f a)) : Steady (x >>= f) := by
  intro s reply s' h
  cases reply with
  | ok b =>
    obtain ⟨a, m, hfirst, hrest⟩ := runs_bind_ok h
    exact .inl ((hx.ok hfirst).bind ((hf a).ok hrest))
  | error e =>
    rcases runs_bind_error h with hfirst | ⟨a, m, hfirst, hrest⟩
    · rcases hx s _ s' hfirst with hclean | ⟨message, he⟩
      · exact .inl (clean_bind_error hclean)
      · cases he
        exact .inr ⟨message, rfl⟩
    · exact (hf a m _ s' hrest).imp_left (hx.ok hfirst).bind

theorem steady_statement (f : σ → Except ε (α × σ)) : Steady (statement f) := by
  intro s reply s' h
  cases reply with
  | ok a => exact .inl (clean_statement (runs_statement_ok.mp h))
  | error e =>
    obtain rfl := runs_statement_error h
    obtain ⟨faults, faults', h⟩ := h
    unfold statement at h
    split at h
    · rename_i message rest hfault
      cases h
      exact .inr ⟨message, rfl⟩
    · simp only at h
      split at h
      · cases h
      · rename_i e' hf
        cases h
        exact .inl (clean_statement_error hf)

theorem steady_query (f : σ → α) : Steady (query f : Sql ε σ α) := steady_statement _

theorem steady_execute (f : σ → α × σ) : Steady (execute f : Sql ε σ α) := steady_statement _

/-- A transaction fails in its body, or by the message of a fault. -/
theorem runs_transaction_error_cases {body : Sql ε σ α} {s s' : σ} {e : ε}
    (h : Runs (Sql.transaction body) s (.error e) s') :
    (∃ m, Runs body s (.error e) m) ∨ ∃ message, e = DatabaseError.database message := by
  have hmark : ∀ {s s' : σ} {e : ε},
      Runs (statement fun s => .ok ((), s) : Sql ε σ Unit) s (.error e) s' →
        ∃ message, e = DatabaseError.database message := by
    intro s s' e h
    rcases steady_statement _ s _ s' h with hclean | ⟨message, he⟩
    · cases hclean
    · exact ⟨message, Except.error.inj he⟩
  obtain ⟨faults, faults', h⟩ := h
  unfold Sql.transaction at h
  split at h
  · rename_i e' db' hbegin
    cases h
    exact .inr (hmark ⟨faults, faults', hbegin⟩)
  rename_i u begun hbegin
  have hs : begun.store = s := by
    have hran := runs_statement_ok.mp ⟨faults, begun.faults, hbegin⟩
    cases hran
    rfl
  split at h
  · rename_i e' db' hbody
    cases h
    exact .inl ⟨db'.store, begun.faults, db'.faults, hs ▸ hbody⟩
  split at h
  · rename_i e' db' hcommit
    cases h
    exact .inr (hmark ⟨_, db'.faults, hcommit⟩)
  · cases h

theorem Steady.transaction {body : Sql ε σ α} (h : Steady body) :
    Steady (Sql.transaction body) := by
  intro s reply s' hrun
  cases reply with
  | ok a => exact .inl (h.ok (runs_transaction_ok hrun)).transaction
  | error e =>
    obtain rfl := runs_transaction_error hrun
    rcases runs_transaction_error_cases hrun with ⟨m, hbody⟩ | ⟨message, he⟩
    · rcases h s' _ m hbody with hclean | ⟨message, he⟩
      · exact .inl (clean_transaction_error hclean)
      · exact .inr ⟨message, he⟩
    · exact .inr ⟨message, congrArg Except.error he⟩

end Steady

end Sql

end MatriXpost
