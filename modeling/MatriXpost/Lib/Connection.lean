/-
  File:      MatriXpost/Lib/Connection.lean
  Subject:   A CONNECTION TO A DATABASE FILE, BEGIN AND COMMIT AS STATEMENTS. Nothing here names
             a program.

  `Lib.Sql` has a transaction as one bracket. Here a program sends BEGIN, COMMIT and ROLLBACK
  itself, in batches that may end in the middle of a transaction: a `Connection` is the file and,
  while a transaction is open, the contents the transaction has made of it. Only COMMIT writes
  the file, or a statement outside of any transaction.

  `Does x c outcome ends fails`: under any faults the program either does what `outcome` says and
  ends in `ends`, or answers an error on a connection that `fails` admits; without faults
  `outcome` decides which. `Does.bind` composes such facts, and every statement has its rule
  (`does_begin`, `does_apply`, `does_commit`, `does_query`, `Does.rescue`).

  * `does_transaction`: BEGIN, statements, COMMIT in one batch change the file in full or not at
    all;
  * `Does.rolledBack`: without faults an error under `onError` with ROLLBACK leaves the connection
    as it was before BEGIN.
-/
import MatriXpost.Lib.Sql

namespace MatriXpost

/-! ## 1. Connections and statements -/

/-- The committed contents, and those of the open transaction, if there is one. -/
structure Connection (σ : Type) where
  file : σ
  working : Option σ

/-- What a program sends: the bounds of a transaction, or a statement of the database. -/
inductive Statement (δ : Type) where
  | beginTransaction
  | commit
  | rollback
  | apply (d : δ)

namespace Connection

variable {σ δ ε α β : Type}

/-- No transaction is open. -/
def closed (s : σ) : Connection σ := ⟨s, none⟩

/-- In a transaction on the file. -/
def inside (file s : σ) : Connection σ := ⟨file, some s⟩

/-- What a query sees. -/
def visible (c : Connection σ) : σ := c.working.getD c.file

/-- One statement, with the errors SQLite gives. -/
def step (run : δ → σ → Except String σ) (s : Statement δ) (c : Connection σ) :
    Except String (Connection σ) :=
  match s, c.working with
  | .beginTransaction, none => .ok (inside c.file c.file)
  | .beginTransaction, some _ => .error "cannot start a transaction within a transaction"
  | .commit, some m => .ok (closed m)
  | .commit, none => .error "cannot commit - no transaction is active"
  | .rollback, some _ => .ok (closed c.file)
  | .rollback, none => .error "cannot rollback - no transaction is active"
  | .apply d, some m => (run d m).map (inside c.file)
  | .apply d, none => (run d c.file).map closed

/-- Statements of the database, one after the other. -/
def applyAll (run : δ → σ → Except String σ) (ds : List δ) (s : σ) : Except String σ :=
  ds.foldlM (fun s d => run d s) s

/-- BEGIN; the statements; COMMIT. -/
def transaction (ds : List δ) : List (Statement δ) :=
  .beginTransaction :: (ds.map .apply ++ [.commit])

variable [DatabaseError ε]

/-- An error of the driver. -/
def database (r : Except String α) : Except ε α := r.mapError DatabaseError.database

/-- `connection.execute`. -/
def execute (run : δ → σ → Except String σ) (s : Statement δ) : Sql ε (Connection σ) Unit :=
  Sql.statement fun c => (database (step run s c)).map fun c' => ((), c')

/-- `connection.execute_batch`: the first statement that fails ends it, and what the statements
    before it did stays. -/
def executeBatch (run : δ → σ → Except String σ) : List (Statement δ) → Sql ε (Connection σ) Unit
  | [] => pure ()
  | s :: rest => do
    execute run s
    executeBatch run rest

/-- A query. -/
def query (read : σ → Except ε α) : Sql ε (Connection σ) α :=
  Sql.statement fun c => (read c.visible).map fun a => (a, c)

/-! ## 2. What a program does -/

omit [DatabaseError ε] in
/-- **What a program does from a connection**: see the head of the file. -/
structure Does (x : Sql ε (Connection σ) Unit) (c : Connection σ) (outcome : Except ε σ)
    (ends : σ → Connection σ) (fails : Connection σ → Prop) : Prop where
  runs : ∀ {reply c'}, Sql.Runs x c reply c' →
    (∃ s', outcome = .ok s' ∧ reply = .ok () ∧ c' = ends s') ∨
      ∃ e, reply = .error e ∧ fails c'
  clean : (∃ s', outcome = .ok s' ∧ Sql.Clean x c (.ok ()) (ends s')) ∨
    ∃ e c', outcome = .error e ∧ Sql.Clean x c (.error e) c' ∧ fails c'

section Rules
variable {x y : Sql ε (Connection σ) Unit} {c : Connection σ} {outcome : Except ε σ}
variable {between ends : σ → Connection σ} {fails fails' : Connection σ → Prop}
variable {run : δ → σ → Except String σ} {file s m : σ}

/-- The connections on which a transaction on this file is open. -/
def Open (file : σ) (c : Connection σ) : Prop := ∃ s, c = inside file s

omit [DatabaseError ε] in
theorem Does.clean_ok (h : Does x c (.ok m) ends fails) : Sql.Clean x c (.ok ()) (ends m) := by
  obtain ⟨s', he, hclean⟩ | ⟨e, c', he, -⟩ := h.clean
  · cases he
    exact hclean
  · cases he

omit [DatabaseError ε] in
/-- An answer is what the outcome says. -/
theorem Does.of_ok (h : Does x c outcome ends fails) {c' : Connection σ}
    (hx : Sql.Runs x c (.ok ()) c') : ∃ s', outcome = .ok s' ∧ c' = ends s' := by
  obtain ⟨s', hs, -, hc⟩ | ⟨e, he, -⟩ := h.runs hx
  · exact ⟨s', hs, hc⟩
  · cases he

omit [DatabaseError ε] in
theorem Does.weaken (h : Does x c outcome ends fails) (hfails : ∀ c', fails c' → fails' c') :
    Does x c outcome ends fails' where
  runs := by
    intro reply c' hx
    obtain ⟨s', hs⟩ | ⟨e, he, hc⟩ := h.runs hx
    · exact .inl ⟨s', hs⟩
    · exact .inr ⟨e, he, hfails c' hc⟩
  clean := by
    obtain ⟨s', hs⟩ | ⟨e, c', he, hx, hc⟩ := h.clean
    · exact .inl ⟨s', hs⟩
    · exact .inr ⟨e, c', he, hx, hfails c' hc⟩

omit [DatabaseError ε] in
theorem does_pure {next : σ → Connection σ} (s : σ) :
    Does (pure () : Sql ε (Connection σ) Unit) (next s) (.ok s) next fails where
  runs := by
    intro reply c' hx
    obtain ⟨rfl, rfl⟩ := Sql.runs_pure.mp hx
    exact .inl ⟨s, rfl, rfl, rfl⟩
  clean := .inl ⟨s, rfl, Sql.clean_pure () (next s)⟩

omit [DatabaseError ε] in
/-- **Two parts, one after the other.** -/
theorem Does.bind {next : σ → Except ε σ} (hx : Does x c outcome between fails)
    (hy : ∀ m, outcome = .ok m → Does y (between m) (next m) ends fails) :
    Does (x >>= fun _ => y) c (outcome >>= next) ends fails where
  runs := by
    intro reply c' hrun
    cases reply with
    | ok u =>
      obtain ⟨_, c₁, hfirst, hsecond⟩ := Sql.runs_bind_ok hrun
      obtain ⟨m, rfl, rfl⟩ := hx.of_ok hfirst
      obtain ⟨s', hs, rfl⟩ := (hy m rfl).of_ok hsecond
      exact .inl ⟨s', hs, rfl, rfl⟩
    | error e =>
      refine .inr ⟨e, rfl, ?_⟩
      obtain hfirst | ⟨_, c₁, hfirst, hsecond⟩ := Sql.runs_bind_error hrun
      · obtain ⟨s', -, he, -⟩ | ⟨e', -, hc⟩ := hx.runs hfirst
        · cases he
        · exact hc
      · obtain ⟨m, rfl, rfl⟩ := hx.of_ok hfirst
        obtain ⟨s', -, he, -⟩ | ⟨e', -, hc⟩ := (hy m rfl).runs hsecond
        · cases he
        · exact hc
  clean := by
    obtain ⟨m, rfl, hfirst⟩ | ⟨e, c', rfl, hfirst, hc⟩ := hx.clean
    · obtain ⟨s', hs, hsecond⟩ | ⟨e, c', he, hsecond, hc⟩ := (hy m rfl).clean
      · exact .inl ⟨s', hs, hfirst.bind hsecond⟩
      · exact .inr ⟨e, c', he, hfirst.bind hsecond, hc⟩
    · exact .inr ⟨e, c', rfl, Sql.clean_bind_error hfirst, hc⟩

omit [DatabaseError ε] in
/-- The same, after a part whose outcome is known. -/
theorem Does.first (hx : Does x c (.ok m) between fails)
    (hy : Does y (between m) outcome ends fails) :
    Does (x >>= fun _ => y) c outcome ends fails := by
  have hrest : ∀ m', (.ok m : Except ε σ) = .ok m' →
      Does y (between m') ((fun _ => outcome) m') ends fails := by
    intro m' hm
    cases hm
    exact hy
  exact hx.bind hrest

omit [DatabaseError ε] in
/-- A result that needs no statement. -/
theorem does_lift {r : Except ε α} {f : α → Sql ε (Connection σ) Unit} {next : α → Except ε σ}
    (hf : ∀ a, r = .ok a → Does (f a) c (next a) ends fails) (hc : fails c) :
    Does (Sql.lift r >>= f) c (r >>= next) ends fails := by
  cases r with
  | ok a => exact hf a rfl
  | error e =>
    have hlift : (Sql.lift (.error e) >>= f) = Sql.lift (.error e) := rfl
    rw [hlift]
    refine ⟨fun hrun => ?_, .inr ⟨e, c, rfl, Sql.clean_lift _ c, hc⟩⟩
    obtain ⟨rfl, rfl⟩ := Sql.runs_lift.mp hrun
    exact .inr ⟨e, rfl, hc⟩

/-- A statement. -/
theorem does_execute {st : Statement δ}
    (hstep : (database (step run st c) : Except ε (Connection σ)) = outcome.map ends)
    (hc : fails c) : Does (execute run st) c outcome ends fails where
  runs := by
    intro reply c' hrun
    cases reply with
    | ok u =>
      have h := Sql.runs_statement_ok.mp hrun
      rw [hstep] at h
      cases outcome with
      | ok s' =>
        cases h
        exact .inl ⟨s', rfl, rfl, rfl⟩
      | error e => cases h
    | error e =>
      obtain rfl := Sql.runs_statement_error hrun
      exact .inr ⟨e, rfl, hc⟩
  clean := by
    cases outcome with
    | ok s' =>
      refine .inl ⟨s', rfl, Sql.clean_statement ?_⟩
      rw [hstep]
      rfl
    | error e =>
      refine .inr ⟨e, c, rfl, Sql.clean_statement_error ?_, hc⟩
      rw [hstep]
      rfl

theorem does_begin (hc : fails (closed s)) :
    Does (execute run .beginTransaction : Sql ε (Connection σ) Unit) (closed s) (.ok s) (inside s)
      fails := does_execute rfl hc

theorem does_commit :
    Does (execute run .commit : Sql ε (Connection σ) Unit) (inside file s) (.ok s) closed
      (Open file) := does_execute rfl ⟨s, rfl⟩

theorem does_apply (d : δ) :
    Does (execute run (.apply d) : Sql ε (Connection σ) Unit) (inside file s)
      (database (run d s)) (inside file) (Open file) := by
  refine does_execute ?_ ⟨s, rfl⟩
  show database ((run d s).map (inside file)) = _
  cases run d s <;> rfl

theorem clean_query {read : σ → Except ε α} {r : Except ε α} (h : read c.visible = r) :
    Sql.Clean (query read) c r c := by
  cases r with
  | ok a => exact Sql.clean_statement (by rw [h]; rfl)
  | error e => exact Sql.clean_statement_error (by rw [h]; rfl)

/-- A query, and what is done with its answer. -/
theorem does_query {read : σ → Except ε α} {f : α → Sql ε (Connection σ) Unit}
    {next : α → Except ε σ}
    (hf : ∀ a, read c.visible = .ok a → Does (f a) c (next a) ends fails) (hc : fails c) :
    Does (query read >>= f) c (read c.visible >>= next) ends fails where
  runs := by
    intro reply c' hrun
    have hread : ∀ {a c₁}, Sql.Runs (query read) c (.ok a) c₁ →
        read c.visible = .ok a ∧ c₁ = c := by
      intro a c₁ h
      have h := Sql.runs_statement_ok.mp h
      cases hr : read c.visible with
      | ok b =>
        rw [hr] at h
        cases h
        exact ⟨rfl, rfl⟩
      | error e =>
        rw [hr] at h
        cases h
    cases reply with
    | ok u =>
      obtain ⟨a, c₁, hfirst, hsecond⟩ := Sql.runs_bind_ok hrun
      obtain ⟨ha, rfl⟩ := hread hfirst
      rw [ha]
      exact (hf a ha).runs hsecond
    | error e =>
      obtain hfirst | ⟨a, c₁, hfirst, hsecond⟩ := Sql.runs_bind_error hrun
      · obtain rfl := Sql.runs_statement_error hfirst
        exact .inr ⟨e, rfl, hc⟩
      · obtain ⟨ha, rfl⟩ := hread hfirst
        rw [ha]
        exact (hf a ha).runs hsecond
  clean := by
    cases hr : read c.visible with
    | ok a =>
      have hfirst := clean_query hr
      obtain ⟨s', hs, hsecond⟩ | ⟨e, c', he, hsecond, hc'⟩ := (hf a hr).clean
      · exact .inl ⟨s', hs, hfirst.bind hsecond⟩
      · exact .inr ⟨e, c', he, hfirst.bind hsecond, hc'⟩
    | error e =>
      exact .inr ⟨e, c, rfl, Sql.clean_bind_error (clean_query hr), hc⟩

/-! ## 3. Batches -/

theorem executeBatch_single (st : Statement δ) :
    (executeBatch run [st] : Sql ε (Connection σ) Unit) = execute run st := bind_pure_unit

theorem executeBatch_append (first second : List (Statement δ)) :
    (executeBatch run (first ++ second) : Sql ε (Connection σ) Unit) =
      executeBatch run first >>= fun _ => executeBatch run second := by
  induction first with
  | nil => rfl
  | cons st rest ih =>
    show (execute run st >>= fun _ => executeBatch run (rest ++ second)) =
      (execute run st >>= fun _ => executeBatch run rest) >>= fun _ => executeBatch run second
    rw [ih, bind_assoc]

/-- **Statements in a transaction** do to its contents what they do one after the other. -/
theorem does_applyAll (ds : List δ) :
    Does (executeBatch run (ds.map .apply) : Sql ε (Connection σ) Unit) (inside file s)
      (database (applyAll run ds s)) (inside file) (Open file) := by
  induction ds generalizing s with
  | nil => exact does_pure s
  | cons d rest ih =>
    have hstep : (database (applyAll run (d :: rest) s) : Except ε σ) =
        database (run d s) >>= fun m => database (applyAll run rest m) := by
      show database (run d s >>= applyAll run rest) = _
      cases run d s <;> rfl
    rw [hstep]
    exact (does_apply d).bind fun m _ => ih

/-- Statements and COMMIT. -/
theorem does_committed (ds : List δ) :
    Does (executeBatch run (ds.map .apply ++ [.commit]) : Sql ε (Connection σ) Unit)
      (inside file s) (database (applyAll run ds s)) closed (Open file) := by
  have hstatements : Does (executeBatch run (ds.map .apply) : Sql ε (Connection σ) Unit)
      (inside file s) (database (applyAll run ds s)) (inside file) (Open file) := does_applyAll ds
  have hsame : (database (applyAll run ds s) : Except ε σ) >>= Except.ok =
      database (applyAll run ds s) := bind_pure _
  rw [executeBatch_append, executeBatch_single, ← hsame]
  exact hstatements.bind fun m _ => does_commit

/-- The file is as it was, whether or not a transaction is left open. -/
def FileIs (file : σ) (c : Connection σ) : Prop := c.file = file

theorem Open.fileIs {c : Connection σ} (h : Open file c) : FileIs file c := by
  obtain ⟨s, rfl⟩ := h
  rfl

/-- **BEGIN; statements; COMMIT: the file has all of them, or none.** -/
theorem does_transaction (ds : List δ) :
    Does (executeBatch run (transaction ds) : Sql ε (Connection σ) Unit) (closed s)
      (database (applyAll run ds s)) closed (FileIs s) := by
  have hbegin : Does (execute run .beginTransaction : Sql ε (Connection σ) Unit) (closed s) (.ok s)
      (inside s) (FileIs s) := does_begin rfl
  exact hbegin.first ((does_committed ds).weaken fun _ => Open.fileIs)

/-! ## 4. ROLLBACK on an error -/

theorem does_rollback : Does (executeBatch run [.rollback] : Sql ε (Connection σ) Unit)
    (inside file s) (.ok file) closed (Open file) := by
  rw [executeBatch_single]
  exact does_execute rfl ⟨s, rfl⟩

/-- **With a ROLLBACK under it a program that fails leaves the file as it was.** -/
theorem Does.rescue (h : Does x c outcome ends (Open file)) :
    Does (Sql.onError x (executeBatch run [.rollback])) c outcome ends (FileIs file) where
  runs := by
    intro reply c' hrun
    cases reply with
    | ok u =>
      obtain ⟨s', hs, rfl⟩ := h.of_ok (Sql.runs_onError_ok hrun)
      exact .inl ⟨s', hs, rfl, rfl⟩
    | error e =>
      obtain ⟨c₁, r, hx, hcleanup⟩ := Sql.runs_onError_error hrun
      obtain ⟨s', -, he, -⟩ | ⟨e', -, m, rfl⟩ := h.runs hx
      · cases he
      refine .inr ⟨e, rfl, ?_⟩
      obtain ⟨s', hs, -, rfl⟩ | ⟨e', -, hopen⟩ := does_rollback.runs hcleanup
      · cases hs
        exact rfl
      · exact hopen.fileIs
  clean := by
    obtain ⟨s', hs, hx⟩ | ⟨e, c', he, hx, m, rfl⟩ := h.clean
    · exact .inl ⟨s', hs, Sql.clean_onError_ok hx⟩
    · exact .inr ⟨e, closed file, he, Sql.clean_onError_error hx does_rollback.clean_ok, rfl⟩

/-- **Without faults the ROLLBACK ends the transaction**, with the file as it was. -/
theorem Does.rolledBack {e : ε} (h : Does x c (.error e) ends (Open file)) :
    Sql.Clean (Sql.onError x (executeBatch run [.rollback])) c (.error e) (closed file) := by
  obtain ⟨s', hs, -⟩ | ⟨e', c', he, hx, m, rfl⟩ := h.clean
  · cases hs
  · cases he
    exact Sql.clean_onError_error hx does_rollback.clean_ok

end Rules

end Connection

end MatriXpost
