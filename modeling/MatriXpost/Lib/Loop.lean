/-
  File:      MatriXpost/Lib/Loop.lean
  Subject:   LOOPS OF SQL PROGRAMS, AND WHAT A PROGRAM CAN FAIL WITH. Nothing here names a
             program.

  The body of a `loop { … }` is a program that answers `some a` to return `a` and `none` to go
  round again; an error leaves the loop through `?`. `Loop turn db out` says that the loop
  started on `db` ends with `out`; a loop that goes on for ever has no such `out`.

  * `Loop.rule` is the partial rule: what holds at the start and is kept by every turn that goes
    round again holds before the last turn, and the last turn's outcome is the loop's;
  * `loopFuel` runs a number of turns. Where a measure of the contents falls with every turn that
    goes round again, fuel above the measure is the loop (`loop_iff`), so the loop ends;
  * `Throws P x`: every error of `x` satisfies `P` or is the driver's, at one of the faults
    given. It composes through `bind` and through loops.
-/
import MatriXpost.Lib.Sql

namespace MatriXpost

namespace Sql

variable {ε σ α β : Type}

/-! ## 1. Loops -/

/-- The loop ends: turns that go round again, then one that answers or fails. -/
inductive Loop (turn : Sql ε σ (Option α)) : Db σ → Except ε α × Db σ → Prop
  | answered {db db' : Db σ} {a : α} : turn db = (.ok (some a), db') → Loop turn db (.ok a, db')
  | failed {db db' : Db σ} {e : ε} : turn db = (.error e, db') → Loop turn db (.error e, db')
  | again {db db' : Db σ} {out : Except ε α × Db σ} :
      turn db = (.ok none, db') → Loop turn db' out → Loop turn db out

variable {turn : Sql ε σ (Option α)} {db : Db σ} {out : Except ε α × Db σ}

/-- A loop ends in one way. -/
theorem Loop.unique {out' : Except ε α × Db σ} (h : Loop turn db out) (h' : Loop turn db out') :
    out = out' := by
  induction h with
  | answered hturn =>
    cases h' with
    | answered hturn' =>
      rw [hturn] at hturn'
      cases hturn'
      rfl
    | failed hturn' | again hturn' =>
      rw [hturn] at hturn'
      cases hturn'
  | failed hturn =>
    cases h' with
    | failed hturn' =>
      rw [hturn] at hturn'
      cases hturn'
      rfl
    | answered hturn' | again hturn' =>
      rw [hturn] at hturn'
      cases hturn'
  | again hturn _ ih =>
    cases h' with
    | again hturn' hrest =>
      rw [hturn] at hturn'
      cases hturn'
      exact ih hrest
    | answered hturn' | failed hturn' =>
      rw [hturn] at hturn'
      cases hturn'

/-- **The outcome of a loop is that of its last turn, and what every turn before it kept still
    holds there.** -/
theorem Loop.rule {I : Db σ → Prop} (h : Loop turn db out) (h0 : I db)
    (hagain : ∀ db db', I db → turn db = (.ok none, db') → I db') :
    ∃ last, I last ∧ turn last = (out.1.map some, out.2) := by
  induction h with
  | answered hturn => exact ⟨_, h0, hturn⟩
  | failed hturn => exact ⟨_, h0, hturn⟩
  | again hturn _ ih => exact ih (hagain _ _ h0 hturn)

/-! ## 2. Loops that end -/

/-- `fuel` turns of the loop, and the error `spent` if they all went round again. -/
def loopFuel (spent : ε) (turn : Sql ε σ (Option α)) : Nat → Sql ε σ α
  | 0 => fail spent
  | fuel + 1 => do
    match ← turn with
    | some a => pure a
    | none => loopFuel spent turn fuel

theorem loop_loopFuel {μ : σ → Nat} {spent : ε} {fuel : Nat}
    (hagain : ∀ db db', turn db = (.ok none, db') → μ db'.store < μ db.store)
    (h : μ db.store < fuel) : Loop turn db (loopFuel spent turn fuel db) := by
  induction fuel generalizing db with
  | zero => exact absurd h (Nat.not_lt_zero _)
  | succ fuel ih =>
    change Loop turn db (Sql.bind turn _ db)
    unfold Sql.bind
    split
    · rename_i answer db' hturn
      cases answer with
      | some a => exact .answered hturn
      | none =>
        have hlt := hagain db db' hturn
        exact .again hturn (ih (by omega))
    · rename_i e db' hturn
      exact .failed hturn

/-- **A loop whose turns lower a measure ends, as the loop on fuel above that measure does.** -/
theorem loop_iff {μ : σ → Nat} {spent : ε} {fuel : Nat}
    (hagain : ∀ db db', turn db = (.ok none, db') → μ db'.store < μ db.store)
    (h : μ db.store < fuel) : Loop turn db out ↔ loopFuel spent turn fuel db = out := by
  have hloop : Loop turn db (loopFuel spent turn fuel db) := loop_loopFuel hagain h
  constructor
  · intro hout
    exact hloop.unique hout
  · intro hout
    rwa [hout] at hloop

/-! ## 3. What a program can fail with -/

section Errors
variable [DatabaseError ε] {P : ε → Prop}

/-- An error satisfies `P` or is the driver's, at one of these faults. -/
def Thrown (P : ε → Prop) (faults : List (Option String)) (e : ε) : Prop :=
  P e ∨ ∃ message, some message ∈ faults ∧ e = DatabaseError.database message

theorem Thrown.mono {faults faults' : List (Option String)} {e : ε} (h : Thrown P faults e)
    (hsub : ∀ fault ∈ faults, fault ∈ faults') : Thrown P faults' e := by
  rcases h with h | ⟨message, hmem, he⟩
  · exact .inl h
  · exact .inr ⟨message, hsub _ hmem, he⟩

/-- `x` meets only faults it is given, and fails with nothing but them and `P`. -/
def Throws (P : ε → Prop) (x : Sql ε σ α) : Prop :=
  ∀ db, (∀ fault ∈ (x db).2.faults, fault ∈ db.faults) ∧
    ∀ e, (x db).1 = .error e → Thrown P db.faults e

theorem throws_pure (a : α) : Throws P (pure a : Sql ε σ α) :=
  fun _ => ⟨fun _ hmem => hmem, fun e h => by cases h⟩

theorem throws_lift {r : Except ε α} (h : ∀ e, r = .error e → P e) :
    Throws P (lift r : Sql ε σ α) :=
  fun _ => ⟨fun _ hmem => hmem, fun e he => .inl (h e he)⟩

theorem throws_execute (f : σ → α × σ) : Throws P (execute f : Sql ε σ α) := by
  intro db
  obtain ⟨s, faults⟩ := db
  cases faults with
  | nil => exact ⟨fun _ hmem => hmem, fun e h => by cases h⟩
  | cons fault rest =>
    cases fault with
    | none => exact ⟨fun _ hmem => List.mem_cons_of_mem _ hmem, fun e h => by cases h⟩
    | some message =>
      refine ⟨fun _ hmem => List.mem_cons_of_mem _ hmem, fun e h => ?_⟩
      cases h
      exact .inr ⟨message, List.mem_cons_self, rfl⟩

theorem Throws.bind {x : Sql ε σ α} {f : α → Sql ε σ β} (hx : Throws P x)
    (hf : ∀ a, Throws P (f a)) : Throws P (x >>= f) := by
  intro db
  change (∀ fault ∈ (Sql.bind x f db).2.faults, fault ∈ db.faults) ∧
    ∀ e, (Sql.bind x f db).1 = .error e → Thrown P db.faults e
  have hfirst := hx db
  unfold Sql.bind
  split
  · rename_i a db' hxa
    rw [hxa] at hfirst
    obtain ⟨hsub, herror⟩ := hf a db'
    refine ⟨fun fault hmem => hfirst.1 fault (hsub fault hmem), fun e he => ?_⟩
    exact (herror e he).mono hfirst.1
  · rename_i e' db' hxe
    rw [hxe] at hfirst
    refine ⟨hfirst.1, fun e he => ?_⟩
    cases he
    exact hfirst.2 _ rfl

/-- A loop fails as its turns do. -/
theorem Throws.loop (hturn : Throws P turn) (h : Loop turn db out) :
    (∀ fault ∈ out.2.faults, fault ∈ db.faults) ∧
      ∀ e, out.1 = .error e → Thrown P db.faults e := by
  obtain ⟨last, hsub, hlast⟩ := h.rule (I := fun last => ∀ fault ∈ last.faults, fault ∈ db.faults)
    (fun _ hmem => hmem) (fun db₁ db₂ hsub hagain fault hmem => by
      have hfaults := (hturn db₁).1
      rw [hagain] at hfaults
      exact hsub fault (hfaults fault hmem))
  obtain ⟨hfaults, herror⟩ := hturn last
  rw [hlast] at hfaults herror
  refine ⟨fun fault hmem => hsub fault (hfaults fault hmem), fun e he => ?_⟩
  refine (herror e ?_).mono hsub
  rw [he]
  rfl

end Errors

end Sql

end MatriXpost
