/-
  File:      MatriXpost/Lib/TwoRuns.lean
  Subject:   TWO RUNS OF PROGRAMS OF SQL STATEMENTS, SIDE BY SIDE. Nothing here names a program.

  `Sql.Agree R Q x y`: on contents related by `R`, under the same faults, `x` and `y` use the same
  faults, leave contents related by `R`, and end with the same error or with answers related by
  `Q`. What `R` and `Q` do not compare, the runs do not show.

  The rules follow the programs: `agree_bind` for a sequence, `agree_loopFuel` for a loop,
  `agree_statement` for a statement, `agree_transaction` for a transaction.
-/
import MatriXpost.Lib.Loop

namespace MatriXpost

namespace Sql

variable {ε σ α β α' β' : Type} {R : σ → σ → Prop} {Q : α → β → Prop} {Q' : α' → β' → Prop}

/-- Two replies that are one error, or answers related by `Q`. -/
inductive Replies (Q : α → β → Prop) : Except ε α → Except ε β → Prop
  | error (e : ε) : Replies Q (.error e) (.error e)
  | ok {a : α} {b : β} : Q a b → Replies Q (.ok a) (.ok b)

/-- The two programs cannot be told apart by faults, by `R` or by `Q`. -/
def Agree (R : σ → σ → Prop) (Q : α → β → Prop) (x : Sql ε σ α) (y : Sql ε σ β) : Prop :=
  ∀ s t faults, R s t → Replies Q (x ⟨s, faults⟩).1 (y ⟨t, faults⟩).1 ∧
    R (x ⟨s, faults⟩).2.store (y ⟨t, faults⟩).2.store ∧
    (x ⟨s, faults⟩).2.faults = (y ⟨t, faults⟩).2.faults

theorem agree_lift {r : Except ε α} {r' : Except ε β} (h : Replies Q r r') :
    Agree R Q (lift r : Sql ε σ α) (lift r') := fun _ _ _ hR => ⟨h, hR, rfl⟩

theorem agree_pure {a : α} {b : β} (h : Q a b) :
    Agree R Q (pure a : Sql ε σ α) (pure b) := agree_lift (.ok h)

theorem agree_fail (e : ε) : Agree R Q (fail e : Sql ε σ α) (fail e) := agree_lift (.error e)

/-- **Sequences agree part by part.** -/
theorem agree_bind {x : Sql ε σ α} {y : Sql ε σ β} {f : α → Sql ε σ α'} {g : β → Sql ε σ β'}
    (h : Agree R Q x y) (hf : ∀ a b, Q a b → Agree R Q' (f a) (g b)) :
    Agree R Q' (x >>= f) (y >>= g) := by
  intro s t faults hR
  obtain ⟨hreply, hstore, hfaults⟩ := h s t faults hR
  change Replies Q' (Sql.bind x f ⟨s, faults⟩).1 (Sql.bind y g ⟨t, faults⟩).1 ∧
    R (Sql.bind x f ⟨s, faults⟩).2.store (Sql.bind y g ⟨t, faults⟩).2.store ∧
    (Sql.bind x f ⟨s, faults⟩).2.faults = (Sql.bind y g ⟨t, faults⟩).2.faults
  unfold Sql.bind
  cases hx : x ⟨s, faults⟩ with
  | mk reply db =>
    cases hy : y ⟨t, faults⟩ with
    | mk reply' db' =>
      rw [hx, hy] at hreply hstore hfaults
      obtain ⟨store, left⟩ := db
      obtain ⟨store', left'⟩ := db'
      obtain rfl : left = left' := hfaults
      cases hreply with
      | error e => exact ⟨.error e, hstore, rfl⟩
      | ok hQ => exact hf _ _ hQ store store' left hstore

/-- Loops agree as their turns do. -/
theorem agree_loopFuel {turn turn' : Sql ε σ (Option α)} (h : Agree R Eq turn turn') (spent : ε)
    (fuel : Nat) : Agree R Eq (loopFuel spent turn fuel) (loopFuel spent turn' fuel) := by
  induction fuel with
  | zero => exact agree_fail spent
  | succ fuel ih =>
    refine agree_bind h ?_
    rintro answer _ rfl
    cases answer with
    | some a => exact agree_pure rfl
    | none => exact ih

section Statements
variable [DatabaseError ε]

/-- Statements agree when what they do agrees. -/
theorem agree_statement {f : σ → Except ε (α × σ)} {g : σ → Except ε (β × σ)}
    (h : ∀ s t, R s t → Replies (fun a b => Q a.1 b.1 ∧ R a.2 b.2) (f s) (g t)) :
    Agree R Q (statement f) (statement g) := by
  intro s t faults hR
  have hboth := h s t hR
  unfold statement
  generalize f s = left, g t = right at hboth ⊢
  -- What the statement does, once no fault has replaced it.
  rcases faults with _ | ⟨_ | message, rest⟩
  · cases hboth with
    | error e => exact ⟨.error e, hR, rfl⟩
    | ok hQ => exact ⟨.ok hQ.1, hQ.2, rfl⟩
  · cases hboth with
    | error e => exact ⟨.error e, hR, rfl⟩
    | ok hQ => exact ⟨.ok hQ.1, hQ.2, rfl⟩
  · exact ⟨.error _, hR, rfl⟩

theorem agree_query {f : σ → α} {g : σ → β} (h : ∀ s t, R s t → Q (f s) (g t)) :
    Agree R Q (query f : Sql ε σ α) (query g) :=
  agree_statement fun s t hR => .ok ⟨h s t hR, hR⟩

theorem agree_execute {f : σ → α × σ} {g : σ → β × σ}
    (h : ∀ s t, R s t → Q (f s).1 (g t).1 ∧ R (f s).2 (g t).2) :
    Agree R Q (execute f : Sql ε σ α) (execute g) :=
  agree_statement fun s t hR => .ok (h s t hR)

/-- **Transactions agree when their bodies do**: what is rolled back was related before. -/
theorem agree_transaction {x : Sql ε σ α} {y : Sql ε σ β} (h : Agree R Q x y) :
    Agree R Q (transaction x) (transaction y) := by
  have hmark : Agree R (fun _ _ : Unit => True) (statement (ε := ε) fun s => .ok ((), s))
      (statement fun s => .ok ((), s)) := agree_statement fun _ _ hR => .ok ⟨trivial, hR⟩
  intro s t faults hR
  have hbegin := hmark s t faults hR
  unfold transaction
  generalize statement (ε := ε) (fun s => .ok ((), s)) ⟨s, faults⟩ = d₁ at hbegin ⊢
  generalize statement (ε := ε) (fun s => .ok ((), s)) ⟨t, faults⟩ = d₂ at hbegin ⊢
  obtain ⟨reply₁, ⟨s₁, left₁⟩⟩ := d₁
  obtain ⟨reply₂, ⟨t₁, left₂⟩⟩ := d₂
  obtain ⟨hreply, hR₁, rfl : left₁ = left₂⟩ := hbegin
  cases hreply with
  | error e => exact ⟨.error e, hR₁, rfl⟩
  | ok =>
    have hbody := h s₁ t₁ left₁ hR₁
    dsimp only
    generalize x ⟨s₁, left₁⟩ = d₁ at hbody ⊢
    generalize y ⟨t₁, left₁⟩ = d₂ at hbody ⊢
    obtain ⟨reply₁, ⟨s₂, left₃⟩⟩ := d₁
    obtain ⟨reply₂, ⟨t₂, left₄⟩⟩ := d₂
    obtain ⟨hreply, hR₂, rfl : left₃ = left₄⟩ := hbody
    cases hreply with
    | error e => exact ⟨.error e, hR, rfl⟩
    | ok hQ =>
      have hcommit := hmark s₂ t₂ left₃ hR₂
      dsimp only
      generalize statement (ε := ε) (fun s => .ok ((), s)) ⟨s₂, left₃⟩ = d₁ at hcommit ⊢
      generalize statement (ε := ε) (fun s => .ok ((), s)) ⟨t₂, left₃⟩ = d₂ at hcommit ⊢
      obtain ⟨reply₁, ⟨s₃, left₅⟩⟩ := d₁
      obtain ⟨reply₂, ⟨t₃, left₆⟩⟩ := d₂
      obtain ⟨hreply, hR₃, rfl : left₅ = left₆⟩ := hcommit
      cases hreply with
      | error e => exact ⟨.error e, hR, rfl⟩
      | ok => exact ⟨.ok hQ, hR₃, rfl⟩

end Statements

end Sql

end MatriXpost
