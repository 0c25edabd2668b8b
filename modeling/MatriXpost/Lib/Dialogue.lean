/-
  File:      MatriXpost/Lib/Dialogue.lean
  Subject:   A PROGRAM ALONE, AND THE REPLIES IT IS GIVEN. Nothing here names a program.

  * `Prog.run reply p`: the calls `p` makes and its answer, when each call is replied to by a
    function of the call;
  * `Prog.Answers p es a`: `p` makes the calls `es`, is given their replies and answers `a`. The
    replies are any. `answers_bind`, `answers_call` take such a dialogue apart;
  * `Prog.play`: the dialogue with an environment that remembers what was said;
  * `Prog.Only ok p`: every call of every dialogue is `ok`;
  * a `Talk` is a program whose answer may be an error, which ends it. `Talk.answers_bind` takes
    one of its dialogues apart, `Talk.poll` makes a bounded number of attempts.
-/
import MatriXpost.Lib.Prog

namespace MatriXpost

section Dialogue

variable {E : Type} {R : E → Type} {α β : Type}

/-! ## 1. Replies by a function -/

/-- The calls of a program and its answer, with these replies. -/
def Prog.run (reply : (e : E) → R e) : Prog E R α → List E × α
  | .ret a => ([], a)
  | .call e k =>
    let rest := run reply (k (reply e))
    (e :: rest.1, rest.2)

/-! ## 2. Any replies -/

/-- `p` makes these calls, is given these replies, and answers. -/
def Prog.Answers : Prog E R α → List (Called E R) → α → Prop
  | .ret a, es, b => es = [] ∧ b = a
  | .call e k, es, b => ∃ r rest, es = ⟨e, r⟩ :: rest ∧ (k r).Answers rest b

theorem answers_pure {a b : α} {es : List (Called E R)} :
    (pure a : Prog E R α).Answers es b ↔ es = [] ∧ b = a := Iff.rfl

theorem answers_call {e : E} {k : R e → Prog E R α} {es : List (Called E R)} {b : α} :
    (Prog.call e k).Answers es b ↔ ∃ r rest, es = ⟨e, r⟩ :: rest ∧ (k r).Answers rest b := Iff.rfl

/-- **A dialogue of a sequence is one of its first part and one of its second.** -/
theorem answers_bind {p : Prog E R α} {f : α → Prog E R β} {es : List (Called E R)} {b : β} :
    (p >>= f).Answers es b ↔
      ∃ es₁ a es₂, es = es₁ ++ es₂ ∧ p.Answers es₁ a ∧ (f a).Answers es₂ b := by
  induction p generalizing es with
  | ret a =>
    constructor
    · intro h
      exact ⟨[], a, es, rfl, ⟨rfl, rfl⟩, h⟩
    · intro h
      obtain ⟨es₁, a', es₂, rfl, ⟨rfl, rfl⟩, h⟩ := h
      exact h
  | call e k ih =>
    constructor
    · intro h
      obtain ⟨r, rest, rfl, h⟩ := h
      obtain ⟨es₁, a, es₂, rfl, hfirst, hsecond⟩ := (ih r).mp h
      exact ⟨⟨e, r⟩ :: es₁, a, es₂, rfl, ⟨r, es₁, rfl, hfirst⟩, hsecond⟩
    · intro h
      obtain ⟨es₁, a, es₂, rfl, ⟨r, rest, rfl, hfirst⟩, hsecond⟩ := h
      exact ⟨r, rest ++ es₂, rfl, (ih r).mpr ⟨rest, a, es₂, rfl, hfirst, hsecond⟩⟩

/-- **The replies decide how a dialogue ends.** -/
theorem answers_unique {p : Prog E R α} {es : List (Called E R)} {a b : α} (ha : p.Answers es a)
    (hb : p.Answers es b) : a = b := by
  induction p generalizing es with
  | ret c =>
    obtain ⟨-, rfl⟩ := ha
    obtain ⟨-, rfl⟩ := hb
    rfl
  | call e k ih =>
    obtain ⟨r, rest, rfl, ha⟩ := ha
    obtain ⟨r', rest', he, hb⟩ := hb
    obtain ⟨hcall, rfl⟩ := List.cons.inj he
    cases hcall
    exact ih r ha hb

/-- The dialogue with the replies of a function is one of them. -/
theorem answers_run (reply : (e : E) → R e) (p : Prog E R α) :
    p.Answers ((p.run reply).1.map fun e => ⟨e, reply e⟩) (p.run reply).2 := by
  induction p with
  | ret a => exact ⟨rfl, rfl⟩
  | call e k ih => exact ⟨reply e, _, rfl, ih (reply e)⟩

/-- **Every program ends**: the dialogue in which each call is replied to by what was said before
    it. -/
def Prog.play (environment : List (Called E R) → (e : E) → R e) :
    List (Called E R) → Prog E R α → List (Called E R) × α
  | _, .ret a => ([], a)
  | past, .call e k =>
    let called : Called E R := ⟨e, environment past e⟩
    let rest := play environment (past ++ [called]) (k (environment past e))
    (called :: rest.1, rest.2)

theorem answers_play (environment : List (Called E R) → (e : E) → R e)
    (past : List (Called E R)) (p : Prog E R α) :
    p.Answers (p.play environment past).1 (p.play environment past).2 := by
  induction p generalizing past with
  | ret a => exact ⟨rfl, rfl⟩
  | call e k ih => exact ⟨environment past e, _, rfl, ih (environment past e) _⟩

/-! ## 3. What is called -/

/-- Every call the program may make is one of these. -/
def Prog.Only (ok : E → Prop) : Prog E R α → Prop
  | .ret _ => True
  | .call e k => ok e ∧ ∀ r, (k r).Only ok

variable {ok ok' : E → Prop}

theorem only_pure (a : α) : (pure a : Prog E R α).Only ok := trivial

theorem only_call {e : E} {k : R e → Prog E R α} :
    (Prog.call e k).Only ok ↔ ok e ∧ ∀ r, (k r).Only ok := Iff.rfl

theorem only_bind {p : Prog E R α} {f : α → Prog E R β} (h : p.Only ok)
    (hf : ∀ a, (f a).Only ok) : (p >>= f).Only ok := by
  induction p with
  | ret a => exact hf a
  | call e k ih => exact ⟨h.1, fun r => ih r (h.2 r)⟩

/-- **The calls of a dialogue are the program's calls.** -/
theorem only_answers {p : Prog E R α} (h : p.Only ok) {es : List (Called E R)} {a : α}
    (hp : p.Answers es a) : ∀ c ∈ es, ok c.call := by
  induction p generalizing es with
  | ret a =>
    obtain ⟨rfl, -⟩ := hp
    exact fun c hc => absurd hc List.not_mem_nil
  | call e k ih =>
    obtain ⟨r, rest, rfl, hrest⟩ := hp
    intro c hc
    rcases List.mem_cons.mp hc with rfl | hc
    · exact h.1
    · exact ih r (h.2 r) hrest c hc

theorem only_run {p : Prog E R α} (h : p.Only ok) (reply : (e : E) → R e) :
    ∀ e ∈ (p.run reply).1, ok e := by
  intro e he
  exact only_answers h (answers_run reply p) _ (List.mem_map_of_mem he)

/-- A list is cut in one way at its only element of a kind. -/
theorem cut_unique {γ : Type*} {kind : γ → Prop} {before before' after after' : List γ} {c c' : γ}
    (hbefore : ∀ x ∈ before, ¬ kind x) (hafter : ∀ x ∈ after, ¬ kind x) (hc' : kind c')
    (h : before ++ c :: after = before' ++ c' :: after') :
    before = before' ∧ c = c' ∧ after = after' := by
  rcases List.append_eq_append_iff.mp h with ⟨middle, rfl, hrest⟩ | ⟨middle, rfl, hrest⟩
  · cases middle with
    | nil =>
      obtain ⟨rfl, rfl⟩ := List.cons.inj hrest
      exact ⟨(List.append_nil before).symm, rfl, rfl⟩
    | cons x middle =>
      obtain ⟨-, rfl⟩ := List.cons.inj hrest
      exact absurd hc' (hafter c' (List.mem_append_right middle List.mem_cons_self))
  · cases middle with
    | nil =>
      obtain ⟨rfl, rfl⟩ := List.cons.inj hrest
      exact ⟨List.append_nil before', rfl, rfl⟩
    | cons x middle =>
      obtain ⟨rfl, -⟩ := List.cons.inj hrest
      exact absurd hc' (hbefore c' (List.mem_append_right before' List.mem_cons_self))

/-- A list of one element is cut at it. -/
theorem cut_singleton {γ : Type*} {a c : γ} {before after : List γ}
    (h : [a] = before ++ c :: after) : before = [] ∧ a = c := by
  obtain ⟨rfl, he⟩ | ⟨-, he⟩ := List.singleton_eq_append_iff.mp h
  · exact ⟨rfl, (List.cons.inj he).1.symm⟩
  · cases he

end Dialogue

/-! ## 4. Programs that may fail -/

/-- A program that answers or fails. -/
abbrev Talk (E : Type) (R : E → Type) (ε α : Type) := ExceptT ε (Prog E R) α

namespace Talk

variable {E : Type} {R : E → Type} {ε α β : Type}

/-- One call. -/
def ask (e : E) : Talk E R ε (R e) := Prog.call e fun r => Prog.ret (.ok r)

/-- A result that needs no call. -/
def lift (r : Except ε α) : Talk E R ε α := Prog.ret r

def fail (e : ε) : Talk E R ε α := lift (.error e)

/-- Turn after turn, until one has an answer: at most this many, then `late`. -/
def poll (turn : Talk E R ε (Option α)) (late : Talk E R ε α) : Nat → Talk E R ε α
  | 0 => late
  | attempts + 1 => do
    match ← turn with
    | some a => pure a
    | none => poll turn late attempts

/-- Both parts run, whatever the first one answers; an error of the first counts before one of
    the second. -/
def withCleanup (x : Talk E R ε α) (cleanup : Talk E R ε Unit) : Talk E R ε α :=
  ExceptT.mk do
    let outcome ← x.run
    let closed ← cleanup.run
    pure (outcome.bind fun a => closed.map fun _ => a)

/-- `items.filter_map(f).collect()`: item after item, what `f` gives for it, if anything. -/
def filterMap {γ : Type} (f : γ → Talk E R ε (Option β)) : List γ → Talk E R ε (List β)
  | [] => pure []
  | a :: rest => do
    let b ← f a
    let bs ← filterMap f rest
    pure (b.toList ++ bs)

/-- The same program, its errors renamed. -/
def mapError {ε' : Type} (f : ε → ε') (x : Talk E R ε α) : Talk E R ε' α :=
  ExceptT.mk do
    let outcome ← x.run
    pure (outcome.mapError f)

/-- The program runs, and how it ended is the answer. -/
def outcome {ε' : Type} (x : Talk E R ε α) : Talk E R ε' (Except ε α) :=
  ExceptT.mk do
    let result ← x.run
    pure (.ok result)

/-- The program makes these calls, is given these replies, and ends so. -/
def Answers (x : Talk E R ε α) (es : List (Called E R)) (r : Except ε α) : Prop :=
  Prog.Answers x.run es r

/-- Every call the program may make is one of these. -/
def Only (ok : E → Prop) (x : Talk E R ε α) : Prop := Prog.Only ok x.run

variable {ok : E → Prop} {x : Talk E R ε α} {f : α → Talk E R ε β} {es : List (Called E R)}

theorem answers_pure {a : α} {r : Except ε α} :
    (pure a : Talk E R ε α).Answers es r ↔ es = [] ∧ r = .ok a := Iff.rfl

theorem answers_lift {r r' : Except ε α} :
    (lift r : Talk E R ε α).Answers es r' ↔ es = [] ∧ r' = r := Iff.rfl

theorem answers_fail {e : ε} {r : Except ε α} :
    (fail e : Talk E R ε α).Answers es r ↔ es = [] ∧ r = .error e := Iff.rfl

theorem answers_ask {e : E} {r : Except ε (R e)} :
    (ask e : Talk E R ε (R e)).Answers es r ↔ ∃ reply, es = [⟨e, reply⟩] ∧ r = .ok reply := by
  constructor
  · intro h
    obtain ⟨reply, rest, rfl, rfl, rfl⟩ := h
    exact ⟨reply, rfl, rfl⟩
  · intro h
    obtain ⟨reply, rfl, rfl⟩ := h
    exact ⟨reply, [], rfl, rfl, rfl⟩

/-- **A dialogue of a sequence fails in its first part, or is one of each part.** -/
theorem answers_bind {r : Except ε β} : (x >>= f).Answers es r ↔
    (∃ e, x.Answers es (.error e) ∧ r = .error e) ∨
      ∃ es₁ a es₂, es = es₁ ++ es₂ ∧ x.Answers es₁ (.ok a) ∧ (f a).Answers es₂ r := by
  show Prog.Answers (x.run >>= ExceptT.bindCont f) es r ↔ _
  rw [MatriXpost.answers_bind]
  constructor
  · intro h
    obtain ⟨es₁, a, es₂, rfl, hfirst, hsecond⟩ := h
    cases a with
    | ok a => exact .inr ⟨es₁, a, es₂, rfl, hfirst, hsecond⟩
    | error e =>
      obtain ⟨rfl, rfl⟩ := hsecond
      exact .inl ⟨e, by rwa [List.append_nil], rfl⟩
  · intro h
    obtain ⟨e, h, rfl⟩ | ⟨es₁, a, es₂, rfl, hfirst, hsecond⟩ := h
    · exact ⟨es, .error e, [], by rw [List.append_nil], h, rfl, rfl⟩
    · exact ⟨es₁, .ok a, es₂, rfl, hfirst, hsecond⟩

/-- One that answers is one of each part. -/
theorem answers_bind_ok {b : β} : (x >>= f).Answers es (.ok b) ↔
    ∃ es₁ a es₂, es = es₁ ++ es₂ ∧ x.Answers es₁ (.ok a) ∧ (f a).Answers es₂ (.ok b) := by
  rw [answers_bind]
  refine or_iff_right ?_
  intro h
  obtain ⟨e, -, he⟩ := h
  cases he

/-- A result that needs no call decides how it goes on. -/
theorem answers_lift_bind {checks : Except ε α} {r : Except ε β} :
    (lift checks >>= f : Talk E R ε β).Answers es r ↔
      (∃ e, checks = .error e ∧ es = [] ∧ r = .error e) ∨
        ∃ a, checks = .ok a ∧ (f a).Answers es r := by
  rw [answers_bind]
  constructor
  · intro h
    obtain ⟨e, ⟨rfl, he⟩, rfl⟩ | ⟨es₁, a, es₂, rfl, ⟨rfl, ha⟩, h⟩ := h
    · exact .inl ⟨e, he.symm, rfl, rfl⟩
    · exact .inr ⟨a, ha.symm, h⟩
  · intro h
    obtain ⟨e, rfl, rfl, rfl⟩ | ⟨a, rfl, h⟩ := h
    · exact .inl ⟨e, ⟨rfl, rfl⟩, rfl⟩
    · exact .inr ⟨[], a, es, rfl, ⟨rfl, rfl⟩, h⟩

/-- A bounded wait that answers did so in its last turn, unless it was late. -/
theorem answers_poll {turn : Talk E R ε (Option α)} {late : Talk E R ε α} {attempts : Nat} {a : α}
    (h : (poll turn late attempts).Answers es (.ok a)) :
    ∃ before last, es = before ++ last ∧
      (turn.Answers last (.ok (some a)) ∨ late.Answers last (.ok a)) := by
  induction attempts generalizing es with
  | zero => exact ⟨[], es, rfl, .inr h⟩
  | succ attempts ih =>
    obtain ⟨es₁, answer, es₂, rfl, hturn, hrest⟩ := answers_bind_ok.mp h
    cases answer with
    | some b =>
      obtain ⟨rfl, hb⟩ := answers_pure.mp hrest
      cases hb
      exact ⟨[], es₁, by rw [List.append_nil]; rfl, .inl hturn⟩
    | none =>
      obtain ⟨before, last, rfl, hlast⟩ := ih hrest
      exact ⟨es₁ ++ before, last, (List.append_assoc ..).symm, hlast⟩

/-- A dialogue that begins with a call. -/
theorem answers_ask_bind {e : E} {g : R e → Talk E R ε β} {r : Except ε β} :
    (ask e >>= g).Answers es r ↔
      ∃ reply rest, es = ⟨e, reply⟩ :: rest ∧ (g reply).Answers rest r := by
  rw [answers_bind]
  constructor
  · intro h
    obtain ⟨e', h, rfl⟩ | ⟨es₁, a, es₂, rfl, hask, hrest⟩ := h
    · obtain ⟨reply, -, he⟩ := answers_ask.mp h
      cases he
    · obtain ⟨reply, rfl, ha⟩ := answers_ask.mp hask
      cases ha
      exact ⟨a, es₂, rfl, hrest⟩
  · intro h
    obtain ⟨reply, rest, rfl, h⟩ := h
    exact .inr ⟨[⟨e, reply⟩], reply, rest, rfl, answers_ask.mpr ⟨reply, rfl, rfl⟩, h⟩

theorem answers_outcome {ε' : Type} {r : Except ε' (Except ε α)} :
    (x.outcome : Talk E R ε' (Except ε α)).Answers es r ↔
      ∃ result, x.Answers es result ∧ r = .ok result := by
  show Prog.Answers (x.run >>= fun result => pure (.ok result)) es r ↔ _
  rw [MatriXpost.answers_bind]
  constructor
  · intro h
    obtain ⟨es₁, result, es₂, rfl, h, rfl, rfl⟩ := h
    exact ⟨result, by rwa [List.append_nil], rfl⟩
  · intro h
    obtain ⟨result, h, rfl⟩ := h
    exact ⟨es, result, [], by rw [List.append_nil], h, rfl, rfl⟩

/-- **What one item after the other gives**, item by item with its dialogue. -/
theorem answers_filterMap {γ : Type} {f : γ → Talk E R ε (Option β)} {items : List γ}
    {bs : List β} : (filterMap f items).Answers es (.ok bs) ↔
      ∃ found : List (List (Called E R) × Option β),
        List.Forall₂ (fun a p => (f a).Answers p.1 (.ok p.2)) items found ∧
          es = (found.map Prod.fst).flatten ∧ bs = found.filterMap Prod.snd := by
  induction items generalizing es bs with
  | nil =>
    constructor
    · intro h
      obtain ⟨rfl, hbs⟩ := answers_pure.mp h
      cases hbs
      exact ⟨[], .nil, rfl, rfl⟩
    · intro h
      obtain ⟨found, hfound, rfl, rfl⟩ := h
      cases hfound
      exact answers_pure.mpr ⟨rfl, rfl⟩
  | cons a rest ih =>
    constructor
    · intro h
      obtain ⟨es₁, b, es₂, rfl, hfirst, hrest⟩ := answers_bind_ok.mp h
      obtain ⟨es₃, bs', es₄, rfl, hothers, hend⟩ := answers_bind_ok.mp hrest
      obtain ⟨rfl, hbs⟩ := answers_pure.mp hend
      obtain ⟨found, hfound, rfl, rfl⟩ := ih.mp hothers
      cases hbs
      exact ⟨(es₁, b) :: found, .cons hfirst hfound, by simp, by cases b <;> rfl⟩
    · intro h
      obtain ⟨found, hfound, rfl, rfl⟩ := h
      cases hfound with
      | @cons _ p _ found hfirst hothers =>
        refine answers_bind_ok.mpr ⟨p.1, p.2, (found.map Prod.fst).flatten, by simp, hfirst,
          answers_bind_ok.mpr ⟨_, _, [], (List.append_nil _).symm,
            ih.mpr ⟨found, hothers, rfl, rfl⟩, answers_pure.mpr ⟨rfl, ?_⟩⟩⟩
        cases hp : p.2 with
        | none => simp [hp]
        | some b => simp [hp]

/-- No item fails, so neither do all. -/
theorem filterMap_answers_ok {γ : Type} {f : γ → Talk E R ε (Option β)} {items : List γ}
    (hf : ∀ a es r, (f a).Answers es r → ∃ b, r = .ok b) {r : Except ε (List β)}
    (h : (filterMap f items).Answers es r) : ∃ bs, r = .ok bs := by
  induction items generalizing es r with
  | nil => exact ⟨[], (answers_pure.mp h).2⟩
  | cons a rest ih =>
    rcases answers_bind.mp h with ⟨e, hfirst, -⟩ | ⟨es₁, b, es₂, -, -, hrest⟩
    · obtain ⟨b, hb⟩ := hf a es _ hfirst
      cases hb
    rcases answers_bind.mp hrest with ⟨e, hothers, -⟩ | ⟨es₃, bs, es₄, -, -, hend⟩
    · obtain ⟨bs, hbs⟩ := ih hothers
      cases hbs
    · exact ⟨_, (answers_pure.mp hend).2⟩

/-- **A dialogue with cleanup is one of each part, always.** -/
theorem answers_withCleanup {cleanup : Talk E R ε Unit} {r : Except ε α} :
    (x.withCleanup cleanup).Answers es r ↔
      ∃ es₁ outcome es₂ closed, es = es₁ ++ es₂ ∧ x.Answers es₁ outcome ∧
        cleanup.Answers es₂ closed ∧ r = outcome.bind fun a => closed.map fun _ => a := by
  show Prog.Answers (x.run >>= fun outcome => cleanup.run >>= fun closed =>
    pure (outcome.bind fun a => closed.map fun _ => a)) es r ↔ _
  rw [MatriXpost.answers_bind]
  constructor
  · intro h
    obtain ⟨es₁, outcome, es₂, rfl, hfirst, hsecond⟩ := h
    obtain ⟨es₃, closed, es₄, rfl, hcleanup, rfl, rfl⟩ := MatriXpost.answers_bind.mp hsecond
    exact ⟨es₁, outcome, es₃, closed, by rw [List.append_nil], hfirst, hcleanup, rfl⟩
  · intro h
    obtain ⟨es₁, outcome, es₂, closed, rfl, hfirst, hcleanup, rfl⟩ := h
    refine ⟨es₁, outcome, es₂, rfl, hfirst, MatriXpost.answers_bind.mpr ?_⟩
    exact ⟨es₂, closed, [], by rw [List.append_nil], hcleanup, rfl, rfl⟩

theorem answers_mapError {ε' : Type} {f : ε → ε'} {r : Except ε' α} :
    (x.mapError f).Answers es r ↔ ∃ outcome, x.Answers es outcome ∧ r = outcome.mapError f := by
  show Prog.Answers (x.run >>= fun outcome => pure (outcome.mapError f)) es r ↔ _
  rw [MatriXpost.answers_bind]
  constructor
  · intro h
    obtain ⟨es₁, outcome, es₂, rfl, h, rfl, rfl⟩ := h
    exact ⟨outcome, by rwa [List.append_nil], rfl⟩
  · intro h
    obtain ⟨outcome, h, rfl⟩ := h
    exact ⟨es, outcome, [], by rw [List.append_nil], h, rfl, rfl⟩

theorem only_pure (a : α) : (pure a : Talk E R ε α).Only ok := trivial

theorem only_lift (r : Except ε α) : (lift r : Talk E R ε α).Only ok := trivial

theorem only_fail (e : ε) : (fail e : Talk E R ε α).Only ok := trivial

theorem only_ask {e : E} (h : ok e) : (ask e : Talk E R ε (R e)).Only ok := ⟨h, fun _ => trivial⟩

theorem Only.bind (h : x.Only ok) (hf : ∀ a, (f a).Only ok) : (x >>= f).Only ok := by
  refine only_bind (f := ExceptT.bindCont f) h fun a => ?_
  cases a with
  | ok a => exact hf a
  | error e => exact trivial

/-- A result that needs no call goes on only if it is there. -/
theorem Only.lift_bind {checks : Except ε α} (h : ∀ a, checks = .ok a → (f a).Only ok) :
    (lift checks >>= f : Talk E R ε β).Only ok := by
  cases checks with
  | error e => exact only_fail e
  | ok a => exact h a rfl

theorem Only.poll {turn : Talk E R ε (Option α)} {late : Talk E R ε α} (hturn : turn.Only ok)
    (hlate : late.Only ok) (attempts : Nat) : (poll turn late attempts).Only ok := by
  induction attempts with
  | zero => exact hlate
  | succ n ih =>
    refine hturn.bind fun a => ?_
    cases a with
    | some a => exact only_pure a
    | none => exact ih

theorem Only.withCleanup {cleanup : Talk E R ε Unit} (h : x.Only ok) (hcleanup : cleanup.Only ok) :
    (x.withCleanup cleanup).Only ok :=
  only_bind h fun _ => only_bind hcleanup fun _ => MatriXpost.only_pure _

theorem Only.answers (h : x.Only ok) {r : Except ε α} (hx : x.Answers es r) :
    ∀ c ∈ es, ok c.call := only_answers h hx

/-- The dialogue with the replies of a function is one of them. -/
theorem answers_run (reply : (e : E) → R e) (x : Talk E R ε α) :
    x.Answers ((x.run.run reply).1.map fun e => ⟨e, reply e⟩) (x.run.run reply).2 :=
  MatriXpost.answers_run reply x.run

/-- The replies decide how a dialogue ends. -/
theorem answers_unique {r r' : Except ε α} (h : x.Answers es r) (h' : x.Answers es r') : r = r' :=
  MatriXpost.answers_unique h h'

theorem only_run (h : x.Only ok) (reply : (e : E) → R e) : ∀ e ∈ (x.run.run reply).1, ok e :=
  MatriXpost.only_run h reply

/-- A dialogue of a program that may fail, read as one of a program. -/
theorem answers_prog {r : Except ε α} : Prog.Answers x.run es r ↔ x.Answers es r := Iff.rfl

end Talk

-- A dialogue is taken apart by the rules above, never by evaluating the program.
attribute [irreducible] Prog.Answers Prog.Only Talk.Answers Talk.Only

end MatriXpost
