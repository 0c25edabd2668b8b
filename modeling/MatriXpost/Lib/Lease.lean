/-
  File:      MatriXpost/Lib/Lease.lean
  Subject:   LEASES ON A BOUNDED NUMBER OF SLOTS. Nothing here names a program.

  A slot is acquired while fewer than `max` are held. Under it one resource may be opened, used
  and closed; an open one must be closed before its slot is released. Every acquisition has a
  number of its own, and a `Ledger` is the multiset of those held, each with its phase.

  * `Accounts` is what the events so far say of each number: a held one has the history its phase
    stands for, one that is held no more was released after it was closed;
  * `accounts_run`: the accounts hold after every run;
  * `Accounts.count_le_one`: nothing happens to a number twice;
  * `Accounts.length_openSlots_le`: no more is open than is held.
-/
import MatriXpost.Lib.Trace
import Mathlib.Data.Multiset.Basic
import Mathlib.Data.Multiset.UnionInter
import Mathlib.Data.Multiset.Dedup

namespace MatriXpost.Lease

/-! ## 1. Ledgers -/

/-- What has been done under a held slot. -/
inductive Phase
  | reserved | opened | closed
deriving DecidableEq, Repr

inductive Event
  | quiet
  | acquired (slot : Nat)
  | opened (slot : Nat)
  | used (slot : Nat)
  | closed (slot : Nat)
  | released (slot : Nat)
deriving DecidableEq, Repr

/-- The number the next acquisition gets, and the slots held. -/
structure Ledger where
  next : Nat
  held : Multiset (Nat × Phase)

/-- What happens under one slot. -/
inductive Moves (slot : Nat) : Phase → Event → Phase → Prop
  | opens : Moves slot .reserved (.opened slot) .opened
  | uses : Moves slot .opened (.used slot) .opened
  | closes : Moves slot .opened (.closed slot) .closed

inductive Step (max : Nat) : Ledger → Event → Ledger → Prop
  | quiet {l : Ledger} : Step max l .quiet l
  | acquire {l l' : Ledger} : l.held.card < max → l'.next = l.next + 1 →
      l'.held = (l.next, .reserved) ::ₘ l.held → Step max l (.acquired l.next) l'
  | move {l l' : Ledger} {slot : Nat} {phase phase' : Phase} {e : Event}
      {rest : Multiset (Nat × Phase)} : l.held = (slot, phase) ::ₘ rest →
      Moves slot phase e phase' → l'.next = l.next → l'.held = (slot, phase') ::ₘ rest →
      Step max l e l'
  | release {l l' : Ledger} {slot : Nat} {phase : Phase} {rest : Multiset (Nat × Phase)} :
      l.held = (slot, phase) ::ₘ rest → phase ≠ .opened → l'.next = l.next → l'.held = rest →
      Step max l (.released slot) l'

/-- How many slots the step takes or gives back. -/
theorem Step.card {max : Nat} {l l' : Ledger} {e : Event} (h : Step max l e l') :
    match e with
    | .acquired _ => l'.held.card = l.held.card + 1
    | .released _ => l.held.card = l'.held.card + 1
    | _ => l'.held.card = l.held.card := by
  cases h with
  | quiet => rfl
  | acquire _ _ hheld =>
    show _ = _
    rw [hheld, Multiset.card_cons]
  | move hheld hmove _ hheld' =>
    have hcard : l'.held.card = l.held.card := by rw [hheld, hheld', Multiset.card_cons,
      Multiset.card_cons]
    cases hmove with
    | opens => exact hcard
    | uses => exact hcard
    | closes => exact hcard
  | release hheld _ _ hheld' =>
    show _ = _
    rw [hheld, hheld', Multiset.card_cons]

/-- An open lease stays open until it is closed. -/
theorem Step.opened_stays {max slot : Nat} {l l' : Ledger} {e : Event} (h : Step max l e l')
    (hmem : (slot, .opened) ∈ l.held) (hclosed : e ≠ .closed slot) :
    (slot, .opened) ∈ l'.held := by
  cases h with
  | quiet => exact hmem
  | acquire _ _ hheld =>
    rw [hheld]
    exact Multiset.mem_cons_of_mem hmem
  | move hheld hmove _ hheld' =>
    rw [hheld, Multiset.mem_cons] at hmem
    rw [hheld']
    rcases hmem with heq | hmem
    · cases heq
      cases hmove with
      | uses => exact Multiset.mem_cons_self _ _
      | closes => exact absurd rfl hclosed
    · exact Multiset.mem_cons_of_mem hmem
  | release hheld hphase _ hheld' =>
    rw [hheld, Multiset.mem_cons] at hmem
    rw [hheld']
    rcases hmem with heq | hmem
    · cases heq
      exact absurd rfl hphase
    · exact hmem

theorem Step.opened_mem {max slot : Nat} {l l' : Ledger} (h : Step max l (.opened slot) l') :
    (slot, .opened) ∈ l'.held := by
  cases h with
  | move hheld hmove _ hheld' =>
    cases hmove
    rw [hheld']
    exact Multiset.mem_cons_self _ _

/-- An open lease was open before, or has just been opened. -/
theorem Step.opened_before {max slot : Nat} {l l' : Ledger} {e : Event} (h : Step max l e l')
    (hmem : (slot, .opened) ∈ l'.held) : e = .opened slot ∨ (slot, .opened) ∈ l.held := by
  cases h with
  | quiet => exact .inr hmem
  | acquire _ _ hheld =>
    rw [hheld, Multiset.mem_cons] at hmem
    rcases hmem with heq | hmem
    · cases heq
    · exact .inr hmem
  | move hheld hmove _ hheld' =>
    rw [hheld', Multiset.mem_cons] at hmem
    rw [hheld]
    rcases hmem with heq | hmem
    · cases heq
      cases hmove with
      | opens => exact .inl rfl
      | uses => exact .inr (Multiset.mem_cons_self _ _)
    · exact .inr (Multiset.mem_cons_of_mem hmem)
  | release hheld _ _ hheld' =>
    rw [hheld]
    rw [hheld'] at hmem
    exact .inr (Multiset.mem_cons_of_mem hmem)

/-! ## 2. The history of a slot -/

/-- An event that changes the phase of the slot, takes it or gives it back. -/
def Event.concerns (slot : Nat) : Event → Bool
  | .acquired s | .opened s | .closed s | .released s => s == slot
  | .quiet | .used _ => false

@[simp] theorem Event.concerns_acquired (slot : Nat) : (acquired slot).concerns slot = true :=
  beq_self_eq_true slot

@[simp] theorem Event.concerns_opened (slot : Nat) : (opened slot).concerns slot = true :=
  beq_self_eq_true slot

@[simp] theorem Event.concerns_closed (slot : Nat) : (closed slot).concerns slot = true :=
  beq_self_eq_true slot

@[simp] theorem Event.concerns_released (slot : Nat) : (released slot).concerns slot = true :=
  beq_self_eq_true slot

/-- The events of one slot, in their order. -/
def history (slot : Nat) (events : List Event) : List Event := events.filter (Event.concerns slot)

/-- The history a phase stands for. -/
def Phase.word (slot : Nat) : Phase → List Event
  | .reserved => [.acquired slot]
  | .opened => [.acquired slot, .opened slot]
  | .closed => [.acquired slot, .opened slot, .closed slot]

/-- The two histories of a slot that is held no more: nothing was opened, or it was closed. -/
def Ended (slot : Nat) (word : List Event) : Prop :=
  word = [.acquired slot, .released slot] ∨
    word = [.acquired slot, .opened slot, .closed slot, .released slot]

theorem history_snoc (slot : Nat) (events : List Event) (e : Event) :
    history slot (events ++ [e]) = history slot events ++ history slot [e] :=
  List.filter_append _ _

theorem count_history {slot : Nat} {e : Event} (h : e.concerns slot = true)
    (events : List Event) : (history slot events).count e = events.count e :=
  List.count_filter h

/-- A move adds to the history what leads to the next phase. -/
theorem Moves.word {slot : Nat} {phase phase' : Phase} {e : Event} (h : Moves slot phase e phase') :
    phase'.word slot = phase.word slot ++ history slot [e] := by
  cases h with
  | opens => simp [Phase.word, history, Event.concerns]
  | uses => simp [Phase.word, history, Event.concerns]
  | closes => simp [Phase.word, history, Event.concerns]

/-- A move is no event of another slot. -/
theorem Moves.other {slot other : Nat} {phase phase' : Phase} {e : Event}
    (h : Moves slot phase e phase') (hne : other ≠ slot) : history other [e] = [] := by
  cases h with
  | opens => simp [history, Event.concerns, hne.symm]
  | uses => simp [history, Event.concerns]
  | closes => simp [history, Event.concerns, hne.symm]

/-! ## 3. The accounts -/

/-- What the events so far and the ledger say of each other. -/
structure Accounts (max : Nat) (events : List Event) (l : Ledger) : Prop where
  card_le : l.held.card ≤ max
  nodup : (l.held.map Prod.fst).Nodup
  below : ∀ s phase, (s, phase) ∈ l.held → s < l.next
  held : ∀ s phase, (s, phase) ∈ l.held → history s events = phase.word s
  ended : ∀ s, s < l.next → (∀ phase, (s, phase) ∉ l.held) → Ended s (history s events)
  fresh : ∀ s, l.next ≤ s → history s events = []

theorem accounts_start (max : Nat) : Accounts max [] ⟨0, 0⟩ where
  card_le := Nat.zero_le _
  nodup := Multiset.nodup_zero
  below := fun _ _ h => absurd h (Multiset.notMem_zero _)
  held := fun _ _ h => absurd h (Multiset.notMem_zero _)
  ended := fun _ h => absurd h (Nat.not_lt_zero _)
  fresh := fun _ _ => rfl

variable {max : Nat} {events : List Event} {l l' : Ledger} {e : Event}

/-- Of the slot on top no second entry is below. -/
theorem Accounts.notMem {slot : Nat} {phase : Phase} {rest : Multiset (Nat × Phase)}
    (h : Accounts max events l) (hheld : l.held = (slot, phase) ::ₘ rest) (q : Phase) :
    (slot, q) ∉ rest := by
  have hnodup := h.nodup
  rw [hheld, Multiset.map_cons, Multiset.nodup_cons] at hnodup
  intro hmem
  exact hnodup.1 (Multiset.mem_map.mpr ⟨_, hmem, rfl⟩)

/-- A reserved slot has nothing open. -/
theorem Accounts.not_opened {slot : Nat} (h : Accounts max events l)
    (hreserved : (slot, .reserved) ∈ l.held) : (slot, .opened) ∉ l.held := by
  intro hopened
  have hword := (h.held slot _ hreserved).symm.trans (h.held slot _ hopened)
  simp [Phase.word] at hword

theorem accounts_acquire (h : Accounts max events l) (hcard : l.held.card < max)
    (hnext : l'.next = l.next + 1) (hheld : l'.held = (l.next, .reserved) ::ₘ l.held) :
    Accounts max (events ++ [.acquired l.next]) l' := by
  have other {s : Nat} (hs : s ≠ l.next) : history s [.acquired l.next] = [] := by
    simp [history, Event.concerns, hs.symm]
  refine ⟨?_, ?_, ?_, ?_, ?_, ?_⟩
  · rw [hheld, Multiset.card_cons]
    exact hcard
  · rw [hheld, Multiset.map_cons, Multiset.nodup_cons]
    refine ⟨?_, h.nodup⟩
    intro hmem
    obtain ⟨⟨s, phase⟩, hp, rfl⟩ := Multiset.mem_map.mp hmem
    exact absurd (h.below _ _ hp) (Nat.lt_irrefl _)
  · intro s phase hmem
    rw [hheld, Multiset.mem_cons, Prod.mk.injEq] at hmem
    rcases hmem with ⟨rfl, -⟩ | hmem
    · omega
    · have hlt := h.below s phase hmem
      omega
  · intro s phase hmem
    rw [hheld, Multiset.mem_cons, Prod.mk.injEq] at hmem
    rw [history_snoc]
    rcases hmem with ⟨rfl, rfl⟩ | hmem
    · rw [h.fresh _ (Nat.le_refl _)]
      simp [history, Event.concerns, Phase.word]
    · have hlt := h.below s phase hmem
      rw [other (by omega), List.append_nil]
      exact h.held s phase hmem
  · intro s hs hunheld
    have hne : s ≠ l.next := by
      rintro rfl
      exact hunheld .reserved (by rw [hheld]; exact Multiset.mem_cons_self _ _)
    rw [history_snoc, other hne, List.append_nil]
    refine h.ended s (by omega) fun phase hmem => hunheld phase ?_
    rw [hheld]
    exact Multiset.mem_cons_of_mem hmem
  · intro s hs
    rw [history_snoc, other (by omega), List.append_nil]
    exact h.fresh s (by omega)

theorem accounts_move {slot : Nat} {phase phase' : Phase} {rest : Multiset (Nat × Phase)}
    (h : Accounts max events l) (hheld : l.held = (slot, phase) ::ₘ rest)
    (hmove : Moves slot phase e phase') (hnext : l'.next = l.next)
    (hheld' : l'.held = (slot, phase') ::ₘ rest) : Accounts max (events ++ [e]) l' := by
  have hmem : (slot, phase) ∈ l.held := by
    rw [hheld]
    exact Multiset.mem_cons_self _ _
  have kept {s : Nat} {q : Phase} (hs : (s, q) ∈ rest) : s ≠ slot ∧ (s, q) ∈ l.held := by
    refine ⟨?_, by rw [hheld]; exact Multiset.mem_cons_of_mem hs⟩
    rintro rfl
    exact h.notMem hheld q hs
  refine ⟨?_, ?_, ?_, ?_, ?_, ?_⟩
  · have hle := h.card_le
    rw [hheld, Multiset.card_cons] at hle
    rw [hheld', Multiset.card_cons]
    exact hle
  · have hnodup := h.nodup
    rw [hheld, Multiset.map_cons] at hnodup
    rw [hheld', Multiset.map_cons]
    exact hnodup
  · intro s q hs
    rw [hnext]
    rw [hheld', Multiset.mem_cons, Prod.mk.injEq] at hs
    rcases hs with ⟨rfl, -⟩ | hs
    · exact h.below _ _ hmem
    · exact h.below _ _ (kept hs).2
  · intro s q hs
    rw [hheld', Multiset.mem_cons, Prod.mk.injEq] at hs
    rw [history_snoc]
    rcases hs with ⟨rfl, rfl⟩ | hs
    · rw [h.held _ _ hmem, hmove.word]
    · rw [hmove.other (kept hs).1, List.append_nil]
      exact h.held _ _ (kept hs).2
  · intro s hs hunheld
    have hne : s ≠ slot := by
      rintro rfl
      exact hunheld phase' (by rw [hheld']; exact Multiset.mem_cons_self _ _)
    rw [history_snoc, hmove.other hne, List.append_nil]
    refine h.ended s (hnext ▸ hs) fun q hq => ?_
    rw [hheld, Multiset.mem_cons, Prod.mk.injEq] at hq
    rcases hq with ⟨rfl, -⟩ | hq
    · exact hne rfl
    · exact hunheld q (by rw [hheld']; exact Multiset.mem_cons_of_mem hq)
  · intro s hs
    have hlt := h.below _ _ hmem
    rw [history_snoc, hmove.other (by omega), List.append_nil]
    exact h.fresh s (by omega)

theorem accounts_release {slot : Nat} {phase : Phase} {rest : Multiset (Nat × Phase)}
    (h : Accounts max events l) (hheld : l.held = (slot, phase) ::ₘ rest) (hphase : phase ≠ .opened)
    (hnext : l'.next = l.next) (hheld' : l'.held = rest) :
    Accounts max (events ++ [.released slot]) l' := by
  have hmem : (slot, phase) ∈ l.held := by
    rw [hheld]
    exact Multiset.mem_cons_self _ _
  have other {s : Nat} (hs : s ≠ slot) : history s [.released slot] = [] := by
    simp [history, Event.concerns, hs.symm]
  have kept {s : Nat} {q : Phase} (hs : (s, q) ∈ l'.held) : s ≠ slot ∧ (s, q) ∈ l.held := by
    rw [hheld'] at hs
    refine ⟨?_, by rw [hheld]; exact Multiset.mem_cons_of_mem hs⟩
    rintro rfl
    exact h.notMem hheld q hs
  refine ⟨?_, ?_, ?_, ?_, ?_, ?_⟩
  · have hle := h.card_le
    rw [hheld, Multiset.card_cons] at hle
    rw [hheld']
    omega
  · have hnodup := h.nodup
    rw [hheld, Multiset.map_cons, Multiset.nodup_cons] at hnodup
    rw [hheld']
    exact hnodup.2
  · intro s q hs
    rw [hnext]
    exact h.below _ _ (kept hs).2
  · intro s q hs
    rw [history_snoc, other (kept hs).1, List.append_nil]
    exact h.held _ _ (kept hs).2
  · intro s hs hunheld
    rw [history_snoc]
    by_cases hne : s = slot
    · -- the slot given back: its history ends here
      subst hne
      rw [h.held _ _ hmem]
      cases phase with
      | reserved => exact .inl (by simp [history, Event.concerns, Phase.word])
      | opened => exact absurd rfl hphase
      | closed => exact .inr (by simp [history, Event.concerns, Phase.word])
    · rw [other hne, List.append_nil]
      refine h.ended s (hnext ▸ hs) fun q hq => ?_
      rw [hheld, Multiset.mem_cons, Prod.mk.injEq] at hq
      rcases hq with ⟨rfl, -⟩ | hq
      · exact hne rfl
      · exact hunheld q (by rw [hheld']; exact hq)
  · intro s hs
    have hlt := h.below _ _ hmem
    rw [history_snoc, other (by omega), List.append_nil]
    exact h.fresh s (by omega)

theorem accounts_step (h : Accounts max events l) (hs : Step max l e l') :
    Accounts max (events ++ [e]) l' := by
  cases hs with
  | quiet =>
    have hquiet (s : Nat) : history s (events ++ [.quiet]) = history s events := by
      rw [history_snoc]
      exact List.append_nil _
    refine ⟨h.card_le, h.nodup, h.below, ?_, ?_, ?_⟩
    · intro s phase hmem
      rw [hquiet]
      exact h.held s phase hmem
    · intro s hlt hunheld
      rw [hquiet]
      exact h.ended s hlt hunheld
    · intro s hle
      rw [hquiet]
      exact h.fresh s hle
  | acquire hcard hnext hheld => exact accounts_acquire h hcard hnext hheld
  | move hheld hmove hnext hheld' => exact accounts_move h hheld hmove hnext hheld'
  | release hheld hphase hnext hheld' => exact accounts_release h hheld hphase hnext hheld'

/-- **The accounts hold after every run.** -/
theorem accounts_run (h : Trace (Step max) ⟨0, 0⟩ events l) : Accounts max events l :=
  h.invariant_events (accounts_start max) fun _ _ _ _ _ hacc hs => accounts_step hacc hs

/-! ## 4. What the accounts say -/

/-- The four places of a slot: never given out, held, or given back. -/
theorem Accounts.cases (h : Accounts max events l) (slot : Nat) :
    history slot events = [] ∨ (∃ phase, (slot, phase) ∈ l.held ∧
      history slot events = phase.word slot) ∨ Ended slot (history slot events) := by
  by_cases hheld : ∃ phase, (slot, phase) ∈ l.held
  · obtain ⟨phase, hmem⟩ := hheld
    exact .inr (.inl ⟨phase, hmem, h.held slot phase hmem⟩)
  · rcases Nat.lt_or_ge slot l.next with hlt | hge
    · exact .inr (.inr (h.ended slot hlt fun phase hmem => hheld ⟨phase, hmem⟩))
    · exact .inl (h.fresh slot hge)

/-- **A slot is acquired, its resource opened and closed, and the slot released at most once.** -/
theorem Accounts.count_le_one (h : Accounts max events l) {slot : Nat} {e : Event}
    (he : e.concerns slot = true) : events.count e ≤ 1 := by
  rw [← count_history he]
  refine List.nodup_iff_count_le_one.mp ?_ e
  rcases h.cases slot with hnil | ⟨phase, -, hword⟩ | hword | hword
  · rw [hnil]
    exact List.nodup_nil
  · rw [hword]
    cases phase with
    | reserved => simp [Phase.word]
    | opened => simp [Phase.word]
    | closed => simp [Phase.word]
  · rw [hword]
    simp
  · rw [hword]
    simp

theorem mem_history {slot : Nat} {e : Event} (he : e.concerns slot = true) :
    e ∈ history slot events ↔ e ∈ events := by
  rw [history, List.mem_filter, and_iff_left he]

/-- What was done so far under a slot that is held. -/
theorem Accounts.count_held (h : Accounts max events l) {slot : Nat} {phase : Phase}
    (hmem : (slot, phase) ∈ l.held) :
    events.count (.opened slot) = (if phase = .reserved then 0 else 1) ∧
      events.count (.closed slot) = (if phase = .closed then 1 else 0) ∧
      events.count (.released slot) = 0 := by
  rw [← count_history (Event.concerns_opened slot), ← count_history (Event.concerns_closed slot),
    ← count_history (Event.concerns_released slot), h.held slot phase hmem]
  cases phase with
  | reserved => simp [Phase.word]
  | opened => simp [Phase.word]
  | closed => simp [Phase.word]

/-- Where a history ended, what was opened was closed, and the slot was released once. -/
theorem count_of_ended {slot : Nat} (h : Ended slot (history slot events)) :
    events.count (.closed slot) = events.count (.opened slot) ∧
      events.count (.released slot) = 1 := by
  rw [← count_history (Event.concerns_opened slot), ← count_history (Event.concerns_closed slot),
    ← count_history (Event.concerns_released slot)]
  rcases h with hword | hword
  · rw [hword]
    simp
  · rw [hword]
    simp

/-- **The history of a slot that was acquired and is held no more has ended.** -/
theorem Accounts.ended_of_unheld (h : Accounts max events l) {slot : Nat}
    (hacquired : .acquired slot ∈ events) (hunheld : ∀ phase, (slot, phase) ∉ l.held) :
    Ended slot (history slot events) := by
  have hmem : .acquired slot ∈ history slot events :=
    (mem_history (Event.concerns_acquired slot)).mpr hacquired
  rcases h.cases slot with hnil | ⟨phase, hheld, -⟩ | hended
  · rw [hnil] at hmem
    cases hmem
  · exact absurd hheld (hunheld phase)
  · exact hended

/-- The history of a slot that was released has ended. -/
theorem Accounts.ended_of_released (h : Accounts max events l) {slot : Nat}
    (hreleased : .released slot ∈ events) : Ended slot (history slot events) := by
  have hmem : .released slot ∈ history slot events :=
    (mem_history (Event.concerns_released slot)).mpr hreleased
  rcases h.cases slot with hnil | ⟨phase, hheld, -⟩ | hended
  · rw [hnil] at hmem
    cases hmem
  · exact absurd hreleased (List.count_eq_zero.mp (h.count_held hheld).2.2)
  · exact hended

/-- The slot whose resource the event opens. -/
def Event.opens? : Event → Option Nat
  | .opened slot => some slot
  | _ => none

theorem Event.opens?_eq_some {slot : Nat} : e.opens? = some slot ↔ e = .opened slot := by
  cases e with
  | opened s => simp [Event.opens?]
  | quiet | acquired | used | closed | released => simp [Event.opens?]

/-- The slots whose resource was opened and has not been closed. -/
def openSlots (events : List Event) : List Nat :=
  (events.filterMap Event.opens?).filter fun slot => .closed slot ∉ events

theorem mem_openSlots {slot : Nat} :
    slot ∈ openSlots events ↔ .opened slot ∈ events ∧ .closed slot ∉ events := by
  simp only [openSlots, List.mem_filter, List.mem_filterMap, Event.opens?_eq_some,
    exists_eq_right, decide_eq_true_eq]

theorem Accounts.nodup_openSlots (h : Accounts max events l) : (openSlots events).Nodup := by
  refine List.Nodup.filter _ (List.nodup_iff_count_le_one.mpr fun slot => ?_)
  have hcount : (events.filterMap Event.opens?).count slot = events.count (.opened slot) := by
    rw [List.count_filterMap, List.count]
    congr 1
    funext e
    rw [Bool.eq_iff_iff, beq_iff_eq, beq_iff_eq, Event.opens?_eq_some]
  rw [hcount]
  exact h.count_le_one (Event.concerns_opened slot)

/-- **What is open is held.** -/
theorem Accounts.held_of_open (h : Accounts max events l) {slot : Nat}
    (hopen : slot ∈ openSlots events) : (slot, .opened) ∈ l.held := by
  obtain ⟨hopened, hclosed⟩ := mem_openSlots.mp hopen
  replace hopened : .opened slot ∈ history slot events :=
    (mem_history (Event.concerns_opened slot)).mpr hopened
  replace hclosed : .closed slot ∉ history slot events := fun hmem =>
    hclosed ((mem_history (Event.concerns_closed slot)).mp hmem)
  rcases h.cases slot with hnil | ⟨phase, hmem, hword⟩ | hword | hword
  · rw [hnil] at hopened
    cases hopened
  · rw [hword] at hopened hclosed
    cases phase with
    | reserved => simp [Phase.word] at hopened
    | opened => exact hmem
    | closed => simp [Phase.word] at hclosed
  · rw [hword] at hopened
    simp at hopened
  · rw [hword] at hclosed
    simp at hclosed

/-- **No more is open than is held.** -/
theorem Accounts.length_openSlots_le (h : Accounts max events l) :
    (openSlots events).length ≤ l.held.card := by
  have hsub : (openSlots events : Multiset Nat) ≤ l.held.map Prod.fst := by
    rw [Multiset.le_iff_subset (Multiset.coe_nodup.mpr h.nodup_openSlots)]
    intro slot hslot
    exact Multiset.mem_map.mpr ⟨_, h.held_of_open (Multiset.mem_coe.mp hslot), rfl⟩
  have hcard := Multiset.card_le_card hsub
  rwa [Multiset.coe_card, Multiset.card_map] at hcard

end MatriXpost.Lease
