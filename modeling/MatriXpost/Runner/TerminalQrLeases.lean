/-
  File:      MatriXpost/Runner/TerminalQrLeases.lean
  Subject:   THE ATTEMPT TABLE'S SLOTS ARE LEASES, in every run of its clients.

  `QrWorld.ledger` forgets everything but who holds which slot: the map, a start in flight, or
  whom an attempt was taken out for. Each step is a step of the leases and the counter goes with it
  (`QrWorld.Step.lease`), so every run is one of the leases (`run_leases`) and the library's
  accounts are those of the table.
-/
import MatriXpost.Runner.TerminalQrAttempts
import Mathlib.Algebra.Order.Group.Multiset

namespace MatriXpost

open Lease (Phase)

/-! ## 1. Who holds a slot -/

/-- The started attempts of some records. -/
def openRecords (records : List TerminalQrAttemptRecord) : Multiset (Nat × Phase) :=
  records.map fun record => (record.attempt, Phase.opened)

/-- The attempts in the map. -/
def TerminalQrAttempts.stored (s : TerminalQrAttempts) : Multiset (Nat × Phase) :=
  openRecords (s.attempts.entries.map Sigma.snd)

def Closer.holds : Closer → Multiset (Nat × Phase)
  | .removeExpired _ rest => openRecords rest
  | .start _ | .refresh _ | .cancel _ | .expiry => 0

/-- The slots a client or a task holds, and what has been done under each. -/
def Pc.holds : Pc → Multiset (Nat × Phase)
  | .startLogin _ slot | .abandon _ slot => {(slot, .reserved)}
  | .capture _ slot | .insert _ slot _ => {(slot, .opened)}
  | .close closer attempt => (attempt, .opened) ::ₘ closer.holds
  | .release closer attempt _ => (attempt, .closed) ::ₘ closer.holds
  | .removeExpired _ | .load _ | .exchange _ _ | .schedule _ _ | .refresh _ _ | .cancel _ _
  | .expire _ | .done _ => 0

/-- **Who holds which slot**: the leases of the table. -/
def QrWorld.ledger (w : QrWorld) : Lease.Ledger :=
  ⟨w.shared.reservations, w.shared.stored + (w.threads.map Pc.holds).sum⟩

/-- The value an exchange asks for leaves a slot free. -/
def Pc.Valid : Pc → Prop
  | .exchange _ slots => slots < terminalQrMaxActiveAttempts
  | _ => True

/-- The counter counts the slots held. -/
structure QrWorld.Counted (w : QrWorld) : Prop where
  reservedSlots : w.shared.reservedSlots = w.ledger.held.card
  valid : ∀ pc ∈ w.threads, pc.Valid

@[simp] theorem openRecords_cons (record : TerminalQrAttemptRecord)
    (rest : List TerminalQrAttemptRecord) :
    openRecords (record :: rest) = (record.attempt, .opened) ::ₘ openRecords rest := rfl

@[simp] theorem closeExpired_holds (caller : Option Platform)
    (records : List TerminalQrAttemptRecord) :
    (closeExpired caller records).holds = openRecords records := by
  cases records with
  | cons record rest => rfl
  | nil =>
    cases caller with
    | none => rfl
    | some platform => rfl

@[simp] theorem reserve_holds (platform : Platform) (slots : Nat) :
    (reserve platform slots).holds = 0 := by
  unfold reserve
  split
  · rfl
  · rfl

@[simp] theorem next_holds (closer : Closer) (closed : Bool) :
    (closer.next closed).holds = closer.holds := by
  cases closer with
  | removeExpired caller rest => exact closeExpired_holds caller rest
  | start | refresh | expiry => rfl
  | cancel platform =>
    cases closed with
    | false => rfl
    | true => rfl

/-- What is taken out of the map was stored. -/
theorem stored_remove {s : TerminalQrAttempts} {token : String} {record : TerminalQrAttemptRecord}
    (h : s.attempts.lookup token = some record) :
    s.stored = (record.attempt, .opened) ::ₘ (s.remove token).stored := by
  have hmem : token ∈ s.attempts.entries.keys :=
    AList.mem_keys.mp (AList.lookup_isSome.mp (by rw [h]; rfl))
  obtain ⟨found, front, back, -, hentries, herase⟩ := List.exists_of_kerase hmem
  have hfound : s.attempts.lookup token = some found :=
    AList.mem_lookup_iff.mpr (by rw [hentries]; exact List.mem_append_right _ List.mem_cons_self)
  rw [h] at hfound
  obtain rfl := Option.some.inj hfound
  have hremoved : (s.remove token).attempts.entries = front ++ back := herase
  unfold TerminalQrAttempts.stored
  rw [hremoved, hentries]
  simp [openRecords, ← Multiset.coe_add, ← Multiset.cons_coe]

theorem stored_removeAll (tokens : List String) (s : TerminalQrAttempts) :
    s.stored = openRecords (TerminalQrAttempts.removeAll tokens s).1 +
      (TerminalQrAttempts.removeAll tokens s).2.stored := by
  induction tokens generalizing s with
  | nil => exact (zero_add _).symm
  | cons token tokens ih =>
    unfold TerminalQrAttempts.removeAll
    split
    · exact ih s
    · rename_i record h
      rw [openRecords_cons, Multiset.cons_add, ← ih, ← stored_remove h]

theorem stored_insert {s : TerminalQrAttempts} {token : String}
    (h : token ∉ s.attempts) (record : TerminalQrAttemptRecord) :
    { s with attempts := s.attempts.insert token record }.stored =
      (record.attempt, .opened) ::ₘ s.stored := by
  rw [TerminalQrAttempts.stored, AList.entries_insert_of_notMem h]
  rfl

/-! ## 2. What a step does to the leases -/

@[simp] theorem releaseSlot_stored (s : TerminalQrAttempts) : s.releaseSlot.stored = s.stored := by
  unfold TerminalQrAttempts.releaseSlot
  split
  · rfl
  · rfl

@[simp] theorem releaseSlot_reservations (s : TerminalQrAttempts) :
    s.releaseSlot.reservations = s.reservations := by
  unfold TerminalQrAttempts.releaseSlot
  split
  · rfl
  · rfl

@[simp] theorem removeAll_reservations (tokens : List String) (s : TerminalQrAttempts) :
    (TerminalQrAttempts.removeAll tokens s).2.reservations = s.reservations := by
  induction tokens generalizing s with
  | nil => rfl
  | cons token tokens ih =>
    unfold TerminalQrAttempts.removeAll
    split
    · exact ih s
    · exact ih (s.remove token)

section Leases

variable {s s' : TerminalQrAttempts} {pc pc' : Pc} {others : Multiset (Nat × Phase)}

/-- The leases of the map and of one client, among those of the others. -/
def leases (s : TerminalQrAttempts) (pc : Pc) (others : Multiset (Nat × Phase)) : Lease.Ledger :=
  ⟨s.reservations, s.stored + pc.holds + others⟩

theorem lease_quiet {max : Nat} (hnext : s'.reservations = s.reservations)
    (hheld : s'.stored + pc'.holds = s.stored + pc.holds) :
    Lease.Step max (leases s pc others) .quiet (leases s' pc' others) := by
  unfold leases
  rw [hnext, hheld]
  exact .quiet

theorem lease_move {max slot : Nat} {phase phase' : Phase} {e : Lease.Event}
    {rest : Multiset (Nat × Phase)} (hmove : Lease.Moves slot phase e phase')
    (hnext : s'.reservations = s.reservations)
    (hheld : s.stored + pc.holds = (slot, phase) ::ₘ rest)
    (hheld' : s'.stored + pc'.holds = (slot, phase') ::ₘ rest) :
    Lease.Step max (leases s pc others) e (leases s' pc' others) := by
  have hbefore : (leases s pc others).held = (slot, phase) ::ₘ (rest + others) := by
    unfold leases
    rw [hheld, Multiset.cons_add]
  have hafter : (leases s' pc' others).held = (slot, phase') ::ₘ (rest + others) := by
    unfold leases
    rw [hheld', Multiset.cons_add]
  exact .move hbefore hmove hnext hafter

theorem lease_release {max slot : Nat} {phase : Phase} (hphase : phase ≠ .opened)
    (hnext : s'.reservations = s.reservations)
    (hheld : s.stored + pc.holds = (slot, phase) ::ₘ (s'.stored + pc'.holds)) :
    Lease.Step max (leases s pc others) (.released slot) (leases s' pc' others) := by
  have hbefore : (leases s pc others).held =
      (slot, phase) ::ₘ (s'.stored + pc'.holds + others) := by
    unfold leases
    rw [hheld, Multiset.cons_add]
  exact .release hbefore hphase hnext rfl

theorem add_single (held : Multiset (Nat × Phase)) (lease : Nat × Phase) :
    held + {lease} = lease ::ₘ held := by rw [add_comm, Multiset.singleton_add]

/-- What was taken out of the map is held by whom took it. -/
theorem removed_holds {token : String} {record : TerminalQrAttemptRecord} {closer : Closer}
    (hrecord : s.attempts.lookup token = some record) (hcloser : closer.holds = 0) :
    (s.remove token).stored + (Pc.close closer record.attempt).holds = s.stored := by
  rw [stored_remove hrecord, Pc.holds, hcloser, Multiset.add_cons, add_zero]

theorem lease_removal {max : Nat} {token : String} {closer : Closer}
    {result : TerminalQrAttempts × Pc} (h : RemovalOutcome s token closer result)
    (hpc : pc.holds = 0) (hcloser : closer.holds = 0) :
    Lease.Step max (leases s pc others) .quiet (leases result.1 result.2 others) := by
  cases h with
  | kept =>
    refine lease_quiet rfl ?_
    rw [hpc]
    rfl
  | removed hrecord =>
    refine lease_quiet rfl ?_
    rw [removed_holds hrecord hcloser, hpc, add_zero]

theorem lease_refresh {max : Nat} {token : String} {platform : Platform}
    {result : TerminalQrAttempts × Lease.Event × Pc} (h : RefreshOutcome s platform token result) :
    Lease.Step max (leases s (.refresh platform token) others) result.2.1
      (leases result.1 result.2.2 others) := by
  cases h with
  | unknown => exact lease_quiet rfl rfl
  | captured hrecord =>
    have hstored := (add_zero _).trans (stored_remove hrecord)
    exact lease_move .uses rfl hstored hstored
  | expired hrecord =>
    exact lease_quiet rfl ((removed_holds hrecord rfl).trans (add_zero _).symm)
  | failed hrecord =>
    refine lease_move .uses rfl ((add_zero _).trans (stored_remove hrecord)) ?_
    exact (removed_holds hrecord rfl).trans (stored_remove hrecord)

/-- **A step of one client or task is a step of the leases.** -/
theorem Pc.Step.lease {e : Lease.Event} {spawned : List Pc} (h : pc.Step s e s' pc' spawned)
    (hvalid : pc.Valid) (hcount : s.reservedSlots = (leases s pc others).held.card) :
    Lease.Step terminalQrMaxActiveAttempts (leases s pc others) e (leases s' pc' others) := by
  cases h with
  | @removeExpired caller now tokens _ =>
    refine lease_quiet (removeAll_reservations tokens s) ?_
    rw [closeExpired_holds, add_comm, ← stored_removeAll]
    exact (add_zero _).symm
  | load => exact lease_quiet rfl (by rw [reserve_holds]; rfl)
  | exchange =>
    refine .acquire ?_ rfl ?_
    · rw [← hcount]
      exact hvalid
    · show s.stored + {_} + others = (_ ::ₘ (s.stored + 0 + others))
      rw [add_single, Multiset.cons_add, add_zero]
      rfl
  | exchangeFails => exact lease_quiet rfl (by rw [reserve_holds]; rfl)
  | startLogin =>
    refine lease_move .opens rfl (add_single _ _) ?_
    split
    · exact add_single _ _
    · exact add_single _ _
  | startLoginFails => exact lease_quiet rfl rfl
  | capture => exact lease_move .uses rfl (add_single _ _) (add_single _ _)
  | captureFails => exact lease_move .uses rfl (add_single _ _) (add_single _ _)
  | insert htoken =>
    refine lease_quiet rfl ?_
    rw [stored_insert htoken]
    exact (add_zero _).trans (add_single _ _).symm
  | schedule => exact lease_quiet rfl rfl
  | abandon =>
    refine lease_release (show Phase.reserved ≠ .opened by decide) (releaseSlot_reservations s) ?_
    rw [releaseSlot_stored]
    exact (add_single _ _).trans (congrArg _ (add_zero _).symm)
  | refresh => exact lease_refresh (refreshSection_outcome _ _ _ _ _)
  | cancel => exact lease_removal (cancelSection_outcome _ _ _) rfl rfl
  | expire => exact lease_removal (expirySection_outcome _ _ _) rfl rfl
  | close => exact lease_move .closes rfl (Multiset.add_cons _ _ _) (Multiset.add_cons _ _ _)
  | release =>
    refine lease_release (show Phase.closed ≠ .opened by decide) (releaseSlot_reservations s) ?_
    rw [releaseSlot_stored, next_holds]
    exact Multiset.add_cons _ _ _

end Leases

/-! ## 3. The counter -/

@[simp] theorem removeAll_reservedSlots (tokens : List String) (s : TerminalQrAttempts) :
    (TerminalQrAttempts.removeAll tokens s).2.reservedSlots = s.reservedSlots := by
  induction tokens generalizing s with
  | nil => rfl
  | cons token tokens ih =>
    unfold TerminalQrAttempts.removeAll
    split
    · exact ih s
    · exact ih (s.remove token)

theorem RemovalOutcome.reservedSlots {s : TerminalQrAttempts} {token : String} {closer : Closer}
    {result : TerminalQrAttempts × Pc} (h : RemovalOutcome s token closer result) :
    result.1.reservedSlots = s.reservedSlots ∧ result.2.Valid := by
  cases h with
  | kept => exact ⟨rfl, trivial⟩
  | removed => exact ⟨rfl, trivial⟩

/-- What a step does to the counter. -/
def Counts (s s' : TerminalQrAttempts) : Lease.Event → Prop
  | .acquired _ => s'.reservedSlots = s.reservedSlots + 1
  | .released _ => s' = s.releaseSlot
  | _ => s'.reservedSlots = s.reservedSlots

theorem RefreshOutcome.counts {s : TerminalQrAttempts} {platform : Platform} {token : String}
    {result : TerminalQrAttempts × Lease.Event × Pc} (h : RefreshOutcome s platform token result) :
    Counts s result.1 result.2.1 ∧ result.2.2.Valid := by
  cases h with
  | unknown => exact ⟨rfl, trivial⟩
  | captured => exact ⟨rfl, trivial⟩
  | expired => exact ⟨rfl, trivial⟩
  | failed => exact ⟨rfl, trivial⟩

theorem closeExpired_valid (caller : Option Platform) (records : List TerminalQrAttemptRecord) :
    (closeExpired caller records).Valid := by
  cases records with
  | cons => trivial
  | nil =>
    cases caller with
    | none => trivial
    | some => trivial

theorem reserve_valid (platform : Platform) (slots : Nat) : (reserve platform slots).Valid := by
  unfold reserve
  split
  · trivial
  · rename_i hslots
    exact Nat.lt_of_not_le hslots

theorem next_valid (closer : Closer) (closed : Bool) : (closer.next closed).Valid := by
  cases closer with
  | removeExpired caller rest => exact closeExpired_valid caller rest
  | start | refresh | expiry => trivial
  | cancel =>
    cases closed with
    | false => trivial
    | true => trivial

/-- **The counter goes with the leases**; an exchange is only tried where a slot was free. -/
theorem Pc.Step.counts {s s' : TerminalQrAttempts} {pc pc' : Pc} {e : Lease.Event}
    {spawned : List Pc} (h : pc.Step s e s' pc' spawned) : Counts s s' e ∧ pc'.Valid := by
  cases h with
  | @removeExpired caller now tokens _ =>
    exact ⟨removeAll_reservedSlots tokens s, closeExpired_valid _ _⟩
  | load => exact ⟨rfl, reserve_valid _ _⟩
  | exchange => exact ⟨rfl, trivial⟩
  | exchangeFails => exact ⟨rfl, reserve_valid _ _⟩
  | startLogin =>
    refine ⟨rfl, ?_⟩
    split
    · trivial
    · trivial
  | startLoginFails | capture | captureFails | insert | schedule | abandon | close =>
    exact ⟨rfl, trivial⟩
  | refresh => exact (refreshSection_outcome _ _ _ _ _).counts
  | cancel => exact (cancelSection_outcome _ _ _).reservedSlots
  | expire => exact (expirySection_outcome _ _ _).reservedSlots
  | release => exact ⟨rfl, next_valid _ _⟩

/-- A task that was spawned holds no slot. -/
theorem Pc.Step.spawned {s s' : TerminalQrAttempts} {pc pc' : Pc} {e : Lease.Event}
    {spawned : List Pc} (h : pc.Step s e s' pc' spawned) :
    (spawned.map Pc.holds).sum = 0 ∧ ∀ p ∈ spawned, p.Valid := by
  cases h with
  | schedule =>
    refine ⟨rfl, fun p hp => ?_⟩
    obtain rfl := List.mem_singleton.mp hp
    trivial
  | _ => exact ⟨rfl, fun p hp => absurd hp List.not_mem_nil⟩

/-! ## 4. Every run is a run of leases -/

theorem releaseSlot_succ {s : TerminalQrAttempts} {slots : Nat}
    (h : s.reservedSlots = slots + 1) : s.releaseSlot.reservedSlots = slots := by
  unfold TerminalQrAttempts.releaseSlot
  rw [h]

/-- A counter that counts the leases goes on counting them. -/
theorem Counts.card {s s' : TerminalQrAttempts} {e : Lease.Event} {max : Nat} {l l' : Lease.Ledger}
    (h : Counts s s' e) (hlease : Lease.Step max l e l') (hcount : s.reservedSlots = l.held.card) :
    s'.reservedSlots = l'.held.card := by
  have hcard := hlease.card
  cases e with
  | acquired =>
    have h : s'.reservedSlots = s.reservedSlots + 1 := h
    rw [h, hcount]
    exact hcard.symm
  | released =>
    have h : s' = s.releaseSlot := h
    rw [h]
    exact releaseSlot_succ (hcount.trans hcard)
  | quiet | opened | used | closed =>
    have h : s'.reservedSlots = s.reservedSlots := h
    rw [h, hcount]
    exact hcard.symm

theorem ledger_split (s : TerminalQrAttempts) (pc : Pc) (before after spawned : List Pc)
    (h : (spawned.map Pc.holds).sum = 0) :
    QrWorld.ledger ⟨s, before ++ pc :: after ++ spawned⟩ =
      leases s pc ((before.map Pc.holds).sum + (after.map Pc.holds).sum) := by
  unfold QrWorld.ledger leases
  simp only [List.map_append, List.map_cons, List.sum_append, List.sum_cons, h, add_zero]
  rw [add_left_comm (List.map Pc.holds before).sum, add_assoc s.stored]

/-- **Every step of the table is a step of the leases, and the counter goes on counting them.** -/
theorem QrWorld.Step.lease {w w' : QrWorld} {e : Lease.Event} (hw : w.Counted)
    (h : w.Step e w') :
    Lease.Step terminalQrMaxActiveAttempts w.ledger e w'.ledger ∧ w'.Counted := by
  cases h with
  | enter call =>
    have hpc : call.pc.holds = 0 ∧ call.pc.Valid := by
      cases call with
      | start | refresh | cancel | removeExpired => exact ⟨rfl, trivial⟩
    have hledger : QrWorld.ledger { w with threads := w.threads ++ [call.pc] } = w.ledger := by
      simp [QrWorld.ledger, hpc.1]
    refine ⟨hledger ▸ .quiet, ?_, ?_⟩
    · rw [hledger]
      exact hw.reservedSlots
    · intro pc hmem
      rcases List.mem_append.mp hmem with hmem | hmem
      · exact hw.valid pc hmem
      · rw [List.mem_singleton.mp hmem]
        exact hpc.2
  | @run s s' pc pc' e spawned before after hstep =>
    have hbefore := ledger_split s pc before after [] rfl
    rw [List.append_nil] at hbefore
    have hafter := ledger_split s' pc' before after spawned hstep.spawned.1
    have hcount := hw.reservedSlots
    rw [hbefore] at hcount ⊢
    have hlease := hstep.lease (hw.valid pc (List.mem_append_right _ List.mem_cons_self)) hcount
    rw [hafter]
    refine ⟨hlease, ?_, ?_⟩
    · rw [hafter]
      exact hstep.counts.1.card hlease hcount
    · intro p hmem
      rcases List.mem_append.mp hmem with hmem | hmem
      · rcases List.mem_append.mp hmem with hmem | hmem
        · exact hw.valid p (List.mem_append_left _ hmem)
        · rcases List.mem_cons.mp hmem with rfl | hmem
          · exact hstep.counts.2
          · exact hw.valid p (List.mem_append_right _ (List.mem_cons_of_mem _ hmem))
      · exact hstep.spawned.2 p hmem

/-- **Every run of the table is a run of the leases.** -/
theorem run_leases {lifetime : Nat} {events : List Lease.Event} {w : QrWorld}
    (h : Trace QrWorld.Step (.initial lifetime) events w) :
    Trace (Lease.Step terminalQrMaxActiveAttempts) ⟨0, 0⟩ events w.ledger ∧ w.Counted := by
  have hstart : (QrWorld.initial lifetime).ledger = ⟨0, 0⟩ := rfl
  have hcounted : (QrWorld.initial lifetime).Counted :=
    ⟨rfl, fun pc hpc => absurd hpc List.not_mem_nil⟩
  have hstep (w₁ : QrWorld) (e : Lease.Event) (w₂ : QrWorld) (l : Lease.Ledger)
      (hl : w₁.ledger = l ∧ w₁.Counted) (hs : w₁.Step e w₂) :
      ∃ l', Lease.Step terminalQrMaxActiveAttempts l e l' ∧ w₂.ledger = l' ∧ w₂.Counted := by
    obtain ⟨rfl, hw⟩ := hl
    obtain ⟨hlease, hw'⟩ := QrWorld.Step.lease hw hs
    exact ⟨_, hlease, rfl, hw'⟩
  obtain ⟨l, hrun, rfl, hw⟩ := h.simulates (R := fun w l => w.ledger = l ∧ w.Counted)
    ⟨hstart, hcounted⟩ hstep
  exact ⟨hrun, hw⟩

end MatriXpost
