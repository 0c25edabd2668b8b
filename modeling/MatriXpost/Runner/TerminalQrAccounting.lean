/-
  File:      MatriXpost/Runner/TerminalQrAccounting.lean
  Subject:   NO SLOT IS LOST OR GIVEN BACK TWICE, whatever order the clients' steps come in.

  Every slot is in one place: its attempt is in the map, or a start in flight has it, or whom it
  was taken out for has it, or it was released. `terminal_qr_accounting` says of each place what
  was done to the attempt and to the slot. That an attempt which was taken out is closed and its
  slot released at all is `Pc.finishes`: whom it was taken out for waits for nobody.
-/
import MatriXpost.Runner.TerminalQrLeases

namespace MatriXpost

open Lease (Phase Event)

/-! ## 1. The places of a slot -/

/-- The attempts in the map. -/
def QrWorld.stored (w : QrWorld) : List Nat := w.shared.attempts.entries.map fun e => e.2.attempt

/-- The slot of a start in flight. -/
def Pc.inFlight : Pc → List Nat
  | .startLogin _ slot | .capture _ slot | .insert _ slot _ => [slot]
  | _ => []

/-- The attempts a closer has still to close after the one at hand. -/
def Closer.rest : Closer → List Nat
  | .removeExpired _ rest => rest.map fun record => record.attempt
  | .start _ | .refresh _ | .cancel _ | .expiry => []

/-- The slots of what was removed or has failed, until they are released. -/
def Pc.unreleased : Pc → List Nat
  | .abandon _ slot => [slot]
  | .close closer attempt => attempt :: closer.rest
  | .release closer attempt _ => attempt :: closer.rest
  | _ => []

def QrWorld.inFlight (w : QrWorld) : List Nat := w.threads.flatMap Pc.inFlight

def QrWorld.unreleased (w : QrWorld) : List Nat := w.threads.flatMap Pc.unreleased

theorem openRecords_slots (records : List TerminalQrAttemptRecord) :
    (openRecords records).map Prod.fst = (records.map fun record => record.attempt : List Nat) := by
  simp [openRecords, Function.comp_def]

theorem Closer.holds_slots (closer : Closer) : closer.holds.map Prod.fst = closer.rest := by
  cases closer with
  | removeExpired caller rest => exact openRecords_slots rest
  | start | refresh | cancel | expiry => rfl

/-- What a client or a task holds is in flight or unreleased. -/
theorem Pc.holds_slots (pc : Pc) :
    pc.holds.map Prod.fst = (pc.inFlight : Multiset Nat) + pc.unreleased := by
  cases pc with
  | close closer attempt | release closer attempt closed =>
    simp only [Pc.holds, Pc.inFlight, Pc.unreleased, Multiset.map_cons, Closer.holds_slots,
      Multiset.coe_nil, zero_add, Multiset.cons_coe]
  | _ => rfl

/-- **The slots held are those of the three places.** -/
theorem QrWorld.held_slots (w : QrWorld) :
    w.ledger.held.map Prod.fst = (w.stored ++ (w.inFlight ++ w.unreleased) : List Nat) := by
  have hstored : w.shared.stored.map Prod.fst = (w.stored : Multiset Nat) := by
    unfold TerminalQrAttempts.stored QrWorld.stored
    rw [openRecords_slots, List.map_map]
    rfl
  have hthreads : ((w.threads.map Pc.holds).sum).map Prod.fst =
      (w.inFlight : Multiset Nat) + w.unreleased := by
    unfold QrWorld.inFlight QrWorld.unreleased
    induction w.threads with
    | nil => rfl
    | cons pc rest ih =>
      simp only [List.map_cons, List.sum_cons, Multiset.map_add, ih, Pc.holds_slots,
        List.flatMap_cons, ← Multiset.coe_add]
      exact add_add_add_comm _ _ _ _
  show (w.shared.stored + (w.threads.map Pc.holds).sum).map Prod.fst = _
  rw [Multiset.map_add, hstored, hthreads, Multiset.coe_add, Multiset.coe_add]

/-- An attempt in the map is open. -/
theorem QrWorld.held_of_stored {w : QrWorld} {slot : Nat} (h : slot ∈ w.stored) :
    (slot, Phase.opened) ∈ w.ledger.held := by
  obtain ⟨entry, hentry, rfl⟩ := List.mem_map.mp h
  refine Multiset.mem_add.mpr (.inl ?_)
  exact List.mem_map.mpr ⟨entry.2, List.mem_map.mpr ⟨entry, hentry, rfl⟩, rfl⟩

/-- What a client or a task holds is leased. -/
theorem QrWorld.held_of_thread {w : QrWorld} {pc : Pc} {lease : Nat × Phase}
    (hpc : pc ∈ w.threads) (hlease : lease ∈ pc.holds) : lease ∈ w.ledger.held := by
  obtain ⟨before, after, hthreads⟩ := List.append_of_mem hpc
  refine Multiset.mem_add.mpr (.inr ?_)
  rw [hthreads, List.map_append, List.map_cons, List.sum_append, List.sum_cons]
  exact Multiset.mem_add.mpr (.inr (Multiset.mem_add.mpr (.inl hlease)))

/-- The slot of a start in flight is reserved, or its attempt is open. -/
theorem QrWorld.held_of_inFlight {w : QrWorld} {slot : Nat} (h : slot ∈ w.inFlight) :
    (slot, Phase.reserved) ∈ w.ledger.held ∨ (slot, Phase.opened) ∈ w.ledger.held := by
  obtain ⟨pc, hpc, hslot⟩ := List.mem_flatMap.mp h
  have held {lease : Nat × Phase} (hlease : lease ∈ pc.holds) : lease ∈ w.ledger.held :=
    QrWorld.held_of_thread hpc hlease
  cases pc with
  | startLogin platform s =>
    rw [List.mem_singleton.mp hslot]
    exact .inl (held (Multiset.mem_singleton_self _))
  | capture platform s | insert platform s png =>
    rw [List.mem_singleton.mp hslot]
    exact .inr (held (Multiset.mem_singleton_self _))
  | _ => cases hslot

theorem QrWorld.mem_places {w : QrWorld} {slot : Nat} :
    (∃ phase, (slot, phase) ∈ w.ledger.held) ↔
      slot ∈ w.stored ∨ slot ∈ w.inFlight ∨ slot ∈ w.unreleased := by
  have hslots := congrArg (slot ∈ ·) w.held_slots
  simp only [Multiset.mem_map, Multiset.mem_coe, List.mem_append, eq_iff_iff] at hslots
  rw [← hslots]
  constructor
  · intro h
    obtain ⟨phase, hmem⟩ := h
    exact ⟨_, hmem, rfl⟩
  · intro h
    obtain ⟨⟨s, phase⟩, hmem, rfl⟩ := h
    exact ⟨phase, hmem⟩

/-! ## 2. Whom an attempt was taken out for goes on alone -/

/-- A step of one that spawns nothing, the others standing still. -/
theorem QrWorld.Step.alone {s s' : TerminalQrAttempts} {pc pc' : Pc} {e : Event}
    (before after : List Pc) (h : pc.Step s e s' pc' []) :
    QrWorld.Step ⟨s, before ++ pc :: after⟩ e ⟨s', before ++ pc' :: after⟩ := by
  have hrun : QrWorld.Step ⟨s, before ++ pc :: after⟩ e ⟨s', before ++ pc' :: after ++ []⟩ := .run h
  rwa [List.append_nil] at hrun

/-- The close and the release at hand. -/
theorem close_release (closer : Closer) (attempt : Nat) (closed : Bool) (s : TerminalQrAttempts)
    (before after : List Pc) :
    Trace QrWorld.Step ⟨s, before ++ .close closer attempt :: after⟩
      [.closed attempt, .released attempt]
      ⟨s.releaseSlot, before ++ closer.next closed :: after⟩ := by
  have hclose : Pc.Step s (.close closer attempt) (.closed attempt) s
    (.release closer attempt closed) [] := .close
  exact .cons (.alone before after hclose) (.single (.alone before after .release))

/-- The loop over the expired records comes to its end. -/
theorem closeExpired_finishes (caller : Option Platform) (records : List TerminalQrAttemptRecord)
    (s : TerminalQrAttempts) (before after : List Pc) :
    ∃ es s' pc', Trace QrWorld.Step ⟨s, before ++ closeExpired caller records :: after⟩ es
        ⟨s', before ++ pc' :: after⟩ ∧ pc'.unreleased = [] ∧
      ∀ record ∈ records, .released record.attempt ∈ es := by
  induction records generalizing s with
  | nil =>
    refine ⟨[], s, closeExpired caller [], .nil, ?_, fun _ h => absurd h List.not_mem_nil⟩
    cases caller with
    | none => rfl
    | some platform => rfl
  | cons record rest ih =>
    obtain ⟨es, s', pc', hrest, hpc', hreleased⟩ := ih s.releaseSlot
    have hfirst := close_release (.removeExpired caller rest) record.attempt true s before after
    refine ⟨_, s', pc', hfirst.append hrest, hpc', fun found hfound => ?_⟩
    rcases List.mem_cons.mp hfound with rfl | hfound
    · simp
    · exact List.mem_append_right _ (hreleased found hfound)

theorem next_finishes (closer : Closer) (closed : Bool) (s : TerminalQrAttempts)
    (before after : List Pc) :
    ∃ es s' pc', Trace QrWorld.Step ⟨s, before ++ closer.next closed :: after⟩ es
        ⟨s', before ++ pc' :: after⟩ ∧ pc'.unreleased = [] ∧
      ∀ slot ∈ closer.rest, .released slot ∈ es := by
  cases closer with
  | removeExpired caller rest =>
    obtain ⟨es, s', pc', hrun, hpc', hreleased⟩ := closeExpired_finishes caller rest s before after
    refine ⟨es, s', pc', hrun, hpc', fun slot hslot => ?_⟩
    obtain ⟨record, hrecord, rfl⟩ := List.mem_map.mp hslot
    exact hreleased record hrecord
  | start | refresh | expiry =>
    exact ⟨[], s, _, .nil, rfl, fun _ h => absurd h List.not_mem_nil⟩
  | cancel platform =>
    refine ⟨[], s, _, .nil, ?_, fun _ h => absurd h List.not_mem_nil⟩
    cases closed with
    | false => rfl
    | true => rfl

/-- **Whoever has slots to release does so, by steps of his own.** -/
theorem Pc.finishes (pc : Pc) (s : TerminalQrAttempts) (before after : List Pc) :
    ∃ es s' pc', Trace QrWorld.Step ⟨s, before ++ pc :: after⟩ es ⟨s', before ++ pc' :: after⟩ ∧
      pc'.unreleased = [] ∧ ∀ slot ∈ pc.unreleased, .released slot ∈ es := by
  cases pc with
  | abandon platform slot =>
    refine ⟨_, _, _, .single (.alone before after .abandon), rfl, fun found hfound => ?_⟩
    rw [List.mem_singleton.mp hfound]
    exact List.mem_singleton_self _
  | close closer attempt =>
    obtain ⟨es, s', pc', hrest, hpc', hreleased⟩ :=
      next_finishes closer true s.releaseSlot before after
    have hfirst := close_release closer attempt true s before after
    refine ⟨_, s', pc', hfirst.append hrest, hpc', fun slot hslot => ?_⟩
    rcases List.mem_cons.mp hslot with rfl | hslot
    · simp
    · exact List.mem_append_right _ (hreleased slot hslot)
  | release closer attempt closed =>
    obtain ⟨es, s', pc', hrest, hpc', hreleased⟩ :=
      next_finishes closer closed s.releaseSlot before after
    refine ⟨_, s', pc', .cons (.alone before after .release) hrest, hpc', fun slot hslot => ?_⟩
    rcases List.mem_cons.mp hslot with rfl | hslot
    · exact List.mem_cons_self
    · exact List.mem_cons_of_mem _ (hreleased slot hslot)
  | _ => exact ⟨[], s, _, .nil, rfl, fun _ h => absurd h List.not_mem_nil⟩

/-! ## 3. Unknown tokens -/

/-- No attempt of the platform is stored under the token. -/
def TerminalQrAttempts.Unknown (s : TerminalQrAttempts) (platform : Platform) (token : String) :
    Prop := ∀ record, s.attempts.lookup token = some record → record.platform ≠ platform

theorem refreshSection_unknown {s : TerminalQrAttempts} {platform : Platform} {token : String}
    (h : s.Unknown platform token) (now : Nat) (captured : Option String) :
    refreshSection s platform token now captured =
      (s, .quiet, .done (some (terminalQrRejected platform))) := by
  cases hresult : refreshSection s platform token now captured with
  | mk s' rest =>
    have houtcome := refreshSection_outcome s platform token now captured
    rw [hresult] at houtcome
    cases houtcome with
    | unknown => rfl
    | captured hrecord hplatform | expired hrecord hplatform | failed hrecord hplatform =>
      exact absurd hplatform (h _ hrecord)

theorem cancelSection_unknown {s : TerminalQrAttempts} {platform : Platform} {token : String}
    (h : s.Unknown platform token) :
    cancelSection s platform token = (s, .done (some (terminalQrRejected platform))) := by
  unfold cancelSection
  split
  · rename_i record hrecord
    rw [if_neg (h record hrecord)]
  · rfl

/-- **A refresh or a cancel of an unknown token, or of another platform's, does nothing.** -/
theorem unknown_unchanged {s s' : TerminalQrAttempts} {platform : Platform} {token : String}
    {pc pc' : Pc} {e : Event} {spawned : List Pc} (h : s.Unknown platform token)
    (hpc : pc = .refresh platform token ∨ pc = .cancel platform token)
    (hstep : pc.Step s e s' pc' spawned) :
    e = .quiet ∧ s' = s ∧ pc' = .done (some (terminalQrRejected platform)) ∧ spawned = [] := by
  rcases hpc with rfl | rfl
  · cases hstep with
    | refresh =>
      rw [refreshSection_unknown h]
      exact ⟨rfl, rfl, rfl, rfl⟩
  · cases hstep with
    | cancel =>
      rw [cancelSection_unknown h]
      exact ⟨rfl, rfl, rfl, rfl⟩

/-! ## 4. The accounts of every run -/

/-- What the clients' run says of one slot, by its place. -/
structure SlotAccount (w : QrWorld) (events : List Event) (slot : Nat) : Prop where
  /-- Nothing happens to a slot or its attempt twice. -/
  once : events.count (.opened slot) ≤ 1 ∧ events.count (.closed slot) ≤ 1 ∧
    events.count (.released slot) ≤ 1
  stored : slot ∈ w.stored → events.count (.opened slot) = 1 ∧
    events.count (.closed slot) = 0 ∧ events.count (.released slot) = 0
  inFlight : slot ∈ w.inFlight → events.count (.closed slot) = 0 ∧
    events.count (.released slot) = 0
  unreleased : slot ∈ w.unreleased → events.count (.closed slot) ≤ events.count (.opened slot) ∧
    events.count (.released slot) = 0
  /-- In no place: what was started is closed, and the slot was released. -/
  gone : .acquired slot ∈ events → slot ∉ w.stored → slot ∉ w.inFlight → slot ∉ w.unreleased →
    events.count (.closed slot) = events.count (.opened slot) ∧ events.count (.released slot) = 1

theorem slotAccount {w : QrWorld} {events : List Event}
    (h : Lease.Accounts terminalQrMaxActiveAttempts events w.ledger) (slot : Nat) :
    SlotAccount w events slot where
  once := ⟨h.count_le_one (Event.concerns_opened slot), h.count_le_one (Event.concerns_closed slot),
    h.count_le_one (Event.concerns_released slot)⟩
  stored := fun hslot => h.count_held (QrWorld.held_of_stored hslot)
  inFlight := fun hslot => by
    rcases QrWorld.held_of_inFlight hslot with hmem | hmem
    · exact (h.count_held hmem).2
    · exact (h.count_held hmem).2
  unreleased := fun hslot => by
    obtain ⟨phase, hmem⟩ := QrWorld.mem_places.mpr (.inr (.inr hslot))
    obtain ⟨hopened, hclosed, hreleased⟩ := h.count_held hmem
    refine ⟨?_, hreleased⟩
    rw [hopened, hclosed]
    cases phase with
    | reserved | opened | closed => decide
  gone := fun hacquired hstored hinFlight hunreleased => by
    refine Lease.count_of_ended (h.ended_of_unheld hacquired fun phase hmem => ?_)
    rcases QrWorld.mem_places.mp ⟨phase, hmem⟩ with hslot | hslot | hslot
    · exact hstored hslot
    · exact hinFlight hslot
    · exact hunreleased hslot

/-- The counter is the sum over the places, and no slot is in two of them. -/
theorem reservedSlots_eq {w : QrWorld} {events : List Event}
    (h : Lease.Accounts terminalQrMaxActiveAttempts events w.ledger) (hw : w.Counted) :
    w.shared.reservedSlots = w.stored.length + w.inFlight.length + w.unreleased.length ∧
      (w.stored ++ (w.inFlight ++ w.unreleased)).Nodup := by
  have hslots := w.held_slots
  constructor
  · have hcard := congrArg Multiset.card hslots
    rw [Multiset.card_map, Multiset.coe_card, List.length_append, List.length_append] at hcard
    rw [hw.reservedSlots, hcard]
    omega
  · have hnodup := h.nodup
    rwa [hslots, Multiset.coe_nodup] at hnodup

/-- A release finds the counter above zero and takes one off. -/
theorem release_counts {w w' : QrWorld} {slot : Nat} (hw : w.Counted)
    (h : w.Step (.released slot) w') :
    0 < w.shared.reservedSlots ∧ w'.shared.reservedSlots + 1 = w.shared.reservedSlots := by
  obtain ⟨hlease, hw'⟩ := QrWorld.Step.lease hw h
  have hcard : w.ledger.held.card = w'.ledger.held.card + 1 := hlease.card
  rw [hw.reservedSlots, hw'.reservedSlots, hcard]
  exact ⟨Nat.succ_pos _, rfl⟩

/-- What has still to be released is, by steps of whom it was taken out for alone, and once. -/
theorem released_once {lifetime : Nat} {events : List Event} {w : QrWorld}
    (h : Trace QrWorld.Step (.initial lifetime) events w) {before after : List Pc} {pc : Pc}
    (hthreads : w.threads = before ++ pc :: after) :
    ∃ es w', Trace QrWorld.Step w es w' ∧ ∀ slot ∈ pc.unreleased,
      (events ++ es).count (.closed slot) = (events ++ es).count (.opened slot) ∧
        (events ++ es).count (.released slot) = 1 := by
  obtain ⟨shared, threads⟩ := w
  obtain rfl : threads = before ++ pc :: after := hthreads
  obtain ⟨es, s', pc', hrun, -, hreleased⟩ := pc.finishes shared before after
  have hacc := Lease.accounts_run (run_leases (h.append hrun)).1
  refine ⟨es, _, hrun, fun slot hslot => ?_⟩
  exact Lease.count_of_ended
    (hacc.ended_of_released (List.mem_append_right _ (hreleased slot hslot)))

/-- **The accounts of the terminal's QR attempts**, after any steps of any clients in any order. -/
theorem terminal_qr_accounting {lifetime : Nat} {events : List Event} {w : QrWorld}
    (h : Trace QrWorld.Step (.initial lifetime) events w) :
    (Lease.openSlots events).length ≤ w.shared.reservedSlots ∧
    w.shared.reservedSlots ≤ terminalQrMaxActiveAttempts ∧
    w.shared.reservedSlots = w.stored.length + w.inFlight.length + w.unreleased.length ∧
    (w.stored ++ (w.inFlight ++ w.unreleased)).Nodup ∧
    (∀ slot, SlotAccount w events slot) ∧
    (∀ before pc after, w.threads = before ++ pc :: after →
      ∃ es w', Trace QrWorld.Step w es w' ∧ ∀ slot ∈ pc.unreleased,
        (events ++ es).count (.closed slot) = (events ++ es).count (.opened slot) ∧
          (events ++ es).count (.released slot) = 1) ∧
    (∀ slot w', w.Step (.released slot) w' →
      0 < w.shared.reservedSlots ∧ w'.shared.reservedSlots + 1 = w.shared.reservedSlots) ∧
    ∀ platform token pc e s' pc' spawned, w.shared.Unknown platform token →
      (pc = .refresh platform token ∨ pc = .cancel platform token) →
      Pc.Step w.shared pc e s' pc' spawned →
      e = .quiet ∧ s' = w.shared ∧ pc' = .done (some (terminalQrRejected platform)) ∧
        spawned = [] := by
  obtain ⟨hrun, hw⟩ := run_leases h
  have hacc := Lease.accounts_run hrun
  have hopen := hacc.length_openSlots_le
  have hbound := hacc.card_le
  rw [← hw.reservedSlots] at hopen hbound
  obtain ⟨hsum, hnodup⟩ := reservedSlots_eq hacc hw
  refine ⟨hopen, hbound, hsum, hnodup, slotAccount hacc, ?_, ?_, ?_⟩
  · intro before pc after hthreads
    exact released_once h hthreads
  · intro slot w' hstep
    exact release_counts hw hstep
  · intro platform token pc e s' pc' spawned hunknown hpc hstep
    exact unknown_unchanged hunknown hpc hstep

def sampleToken : String := "0123456789abcdefghijABCDEFGHIJXY"

def sampleStored : TerminalQrAttempts :=
  { reservedSlots := 1, lifetime := 900, reservations := 1,
    attempts := AList.insert sampleToken ⟨.douyin, 7, 0⟩ ∅ }

def sampleAvailable : TerminalQrLoginRunnerResponse := .qrAvailable 1 .douyin sampleToken "iVBOR"

/-- A client has started an attempt, and another one has cancelled it. -/
def sampleCancelled : QrWorld :=
  ⟨(sampleStored.remove sampleToken).releaseSlot,
    [.done (some sampleAvailable), .expire sampleToken, .done (some (.cancelled 1 .douyin))]⟩

def sampleStart : List Event :=
  [.quiet, .quiet, .quiet, .acquired 0, .opened 0, .used 0, .quiet, .quiet]

def sampleCancel : List Event := [.quiet, .quiet, .closed 0, .released 0]

theorem sampleStart_run : Trace QrWorld.Step (.initial 900) sampleStart
    ⟨sampleStored, [.done (some sampleAvailable), .expire sampleToken]⟩ := by
  refine .cons (.enter (.start .douyin)) ?_
  refine .cons (.alone [] [] (@Pc.Step.removeExpired _ _ 0 [] (.refl []))) ?_
  refine .cons (.alone [] [] .load) ?_
  refine .cons (.alone [] [] .exchange) ?_
  refine .cons (.alone [] [] (@Pc.Step.startLogin _ _ .douyin _)) ?_
  refine .cons (.alone [] [] (@Pc.Step.capture _ _ _ "iVBOR")) ?_
  refine .cons (.alone [] [] (@Pc.Step.insert _ _ _ 7 _ sampleToken ?_ (by decide))) ?_
  · exact AList.notMem_empty sampleToken
  · exact .single (@QrWorld.Step.run _ _ _ _ _ _ [] [] .schedule)

theorem sampleCancel_run : Trace QrWorld.Step
    ⟨sampleStored, [.done (some sampleAvailable), .expire sampleToken]⟩ sampleCancel
    sampleCancelled := by
  have hlookup : sampleStored.attempts.lookup sampleToken = some ⟨.douyin, 7, 0⟩ :=
    AList.lookup_insert _
  have hsection : cancelSection sampleStored .douyin sampleToken =
      (sampleStored.remove sampleToken, .close (.cancel .douyin) 0) := by
    simp only [cancelSection, hlookup, if_true]
  have hcancel : Pc.Step sampleStored (.cancel .douyin sampleToken) .quiet
    (cancelSection sampleStored .douyin sampleToken).1
    (cancelSection sampleStored .douyin sampleToken).2 [] := .cancel
  rw [hsection] at hcancel
  refine .cons (.enter (.cancel .douyin sampleToken)) ?_
  refine .cons (.alone [.done (some sampleAvailable), .expire sampleToken] [] hcancel) ?_
  exact close_release (.cancel .douyin) 0 true _
    [.done (some sampleAvailable), .expire sampleToken] []

theorem terminal_qr_accounting_sample :
    (Lease.openSlots (sampleStart ++ sampleCancel)).length
      ≤ sampleCancelled.shared.reservedSlots ∧
    sampleCancelled.shared.reservedSlots ≤ terminalQrMaxActiveAttempts ∧
    (sampleStart ++ sampleCancel).count (.closed 0) = 1 ∧
    (sampleStart ++ sampleCancel).count (.released 0) = 1 := by
  have haccounting := terminal_qr_accounting (sampleStart_run.append sampleCancel_run)
  exact ⟨haccounting.1, haccounting.2.1, by decide, by decide⟩

end MatriXpost
