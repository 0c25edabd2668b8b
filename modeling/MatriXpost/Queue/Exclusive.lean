/-
  File:      MatriXpost/Queue/Exclusive.lean
  Subject:   CLAIM EXCLUSIVITY OF THE VIDEO QUEUE, over every interleaving of any number of
             repository instances.

  The revision column is an optimistic version (`queue_versioned`), so the library's rule for
  versions applies to runs of the queue. `claims_exclusive` puts the four parts together: a
  claimed pair of job and revision goes to one call, a presented pair is accepted once, a
  success raises exactly the jobs it names, and a dispatching job is not claimed.
-/
import MatriXpost.Queue.Run

namespace MatriXpost

/-- The revision of a job in the database. -/
def revisionOf (w : QueueWorld) (id : String) : Option Nat :=
  (w.store.jobs.find? id).map (·.revision)

theorem revisionOf_eq_some {w : QueueWorld} {id : String} {v : Nat} :
    revisionOf w id = some v ↔ ∃ row, w.store.jobs.find? id = some row ∧ row.revision = v := by
  simp [revisionOf]

/-- The rows of `ids` go up by one revision, every other row stays. -/
def RaisesExactly (s s' : Store) (ids : List String) : Prop :=
  (∀ id ∈ ids, ∃ row row', s.jobs.find? id = some row ∧ s'.jobs.find? id = some row' ∧
    row'.revision = row.revision + 1) ∧
  ∀ id, id ∉ ids → s'.jobs.find? id = s.jobs.find? id

section Steps
variable {w w' : QueueWorld} {e : Nat × QueueEvent}

/-- A write of existing rows raises exactly these. -/
theorem raisesExactly_of_jobs {s s' : Store} {ids : List String} {next : PublishState}
    {now : DateTime} (hrows : ∀ id ∈ ids, ∃ row, s.jobs.find? id = some row)
    (hjobs : s'.jobs = (videoQueue.raise s ids next now).jobs) : RaisesExactly s s' ids := by
  unfold RaisesExactly
  rw [hjobs]
  refine ⟨fun id hid => ?_, fun id hid => QueueTable.find?_raise_of_not_mem (q := videoQueue) hid⟩
  obtain ⟨row, hrow⟩ := hrows id hid
  exact ⟨row, QueueTable.advanced next now row, hrow,
    QueueTable.find?_raise_of_mem (q := videoQueue) hrow hid, rfl⟩

/-- A winning step raises exactly the jobs it wins. -/
theorem raisesExactly_of_wins (h : QueueStep w e w') (hne : e.2.wins ≠ []) :
    RaisesExactly w.store w'.store (e.2.wins.map Prod.fst) := by
  cases queueStep_cases h with
  | same hnil => exact absurd hnil hne
  | inserted job row hnil => exact absurd hnil hne
  | raised next now hn hwins hjobs =>
    refine raisesExactly_of_jobs (fun id hid => ?_) hjobs
    obtain ⟨⟨k, v⟩, hmem, rfl⟩ := List.mem_map.mp hid
    obtain ⟨row, current, hrow, -⟩ := hwins k v hmem
    exact ⟨row, hrow⟩

/-- A successful claim raises exactly the jobs it returns, to the revisions it returns. -/
theorem claim_raises {n : Nat} {due : LocalSchedule} {now : DateTime} {limit : Nat}
    {claimed : List ScheduledJob} (h : QueueStep w (n, .claim due now limit (.ok claimed)) w') :
    RaisesExactly w.store w'.store (claimed.map (·.id)) ∧
      ∀ job ∈ claimed, revisionOf w' job.id = some job.revision := by
  cases h with
  | claim h =>
    obtain ⟨-, hjobs, -, rfl⟩ := QueueTable.claim_jobs (q := videoQueue) h
    refine ⟨raisesExactly_of_jobs (fun id hid => ?_) rfl, fun job hjob => ?_⟩
    · obtain ⟨job, hjob, rfl⟩ := List.mem_map.mp hid
      obtain ⟨row, current, hrow, -⟩ := hjobs job hjob
      exact ⟨row, hrow⟩
    · obtain ⟨row, current, hrow, hread, -, rfl⟩ := hjobs job hjob
      refine revisionOf_eq_some.mpr ⟨QueueTable.advanced .dispatching now row, ?_, ?_⟩
      · exact QueueTable.find?_raise_of_mem (q := videoQueue) hrow (List.mem_map_of_mem hjob)
      · rw [QueueTable.advanced_revision, ← (QueueTable.rowToJob_ok hread).2.2.1]
        rfl

/-- A claim returns each job once, and none that is not queued. -/
theorem claimed_queued (h : QueueStep w e w') :
    e.2.claimed.Nodup ∧ ∀ pair ∈ e.2.claimed, ∃ row, w.store.jobs.find? pair.1 = some row ∧
      row.state = PublishState.queued.db := by
  obtain ⟨n, event⟩ := e
  cases event with
  | claim due now limit reply =>
    cases reply with
    | error e => exact ⟨List.nodup_nil, fun pair hpair => by cases hpair⟩
    | ok jobs =>
      cases h with
      | claim h =>
        obtain ⟨hn, hjobs, -⟩ := QueueTable.claim_jobs (q := videoQueue) h
        refine ⟨?_, fun pair hpair => ?_⟩
        · refine List.Nodup.of_map Prod.fst ?_
          rw [QueueEvent.claimed, List.map_map]
          exact hn
        · obtain ⟨job, hjob, rfl⟩ := List.mem_map.mp hpair
          obtain ⟨row, current, hrow, hread, hstate, -⟩ := hjobs job hjob
          exact ⟨row, hrow, hstate ▸ (QueueTable.rowToJob_ok hread).2.1⟩
  | _ => exact ⟨List.nodup_nil, fun pair hpair => by cases hpair⟩

/-- **The revision column is an optimistic version.** -/
theorem queue_versioned : Versioned QueueStep revisionOf fun e => e.2.wins where
  distinct := by
    intro w e w' h
    cases queueStep_cases h with
    | same hnil => exact hnil ▸ List.nodup_nil
    | inserted job row hnil => exact hnil ▸ List.nodup_nil
    | raised next now hn => exact hn.of_map Prod.fst
  present := by
    intro w e w' h id v hmem
    cases queueStep_cases h with
    | same hnil => exact absurd hmem (hnil ▸ List.not_mem_nil)
    | inserted job row hnil => exact absurd hmem (hnil ▸ List.not_mem_nil)
    | raised next now hn hwins =>
      obtain ⟨row, current, hrow, hread, hrev, -⟩ := hwins id v hmem
      exact revisionOf_eq_some.mpr ⟨row, hrow, (QueueTable.rowToJob_ok hread).2.2.1 ▸ hrev⟩
  raised := by
    intro w e w' h id v hmem
    cases queueStep_cases h with
    | same hnil => exact absurd hmem (hnil ▸ List.not_mem_nil)
    | inserted job row hnil => exact absurd hmem (hnil ▸ List.not_mem_nil)
    | raised next now hn hwins hjobs =>
      obtain ⟨row, current, hrow, hread, hrev, -⟩ := hwins id v hmem
      have hv : row.revision = v := (QueueTable.rowToJob_ok hread).2.2.1 ▸ hrev
      refine revisionOf_eq_some.mpr ⟨QueueTable.advanced next now row, ?_, by simp [hv]⟩
      rw [hjobs]
      exact QueueTable.find?_raise_of_mem (q := videoQueue) hrow (List.mem_map_of_mem hmem)
  kept := by
    intro w e w' h id v hv hmem
    obtain ⟨row, hrow, hrev⟩ := revisionOf_eq_some.mp hv
    cases queueStep_cases h with
    | same hnil hjobs => rw [revisionOf, hjobs, ← revisionOf, hv]
    | inserted job row' hnil hto hins =>
      exact revisionOf_eq_some.mpr ⟨row, Table.find?_insert_of_some hins hrow, hrev⟩
    | raised next now hn hwins hjobs =>
      refine revisionOf_eq_some.mpr ⟨row, ?_, hrev⟩
      rw [hjobs]
      refine (QueueTable.find?_raise_of_not_mem (q := videoQueue) fun hid => hmem ?_).trans hrow
      -- Won at all, it would have been won at the revision it has.
      obtain ⟨⟨k, u⟩, hku, rfl⟩ := List.mem_map.mp hid
      obtain ⟨row', current, hrow', hread, hrev', -⟩ := hwins k u hku
      rw [hrow] at hrow'
      cases hrow'
      have hu : row.revision = u := (QueueTable.rowToJob_ok hread).2.2.1 ▸ hrev'
      rwa [← hrev, hu]

theorem wins_of_presented {event : QueueEvent} {id : String} {expected : Nat}
    (hp : event.presented = some (id, expected)) (hs : event.succeeded = true) :
    event.wins = [(id, expected)] := by
  cases event with
  | transition id' expected' next now reply =>
    cases reply with
    | error e => cases hs
    | ok job =>
      cases hp
      rfl
  | complete id' expected' next now detail reply =>
    cases reply with
    | error e => cases hs
    | ok pair =>
      cases hp
      rfl
  | requeue id' expected' now reply =>
    cases reply with
    | error e => cases hs
    | ok job =>
      cases hp
      rfl
  | allocate request now reply => cases hp
  | insert job reply => cases hp
  | claim due now limit reply => cases hp
  | recordDispatch request report now reply => cases hp
  | append record reply => cases hp

theorem wins_of_claimed_pair {event : QueueEvent} {pair : String × Nat}
    (h : pair ∈ event.claimed) : (pair.1, pair.2 - 1) ∈ event.wins := by
  cases event with
  | claim due now limit reply =>
    cases reply with
    | error e => cases h
    | ok jobs =>
      obtain ⟨job, hjob, rfl⟩ := List.mem_map.mp h
      exact List.mem_map.mpr ⟨job, hjob, rfl⟩
  | _ => cases h

end Steps

/-- **Claim exclusivity.** In every run:
    (a) a pair of job and revision that claims return is returned by one call, once;
    (b) of the calls that present one pair of job and revision at most one succeeds;
    (c) in every further step a success raises exactly the job it names, a claim exactly the
        jobs it returns, and a failure leaves jobs and history as they were;
    (d) and a claim returns no job that is dispatching. -/
theorem claims_exclusive {events : List (Nat × QueueEvent)} {w : QueueWorld}
    (h : Trace QueueStep .initial events w) :
    (∀ (i j : Nat) (e₁ e₂ : Nat × QueueEvent) (pair : String × Nat),
      events[i]? = some e₁ → events[j]? = some e₂ →
      pair ∈ e₁.2.claimed → pair ∈ e₂.2.claimed → i = j) ∧
    (∀ e ∈ events, e.2.claimed.Nodup) ∧
    (∀ (i j : Nat) (e₁ e₂ : Nat × QueueEvent) (pair : String × Nat),
      events[i]? = some e₁ → events[j]? = some e₂ →
      e₁.2.presented = some pair → e₂.2.presented = some pair →
      e₁.2.succeeded = true → e₂.2.succeeded = true → i = j) ∧
    (∀ (e : Nat × QueueEvent) (w' : QueueWorld), QueueStep w e w' →
      (∀ id expected, e.2.presented = some (id, expected) → e.2.succeeded = true →
        revisionOf w id = some expected ∧ RaisesExactly w.store w'.store [id]) ∧
      (∀ due now limit claimed, e.2 = .claim due now limit (.ok claimed) →
        RaisesExactly w.store w'.store (claimed.map (·.id)) ∧
        ∀ job ∈ claimed, revisionOf w' job.id = some job.revision) ∧
      (e.2.succeeded = false →
        w'.store.jobs = w.store.jobs ∧ w'.store.history = w.store.history) ∧
      (∀ id row, w.store.jobs.find? id = some row →
        row.state = PublishState.dispatching.db → ∀ pair ∈ e.2.claimed, pair.1 ≠ id)) := by
  refine ⟨fun i j e₁ e₂ pair h₁ h₂ hp₁ hp₂ => ?_, fun e he => ?_,
    fun i j e₁ e₂ pair h₁ h₂ hp₁ hp₂ hs₁ hs₂ => ?_, fun e w' hstep => ⟨?_, ?_, ?_, ?_⟩⟩
  · exact queue_versioned.win_position h h₁ h₂ (wins_of_claimed_pair hp₁) (wins_of_claimed_pair hp₂)
  · obtain ⟨before, after, rfl⟩ := List.append_of_mem he
    obtain ⟨w₁, w₂, -, hstep, -⟩ := h.at_event
    exact (claimed_queued hstep).1
  · refine queue_versioned.win_position h h₁ h₂ (p := pair) ?_ ?_
    · rw [wins_of_presented hp₁ hs₁]
      exact List.mem_singleton_self pair
    · rw [wins_of_presented hp₂ hs₂]
      exact List.mem_singleton_self pair
  · intro id expected hp hs
    have hwins := wins_of_presented hp hs
    refine ⟨queue_versioned.present _ _ _ hstep id expected ?_, ?_⟩
    · rw [hwins]
      exact List.mem_singleton_self _
    · have hr := raisesExactly_of_wins hstep (by rw [hwins]; simp)
      rwa [hwins] at hr
  · intro due now limit claimed he
    obtain ⟨n, event⟩ := e
    cases he
    exact claim_raises hstep
  · exact queueStep_error hstep
  · rintro id row hrow hstate pair hpair rfl
    obtain ⟨row', hrow', hqueued⟩ := (claimed_queued hstep).2 pair hpair
    rw [hrow] at hrow'
    cases hrow'
    rw [hstate, PublishState.db_inj] at hqueued
    cases hqueued

/-- One instance enqueues, another claims: exactly that job goes up by one. -/
theorem claims_exclusive_sample : RaisesExactly sampleQueued sampleClaimed ["job-1"] := by
  have hstep := (claims_exclusive sample_enqueued).2.2.2 (2, _) ⟨sampleClaimed, []⟩
    (.claim sample_claim)
  exact (hstep.2.1 sampleDue sampleNow 5 _ rfl).1

end MatriXpost
