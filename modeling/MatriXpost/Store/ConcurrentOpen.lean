/-
  File:      MatriXpost/Store/ConcurrentOpen.lean
  Subject:   TWO PROCESSES OPEN ONE FILE: which interleavings of their migrations succeed.

  Sources: `SqliteRepository::open` and `migrate` of `storage.rs`, `migrate` of
  `storage/articles.rs`.

  The version is asked for outside the batch that needs it. `Undisturbed` says of a call that
  acts on such an answer that the answer still holds. `Opening.Stands` lists where a process may
  be in its migration and what it then knows about the file; a call takes its process on and
  leaves the other one where it is (`stands_call`, `Opening.Stands.stable`).

  **`concurrent_opens_exact`**: both processes open the file, at version 9 and with all rows,
  exactly if every call of the run is undisturbed.
-/
import MatriXpost.Store.VersionNine
import MatriXpost.Lib.Pair

namespace MatriXpost

namespace Opening

abbrev OpenProgram := Prog MigrateCall MigrateReply (Except DomainError Unit)

/-! ## 1. Where a process stands -/

/-- The answer a call relies on still holds: the version it is about to make is not recorded. -/
def Undisturbed (e : PairEvent MigrateCall (Catalog SqlValue)) : Prop :=
  match e.call with
  | .batch version => e.met.hasVersion version = .ok false
  | .selectHistory | .convertHistory _ => e.met.hasVersion 9 = .ok false
  | _ => True

instance (e : PairEvent MigrateCall (Catalog SqlValue)) : Decidable (Undisturbed e) :=
  match e with
  | ⟨met, .batch version⟩ => inferInstanceAs (Decidable (met.hasVersion version = .ok false))
  | ⟨met, .selectHistory⟩ => inferInstanceAs (Decidable (met.hasVersion 9 = .ok false))
  | ⟨met, .convertHistory _⟩ => inferInstanceAs (Decidable (met.hasVersion 9 = .ok false))
  | ⟨_, .base⟩ => .isTrue trivial
  | ⟨_, .hasVersion _⟩ => .isTrue trivial

/-- The versions from this one on that have a batch. -/
def versionsFrom (next : Nat) : List Nat := List.range' next (9 - next)

/-- Where a process may be, when the file is at this version. -/
inductive Stands (version : Nat) (db : Catalog SqlValue) : OpenProgram → Prop
  | start :
      Stands version db (.call .base fun r =>
        (Talk.lift r >>= fun _ => migrateFrom (versionsFrom 4)).run)
  | asking {next : Nat} : 4 ≤ next → next ≤ 8 → next ≤ version + 1 →
      Stands version db (.call (.hasVersion next) fun r =>
        ((Talk.lift r >>= fun found => if found then pure () else batch next) >>= fun _ =>
          migrateFrom (versionsFrom (next + 1))).run)
  | missing {next : Nat} : 4 ≤ next → next ≤ 8 → next ≤ version + 1 →
      Stands version db (.call (.batch next) fun r =>
        (Talk.lift r >>= fun _ => migrateFrom (versionsFrom (next + 1))).run)
  | askingLast : 8 ≤ version →
      Stands version db (.call (.hasVersion 9) fun r =>
        (Talk.lift r >>= fun found => if found then pure () else migrateHistory).run)
  | reading : 8 ≤ version →
      Stands version db (.call .selectHistory fun r =>
        (Talk.lift r >>= fun legacy => do
          Talk.lift (← Talk.ask (.convertHistory legacy)) : MigrateFlow Unit).run)
  | converting {legacy : List LegacyRow} : 8 ≤ version →
      (version = 8 → selectHistory db = .ok legacy) →
      Stands version db (.call (.convertHistory legacy) fun r => .ret r)
  | done : version = 9 → Stands version db (.ret (.ok ()))
  | failed (e : DomainError) : Stands version db (.ret (.error e))

section Stands
variable {version : Nat} {db : Catalog SqlValue}

theorem stands_migrate : Stands version db migrate.run := .start

theorem versionsFrom_succ {next : Nat} (hnext : next < 9) :
    versionsFrom next = next :: versionsFrom (next + 1) := by
  unfold versionsFrom
  rw [show 9 - next = (9 - (next + 1)) + 1 by omega, List.range'_succ]

/-- The next query, behind a version that is there. -/
theorem stands_from {next : Nat} (hlow : 4 ≤ next) (hhigh : next ≤ 9) (hnext : next ≤ version + 1) :
    Stands version db (migrateFrom (versionsFrom next)).run := by
  by_cases hlast : next = 9
  · subst hlast
    exact .askingLast (by omega)
  · rw [versionsFrom_succ (by omega)]
    exact .asking hlow (by omega) hnext

/-- What one process knows stays true while the other one takes the file on. -/
theorem Stands.stable {version' : Nat} {db' : Catalog SqlValue} {p : OpenProgram}
    (h : Stands version db p) (hle : version ≤ version') (hrange : version' ≤ 9)
    (hsame : version' = version → db' = db) : Stands version' db' p := by
  cases h with
  | start => exact .start
  | asking hlow hhigh hnext => exact .asking hlow hhigh (by omega)
  | missing hlow hhigh hnext => exact .missing hlow hhigh (by omega)
  | askingLast hlow => exact .askingLast (by omega)
  | reading hlow => exact .reading (by omega)
  | converting hlow hread =>
    refine .converting (by omega) fun height => ?_
    rw [hsame (by omega)]
    exact hread (by omega)
  | done hnine => exact .done (by omega)
  | failed e => exact .failed e

end Stands

/-! ## 2. One call -/

/-- What a call does: it takes the file on, or leaves it; its process goes on, or fails. -/
structure Advances (parse : String → Except DomainError Json) (version : Nat)
    (db db' : Catalog SqlValue) (p : OpenProgram) (undisturbed : Prop) : Prop where
  next : ∃ version', version ≤ version' ∧ AtVersion parse version' db' ∧ Stands version' db' p ∧
    (version' = version → db' = db)
  verdict : undisturbed ↔ ∀ e, p ≠ .ret (.error e)

section Calls
variable {parse : String → Except DomainError Json} {version : Nat} {db : Catalog SqlValue}

/-- A query leaves the file as it is. -/
theorem advances_query {p : OpenProgram} (hdb : AtVersion parse version db)
    (hp : Stands version db p) (hok : ∀ e, p ≠ .ret (.error e)) :
    Advances parse version db db p True :=
  ⟨⟨version, Nat.le_refl _, hdb, hp, fun _ => rfl⟩, iff_of_true trivial hok⟩

/-- A call that fails leaves the file as it is, and ends its process. -/
theorem advances_failed {e : DomainError} {undisturbed : Prop} (hdb : AtVersion parse version db)
    (hdisturbed : ¬ undisturbed) : Advances parse version db db (.ret (.error e)) undisturbed :=
  ⟨⟨version, Nat.le_refl _, hdb, .failed e, fun _ => rfl⟩,
    iff_of_false hdisturbed fun h => h e rfl⟩

/-- A batch that takes the file to its next version. -/
theorem advances_batch {version' : Nat} {db' : Catalog SqlValue} {p : OpenProgram}
    {undisturbed : Prop} (hlt : version < version') (hdb' : AtVersion parse version' db')
    (hp : Stands version' db' p) (hundisturbed : undisturbed) (hok : ∀ e, p ≠ .ret (.error e)) :
    Advances parse version db db' p undisturbed :=
  ⟨⟨version', Nat.le_of_lt hlt, hdb', hp, fun he => absurd he (by omega)⟩,
    iff_of_true hundisturbed hok⟩

theorem from_not_failed {next : Nat} (e : DomainError) :
    (migrateFrom (versionsFrom next)).run ≠ .ret (.error e) := by
  unfold versionsFrom
  cases List.range' next (9 - next) with
  | nil => exact fun h => by cases h
  | cons version rest => exact fun h => by cases h

/-- **One call of a process.**  It goes on exactly if the call is undisturbed. -/
theorem stands_call (hdb : AtVersion parse version db) {c : MigrateCall}
    {k : MigrateReply c → OpenProgram} (h : Stands version db (.call c k)) :
    Advances parse version db (performMigrate parse c db).2 (k (performMigrate parse c db).1)
      (Undisturbed ⟨db, c⟩) := by
  have hrange := hdb.range
  cases h with
  | start =>
    show Advances parse version db
      (committed (databaseResult (runAll baseBatch db)) db).2
      ((Talk.lift (committed (databaseResult (runAll baseBatch db)) db).1 >>= fun _ =>
        migrateFrom (versionsFrom 4)).run) True
    rcases hrange with rfl | ⟨hlow, hhigh⟩
    · obtain ⟨db', hrun, hdb'⟩ := base_fresh hdb
      rw [hrun]
      exact advances_batch (by omega) hdb' (stands_from (by omega) (by omega) (by omega)) trivial
        fun e => from_not_failed e
    · rw [base_again hdb hlow]
      exact advances_query hdb (stands_from (by omega) (by omega) (by omega))
        fun e => from_not_failed e
  | @asking next hlow hhigh hnext =>
    show Advances parse version db db
      (((Talk.lift (db.hasVersion next) >>= fun found => if found then pure () else batch next)
        >>= fun _ => migrateFrom (versionsFrom (next + 1))).run) True
    rw [hdb.hasVersion (by omega)]
    by_cases hfound : 2 ≤ next ∧ next ≤ version
    · rw [decide_eq_true hfound]
      exact advances_query hdb (stands_from (by omega) (by omega) (by omega))
        fun e => from_not_failed e
    · rw [decide_eq_false hfound]
      exact advances_query hdb (.missing hlow hhigh hnext) fun e he => by cases he
  | @missing next hlow hhigh hnext =>
    show Advances parse version db
      (committed (databaseResult (runAll (versionBatch next) db)) db).2
      ((Talk.lift (committed (databaseResult (runAll (versionBatch next) db)) db).1 >>= fun _ =>
        migrateFrom (versionsFrom (next + 1))).run) (db.hasVersion next = .ok false)
    rw [hdb.hasVersion (by omega)]
    by_cases hfound : 2 ≤ next ∧ next ≤ version
    · obtain ⟨e, hrun⟩ := version_again hdb (by omega) hfound
      rw [hrun, decide_eq_true hfound]
      exact advances_failed hdb fun he => by cases he
    · obtain rfl : next = version + 1 := by omega
      obtain ⟨db', hrun, hdb'⟩ := version_next hdb (by omega) (by omega)
      rw [hrun, decide_eq_false hfound]
      exact advances_batch (by omega) hdb' (stands_from (by omega) (by omega) (by omega)) rfl
        fun e => from_not_failed e
  | askingLast hlow =>
    show Advances parse version db db
      ((Talk.lift (db.hasVersion 9) >>= fun found =>
        if found then pure () else migrateHistory).run) True
    rw [hdb.hasVersion (by omega)]
    by_cases hfound : 2 ≤ 9 ∧ 9 ≤ version
    · rw [decide_eq_true hfound]
      exact advances_query hdb (.done (by omega)) fun e he => by cases he
    · rw [decide_eq_false hfound]
      exact advances_query hdb (.reading hlow) fun e he => by cases he
  | reading hlow =>
    show Advances parse version db db
      ((Talk.lift (selectHistory db) >>= fun legacy => do
        Talk.lift (← Talk.ask (.convertHistory legacy)) : MigrateFlow Unit).run)
      (db.hasVersion 9 = .ok false)
    rw [hdb.hasVersion (by omega)]
    by_cases hfound : 2 ≤ 9 ∧ 9 ≤ version
    · obtain rfl : version = 9 := by omega
      obtain ⟨e, hselect⟩ := select_again hdb
      rw [hselect, decide_eq_true hfound]
      exact advances_failed hdb fun he => by cases he
    · obtain rfl : version = 8 := by omega
      obtain ⟨legacy, hselect⟩ := select_next hdb
      rw [hselect, decide_eq_false hfound]
      refine ⟨⟨8, Nat.le_refl _, hdb, .converting (by omega) fun _ => hselect, fun _ => rfl⟩, ?_⟩
      exact iff_of_true rfl fun e he => by cases he
  | @converting legacy hlow hread =>
    show Advances parse version db (committed (convertHistory parse legacy db) db).2
      (.ret (committed (convertHistory parse legacy db) db).1) (db.hasVersion 9 = .ok false)
    rw [hdb.hasVersion (by omega)]
    by_cases hfound : 2 ≤ 9 ∧ 9 ≤ version
    · obtain rfl : version = 9 := by omega
      obtain ⟨e, hconvert⟩ := convert_again hdb legacy
      rw [hconvert, decide_eq_true hfound]
      exact advances_failed hdb fun he => by cases he
    · obtain rfl : version = 8 := by omega
      obtain ⟨db', hconvert, hdb'⟩ := convert_next hdb (hread rfl)
      rw [hconvert, decide_eq_false hfound]
      exact advances_batch (by omega) hdb' (.done rfl) rfl fun e he => by cases he

end Calls

/-! ## 3. Runs -/

section Runs
variable {parse : String → Except DomainError Json} {version : Nat} {db db₀ : Catalog SqlValue}

/-- What holds of the file and of each process in every run. -/
structure Underway (parse : String → Except DomainError Json) (db₀ db : Catalog SqlValue)
    (p : OpenProgram) : Prop where
  stands : ∃ version, AtVersion parse version db ∧ Stands version db p
  rows : RowsStay db₀ db

/-- **Each call keeps it**, for its own process and for the other. -/
theorem underway_call {c : MigrateCall} {k : MigrateReply c → OpenProgram}
    (h : Underway parse db₀ db (.call c k)) :
    Underway parse db₀ (performMigrate parse c db).2 (k (performMigrate parse c db).1) ∧
      ∀ q, Underway parse db₀ db q → Underway parse db₀ (performMigrate parse c db).2 q := by
  obtain ⟨version, hdb, hstands⟩ := h.stands
  obtain ⟨version', hle, hdb', hnext, hsame⟩ := (stands_call hdb hstands).next
  have hrows : RowsStay db₀ (performMigrate parse c db).2 :=
    h.rows.trans (perform_rowsStay c db)
  refine ⟨⟨⟨version', hdb', hnext⟩, hrows⟩, fun q hq => ⟨⟨version', hdb', ?_⟩, hrows⟩⟩
  obtain ⟨other, hother, hq⟩ := hq.stands
  obtain rfl := hdb.unique hother
  have hrange := hdb'.range
  exact hq.stable hle (by omega) hsame

/-- A call that is disturbed ends its process with an error. -/
theorem disturbed_call {c : MigrateCall} {k : MigrateReply c → OpenProgram}
    (h : Underway parse db₀ db (.call c k)) (hdisturbed : ¬ Undisturbed ⟨db, c⟩) :
    ∃ e, k (performMigrate parse c db).1 = .ret (.error e) := by
  obtain ⟨version, hdb, hstands⟩ := h.stands
  by_contra hgoes
  exact hdisturbed ((stands_call hdb hstands).verdict.mpr fun e he => hgoes ⟨e, he⟩)

theorem underway_start (hdb : AtVersion parse version db) : Underway parse db db migrate.run :=
  ⟨⟨version, hdb, stands_migrate⟩, .refl db⟩

variable {w : Pair MigrateCall MigrateReply (Catalog SqlValue) (Except DomainError Unit)}
  {events : List (PairEvent MigrateCall (Catalog SqlValue))}
  {first second : Except DomainError Unit}

/-- **Undisturbed processes do not fail.** -/
theorem undisturbed_run (hdb : AtVersion parse version db)
    (h : Trace (PairStep (performMigrate parse)) ⟨db, migrate.run, migrate.run⟩ events w)
    (hevents : ∀ e ∈ events, Undisturbed e) :
    (Underway parse db w.state w.left ∧ ∀ e, w.left ≠ .ret (.error e)) ∧
      (Underway parse db w.state w.right ∧ ∀ e, w.right ≠ .ret (.error e)) := by
  have hstart : Underway parse db db migrate.run ∧ ∀ e, migrate.run ≠ .ret (.error e) :=
    ⟨underway_start hdb, fun e he => by cases he⟩
  refine pair_invariant (fun db' p => Underway parse db db' p ∧ ∀ e, p ≠ .ret (.error e))
    Undisturbed ?_ h hevents hstart hstart
  intro db' c k hunderway hundisturbed
  obtain ⟨hown, hother⟩ := underway_call hunderway.1
  obtain ⟨version, hdb', hstands⟩ := hunderway.1.stands
  refine ⟨⟨hown, ?_⟩, fun q hq => ⟨hother q hq.1, hq.2⟩⟩
  exact (stands_call hdb' hstands).verdict.mp hundisturbed

/-- **A run with a disturbed call has a process that fails.** -/
theorem disturbed_run (hdb : AtVersion parse version db)
    (h : Trace (PairStep (performMigrate parse)) ⟨db, migrate.run, migrate.run⟩ events w)
    {e : PairEvent MigrateCall (Catalog SqlValue)} (he : e ∈ events)
    (hdisturbed : ¬ Undisturbed e) :
    (∃ error, w.left = .ret (.error error)) ∨ ∃ error, w.right = .ret (.error error) := by
  obtain ⟨before, after, rfl⟩ := List.append_of_mem he
  obtain ⟨w₁, w₂, hbefore, hstep, hafter⟩ := h.at_event
  obtain ⟨hleft, hright⟩ := pair_invariant (Underway parse db) (fun _ => True)
    (fun _ _ _ hunderway _ => underway_call hunderway) hbefore (fun _ _ => trivial)
    (underway_start hdb) (underway_start hdb)
  cases hstep with
  | left =>
    obtain ⟨error, herror⟩ := disturbed_call hleft hdisturbed
    exact .inl ⟨error, pair_left_ended hafter herror⟩
  | right =>
    obtain ⟨error, herror⟩ := disturbed_call hright hdisturbed
    exact .inr ⟨error, pair_right_ended hafter herror⟩

/-- At version 9 an open asks for every version and changes nothing. -/
theorem alone_from (hdb : AtVersion parse 9 db) {next : Nat} (hlow : 4 ≤ next) (hhigh : next ≤ 9) :
    (migrateFrom (versionsFrom next)).run.alone (performMigrate parse) db = (.ok (), db) := by
  have hfound : ∀ version, 4 ≤ version → version ≤ 9 → db.hasVersion version = .ok true := by
    intro version h4 h9
    rw [hdb.hasVersion (by omega), decide_eq_true ⟨by omega, h9⟩]
  induction hhigh using Nat.decreasingInduction with
  | self =>
    show Prog.alone (performMigrate parse) ((Talk.lift (db.hasVersion 9) >>= fun found =>
      if found then pure () else migrateHistory).run) db = _
    rw [hfound 9 (by omega) (by omega)]
    rfl
  | of_succ next hnext ih =>
    rw [versionsFrom_succ hnext]
    show Prog.alone (performMigrate parse) (((Talk.lift (db.hasVersion next) >>= fun found =>
      if found then pure () else batch next) >>= fun _ =>
        migrateFrom (versionsFrom (next + 1))).run) db = _
    rw [hfound next hlow (by omega)]
    exact ih (by omega)

/-- **A further open changes nothing.** -/
theorem alone_migrate (hdb : AtVersion parse 9 db) :
    migrate.run.alone (performMigrate parse) db = (.ok (), db) := by
  show Prog.alone (performMigrate parse)
    ((Talk.lift (committed (databaseResult (runAll baseBatch db)) db).1 >>= fun _ =>
      migrateFrom (versionsFrom 4)).run) (committed (databaseResult (runAll baseBatch db)) db).2 = _
  rw [base_again hdb (by omega)]
  exact alone_from hdb (by omega) (by omega)

/-! ## 4. Complete runs -/

/-- The file as both opens should leave it. -/
structure Migrated (parse : String → Except DomainError Json) (db db' : Catalog SqlValue) :
    Prop where
  shape : db'.shape = shapeAt 9
  versions : db'.tables "schema_migrations" = some ⟨["version"], versionRows 9⟩
  rows : RowsStay db db'
  again : migrate.run.alone (performMigrate parse) db' = (.ok (), db')

/-- A process that has ended without an error has left the file at version 9. -/
theorem migrated_of_underway {p : OpenProgram} {r : Except DomainError Unit}
    (h : Underway parse db₀ db p) (hok : ∀ e, p ≠ .ret (.error e)) (hp : p = .ret r) :
    r = .ok () ∧ Migrated parse db₀ db := by
  subst hp
  obtain ⟨version, hdb, hstands⟩ := h.stands
  cases hstands with
  | done hnine =>
    subst hnine
    exact ⟨rfl, hdb.shape, hdb.versions (by omega), h.rows, alone_migrate hdb⟩
  | failed e => exact absurd rfl (hok e)

/-- **Two opens of one file both succeed, with the file migrated, exactly if no call is
    disturbed**: from any version, with any rows, in any interleaving. -/
theorem concurrent_opens_exact (hdb : AtVersion parse version db)
    (h : Trace (PairStep (performMigrate parse)) ⟨db, migrate.run, migrate.run⟩ events w)
    (hfirst : w.left = .ret first) (hsecond : w.right = .ret second) :
    (first = .ok () ∧ second = .ok () ∧ Migrated parse db w.state) ↔
      ∀ e ∈ events, Undisturbed e := by
  constructor
  · rintro ⟨rfl, rfl, -⟩ e he
    by_contra hdisturbed
    rcases disturbed_run hdb h he hdisturbed with ⟨error, herror⟩ | ⟨error, herror⟩
    · rw [hfirst] at herror
      cases herror
    · rw [hsecond] at herror
      cases herror
  · intro hevents
    obtain ⟨⟨hleft, hleft'⟩, hright, hright'⟩ := undisturbed_run hdb h hevents
    obtain ⟨hfirst', hmigrated⟩ := migrated_of_underway hleft hleft' hfirst
    obtain ⟨hsecond', -⟩ := migrated_of_underway hright hright' hsecond
    exact ⟨hfirst', hsecond', hmigrated⟩

end Runs

/-- A file just created is at version 0. -/
theorem atVersion_empty (parse : String → Except DomainError Json) : AtVersion parse 0 .empty where
  range := .inl rfl
  shape := rfl
  recorded := fun table htable => by cases htable
  history := fun he => by cases he

/-- A `parse` for a file without a legacy history, which reads nothing. -/
def noText : String → Except DomainError Json := fun _ => .error (.database "no legacy history")

/-- A file at version 3 with two accounts and a record of history. -/
def oldFile : Catalog SqlValue :=
  ((fileAt 3).set "accounts" (some ⟨["id", "platform", "display_name", "status"],
    [[.text "account-1", .text "dy", .text "Main", .text "active"],
      [.text "account-2", .text "sph", .text "Side", .text "inactive"]]⟩)).set "history"
    (some ⟨["id", "request_json", "state", "recorded_at", "detail"],
      [[.text "history-1", .text "\x7b\x7d", .text "published",
        .text "2026-07-30T08:00:00+00:00", .null]]⟩)

theorem atVersion_oldFile (parse : String → Except DomainError Json) :
    AtVersion parse 3 oldFile where
  range := .inr (by decide)
  shape := by
    unfold oldFile
    rw [shape_set, shape_set, shape_fileAt (by decide) (by decide)]
    exact (shape_set_same rfl).trans (shape_set_same rfl)
  recorded := fun table htable => by
    cases htable
    rfl
  history := fun he => by cases he

/-- The two processes make the versions 4 to 8 by turns, each of them when it finds the one before
    made; the second makes version 9. -/
def byTurns : List Bool :=
  [true, false, true, true, false, false, false, true, true, true, false, false, false, true, true,
    true, false, false, false, false, true]

/-- The opens of this file, in that order. -/
def opened : List (PairEvent MigrateCall (Catalog SqlValue)) ×
    Pair MigrateCall MigrateReply (Catalog SqlValue) (Except DomainError Unit) :=
  Pair.follow (performMigrate noText) byTurns ⟨oldFile, migrate.run, migrate.run⟩

theorem concurrent_opens_exact_sample :
    opened.2.left = .ret (.ok ()) ∧ opened.2.right = .ret (.ok ()) ∧
      Migrated noText oldFile opened.2.state := by
  have hevents : ∀ e ∈ opened.1, Undisturbed e := by decide +kernel
  have hleft : opened.2.left = .ret (.ok ()) := rfl
  have hright : opened.2.right = .ret (.ok ()) := rfl
  have hboth := (concurrent_opens_exact (atVersion_oldFile noText) (trace_follow byTurns _) hleft
    hright).mpr hevents
  exact ⟨hleft, hright, hboth.2.2⟩

/-- Both ask for version 4 before either of them makes it. -/
def racing : List Bool := [true, false, true, false, true, false] ++ List.replicate 11 true

/-- The second process adds the columns a second time. -/
theorem concurrent_opens_broken :
    ¬ ∀ (parse : String → Except DomainError Json) (version : Nat) (db : Catalog SqlValue)
      (events : List (PairEvent MigrateCall (Catalog SqlValue)))
      (w : Pair MigrateCall MigrateReply (Catalog SqlValue) (Except DomainError Unit))
      (first second : Except DomainError Unit), AtVersion parse version db →
      Trace (PairStep (performMigrate parse)) ⟨db, migrate.run, migrate.run⟩ events w →
      w.left = .ret first → w.right = .ret second →
      first = .ok () ∧ second = .ok () ∧ Migrated parse db w.state := by
  intro hclaim
  obtain ⟨-, hsecond, -⟩ := hclaim noText 0 .empty _ _ (.ok ())
    (.error (.database "duplicate column name: phone")) (atVersion_empty noText)
    (trace_follow racing _) rfl rfl
  cases hsecond

end Opening

end MatriXpost
