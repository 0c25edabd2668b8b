/-
  File:      MatriXpost/Queue/Due.lean
  Subject:   WHAT A CLAIM SELECTS. The query compares due times as texts; what it is for is to
             take the jobs whose dates have come, the earliest first.

  * `FirstDue` is the purpose, in dates alone; `claim_exact_of_agrees`: a claim meets it as soon
    as rows read and texts compare as their dates do;
  * `agreesOn_canonical`: canonical texts of the years 0 to 9999 do;
  * `due_selection_exact`: and exactly then, for both queues, in whatever runs the schedules and
    clocks of two given sets allow;
  * `due_selection_not_exact`: the parser accepts other texts, such as a leading blank, and keeps
    them: a job of 2027 is claimed in 2026.
-/
import MatriXpost.Queue.Readable

namespace MatriXpost

/-! ## 1. Dates -/

/-- The time a row is due at. -/
def dueTime (row : JobRow) : Option NaiveDateTime :=
  row.dueAt.bind fun text => (LocalSchedule.asNaive ⟨text⟩).toOption

/-- Queued, and due at or before a time. -/
def dueBy (through : NaiveDateTime) (row : JobRow) : Bool :=
  row.state = PublishState.queued.db && (dueTime row).any fun t => t ≤ through

/-- One row is due at or before another. -/
def NotLater (a b : JobRow) : Prop :=
  ∀ ta tb, dueTime a = some ta → dueTime b = some tb → ta ≤ tb

/-- **What a claim is for**: of the queued rows due by a time the earliest, as many as the limit
    allows, each once and in the order of their dates. -/
structure FirstDue (rows : List JobRow) (through : NaiveDateTime) (limit : Nat)
    (chosen : List JobRow) : Prop where
  due : ∀ row ∈ chosen, row ∈ rows ∧ dueBy through row = true
  distinct : (chosen.map (·.id)).Nodup
  many : chosen.length = min limit (rows.countP (dueBy through))
  ordered : chosen.Pairwise NotLater
  earliest : ∀ row ∈ rows, dueBy through row = true → row ∉ chosen →
    ∀ first ∈ chosen, NotLater first row

/-- A claim answers, and every claim that answers takes the first jobs due. -/
def ClaimExact {R δ : Type} (q : QueueTable R δ) (s : Store) (due : LocalSchedule) (limit : Nat) :
    Prop :=
  ∀ (now : DateTime) (through : NaiveDateTime), due.asNaive = .ok through →
    (∃ claimed s', Sql.Clean (q.claim due now limit) s (.ok claimed) s') ∧
    ∀ claimed s', Sql.Runs (q.claim due now limit) s (.ok claimed) s' →
      ∃ chosen, FirstDue (q.jobs s).rows through (min limit maxClaimBatch) chosen ∧
        claimed.map (·.id) = chosen.map (·.id)

/-- The texts of a set of schedules compare as their dates do. -/
def AgreesOn (T : Set LocalSchedule) : Prop :=
  ∀ a ∈ T, ∀ b ∈ T, ∀ ta tb, a.asNaive = .ok ta → b.asNaive = .ok tb →
    (a.text ≤ b.text ↔ ta ≤ tb)

/-! ## 2. Texts that agree select by date -/

section Exact
variable {R δ : Type} {q : QueueTable R δ} {T : Set LocalSchedule} {s : Store}

theorem dueTime_of_text {row : JobRow} {due : LocalSchedule} {t : NaiveDateTime}
    (hdue : row.dueAt = some due.text) (ht : due.asNaive = .ok t) : dueTime row = some t := by
  unfold dueTime
  rw [hdue]
  change ((LocalSchedule.asNaive due).toOption) = some t
  rw [ht]
  rfl

/-- A readable row has a due time, or none at all. -/
theorem readable_due {row : JobRow} (hT : ∀ due ∈ T, due.Accepted) (h : q.Readable T row) :
    row.dueAt = none ∨ ∃ due ∈ T, ∃ t, row.dueAt = some due.text ∧ due.asNaive = .ok t ∧
      dueTime row = some t := by
  cases hdue : row.dueAt with
  | none => exact .inl rfl
  | some text =>
    have hmem := h.2 text hdue
    obtain ⟨t, ht⟩ := hT ⟨text⟩ hmem
    exact .inr ⟨⟨text⟩, hmem, t, rfl, ht, dueTime_of_text hdue ht⟩

/-- The condition of the query is the condition on dates. -/
theorem isDue_eq_dueBy {row : JobRow} {due : LocalSchedule} {through : NaiveDateTime}
    (hT : ∀ due ∈ T, due.Accepted) (hagree : AgreesOn T) (hdue : due ∈ T)
    (hthrough : due.asNaive = .ok through) (hrow : q.Readable T row) :
    QueueTable.isDue due row = dueBy through row := by
  unfold QueueTable.isDue dueBy
  congr 1
  rcases readable_due hT hrow with hnone | ⟨own, hown, t, htext, ht, htime⟩
  · rw [dueTime, hnone]
    rfl
  · have hiff := hagree own hown due hdue t through ht hthrough
    rw [htext, htime, Option.any_some, Option.any_some]
    exact decide_eq_decide.mpr hiff

/-- The order of the query is no finer than that of dates. -/
theorem notLater_of_dueOrder {a b : JobRow} (hT : ∀ due ∈ T, due.Accepted) (hagree : AgreesOn T)
    (ha : q.Readable T a) (hb : q.Readable T b)
    (hle : QueueTable.dueOrder a ≤ QueueTable.dueOrder b) : NotLater a b := by
  intro ta tb hta htb
  rcases readable_due hT ha with hnone | ⟨da, hda, ta', htexta, hnaivea, htimea⟩
  · rw [dueTime, hnone] at hta
    cases hta
  rcases readable_due hT hb with hnone | ⟨db, hdb, tb', htextb, hnaiveb, htimeb⟩
  · rw [dueTime, hnone] at htb
    cases htb
  have hea : ta' = ta := Option.some.inj (htimea.symm.trans hta)
  have heb : tb' = tb := Option.some.inj (htimeb.symm.trans htb)
  subst hea heb
  have htext : da.text ≤ db.text := by
    unfold QueueTable.dueOrder at hle
    rw [htexta, htextb, Prod.Lex.toLex_le_toLex] at hle
    rcases hle with hlt | ⟨heq, -⟩
    · exact hlt.le
    · exact heq.le
  exact (hagree da hda db hdb _ _ hnaivea hnaiveb).mp htext

/-- **A claim is exact when rows read and texts compare as dates.** -/
theorem claim_exact_of_agrees {due : LocalSchedule} (hT : ∀ due ∈ T, due.Accepted)
    (hagree : AgreesOn T) (hdue : due ∈ T) (hrows : ∀ row ∈ (q.jobs s).rows, q.Readable T row)
    (limit : Nat) : ClaimExact q s due limit := by
  intro now through hthrough
  have hread : ∀ row ∈ q.dueRows s due (min limit maxClaimBatch), ∃ job, q.rowToJob row = .ok job :=
    fun row hrow => (hrows row (mem_select hrow).1).1
  have hsame : ∀ row ∈ (q.jobs s).rows, QueueTable.isDue due row = dueBy through row :=
    fun row hrow => isDue_eq_dueBy hT hagree hdue hthrough (hrows row hrow)
  constructor
  · obtain ⟨candidates, hall⟩ : ∃ candidates, List.Forall₂ (fun row job => q.rowToJob row = .ok job)
        (q.dueRows s due (min limit maxClaimBatch)) candidates := by
      generalize q.dueRows s due (min limit maxClaimBatch) = rows at hread
      induction rows with
      | nil => exact ⟨[], .nil⟩
      | cons row rest ih =>
        obtain ⟨job, hjob⟩ := hread row List.mem_cons_self
        obtain ⟨jobs, hjobs⟩ := ih fun row' hrow' => hread row' (List.mem_cons_of_mem row hrow')
        exact ⟨job :: jobs, .cons hjob hjobs⟩
    exact ⟨_, _, QueueTable.claim_clean hall⟩
  · intro claimed s' h
    obtain ⟨candidates, hall, rfl, -⟩ := QueueTable.claim_ok h
    refine ⟨q.dueRows s due (min limit maxClaimBatch), ?_, ?_⟩
    · refine ⟨fun row hrow => ?_, QueueTable.dueRows_nodup due _, ?_, ?_,
        fun row hrow hby hout => ?_⟩
      · obtain ⟨hmem, hp⟩ := mem_select hrow
        exact ⟨hmem, hsame row hmem ▸ hp⟩
      · refine length_select.trans ?_
        rw [List.countP_congr fun row hrow => by rw [hsame row hrow]]
      · refine select_sorted.imp_of_mem fun {a b} ha hb hle => ?_
        exact notLater_of_dueOrder hT hagree (hrows a (mem_select ha).1) (hrows b (mem_select hb).1)
          hle
      · intro first hfirst
        have hbefore := (select_before hrow (hsame row hrow ▸ hby) hout).2 first hfirst
        exact notLater_of_dueOrder hT hagree (hrows first (mem_select hfirst).1) (hrows row hrow)
          hbefore
    · rw [List.map_map, ← QueueTable.ids_of_forall₂ hall]
      rfl

end Exact

/-! ## 3. Canonical texts agree -/

/-- The text is the one `format` writes for a time of the years 0 to 9999. -/
def LocalSchedule.Canonical (due : LocalSchedule) : Prop :=
  ∃ t : NaiveDateTime, t.FourDigitYear ∧ t.nano % 1000000000 = 0 ∧ due.text = t.format

theorem LocalSchedule.asNaive_of_format {due : LocalSchedule} {t : NaiveDateTime}
    (hy : t.FourDigitYear) (hn : t.nano % 1000000000 = 0) (htext : due.text = t.format) :
    due.asNaive = .ok t := by
  rw [asNaive, htext, parse_format hy hn]

theorem LocalSchedule.accepted_of_canonical {due : LocalSchedule} (h : due.Canonical) :
    due.Accepted := by
  obtain ⟨t, hy, hn, htext⟩ := h
  exact ⟨t, asNaive_of_format hy hn htext⟩

/-- **Canonical texts compare as their dates do.** -/
theorem agreesOn_canonical : AgreesOn {due | due.Canonical} := by
  intro a ha b hb ta tb hta htb
  obtain ⟨ta', hya, hna, htexta⟩ := ha
  obtain ⟨tb', hyb, hnb, htextb⟩ := hb
  rw [LocalSchedule.asNaive_of_format hya hna htexta] at hta
  rw [LocalSchedule.asNaive_of_format hyb hnb htextb] at htb
  cases hta
  cases htb
  rw [htexta, htextb]
  exact format_le hya hyb hna hnb

/-! ## 4. Nothing less will do -/

section Single
variable {R δ : Type} {q : QueueTable R δ} {s : Store} {row : JobRow}

/-- The store holds one queued job. -/
structure HoldsOne (q : QueueTable R δ) (s : Store) (due : LocalSchedule) (now : DateTime)
    (row : JobRow) : Prop where
  rows : (q.jobs s).rows = [row]
  state : row.state = PublishState.queued.db
  dueAt : row.dueAt = some due.text
  updatedAt : row.updatedAt = DateTime.toRfc3339 now

/-- An exact claim on one job compares the texts as the dates. -/
theorem agree_of_single {a b : LocalSchedule} {now : DateTime} {ta tb : NaiveDateTime}
    (hone : HoldsOne q s a now row) (h : ClaimExact q s b 1) (hta : a.asNaive = .ok ta)
    (htb : b.asNaive = .ok tb) : a.text ≤ b.text ↔ ta ≤ tb := by
  obtain ⟨⟨claimed, s', hclean⟩, hexact⟩ := h now tb htb
  obtain ⟨chosen, hfirst, hids⟩ := hexact claimed s' hclean.runs
  obtain ⟨candidates, hall, rfl, -⟩ := QueueTable.claim_ok hclean.runs
  have hcount : min 1 ((q.jobs s).rows.countP (QueueTable.isDue b)) =
      min 1 ((q.jobs s).rows.countP (dueBy tb)) := by
    have hlen := congrArg List.length hids
    rw [List.length_map, List.length_map, List.length_map, ← hall.length_eq, hfirst.many] at hlen
    exact length_select.symm.trans hlen
  have hisDue : QueueTable.isDue b row = decide (a.text ≤ b.text) := by
    simp [QueueTable.isDue, hone.state, hone.dueAt]
  have hdueBy : dueBy tb row = decide (ta ≤ tb) := by
    simp [dueBy, hone.state, dueTime_of_text hone.dueAt hta]
  rw [hone.rows, List.countP_singleton, List.countP_singleton, hisDue, hdueBy] at hcount
  by_cases htext : a.text ≤ b.text
  · by_cases hdate : ta ≤ tb
    · exact iff_of_true htext hdate
    · rw [if_pos (decide_eq_true htext), if_neg (by simpa using hdate)] at hcount
      cases hcount
  · by_cases hdate : ta ≤ tb
    · rw [if_neg (by simpa using htext), if_pos (decide_eq_true hdate)] at hcount
      cases hcount
    · exact iff_of_false htext hdate

/-- A claim that answers has read the row it chose, so its clock was of the years 0 to 9999. -/
theorem fourDigit_of_single {a : LocalSchedule} {now : DateTime} (hone : HoldsOne q s a now row)
    (ha : a.Accepted) (h : ClaimExact q s a 1) : now.FourDigitYear := by
  obtain ⟨ta, hta⟩ := ha
  obtain ⟨⟨claimed, s', hclean⟩, -⟩ := h now ta hta
  obtain ⟨candidates, hall, -, -⟩ := QueueTable.claim_ok hclean.runs
  have hdue : QueueTable.isDue a row = true := by
    simp [QueueTable.isDue, hone.state, hone.dueAt]
  have hlen : (q.dueRows s a (min 1 maxClaimBatch)).length = 1 := by
    refine length_select.trans ?_
    rw [hone.rows, List.countP_singleton, if_pos hdue]
    rfl
  obtain ⟨chosen, hchosen⟩ := List.length_eq_one_iff.mp hlen
  have hmem : chosen ∈ q.dueRows s a (min 1 maxClaimBatch) := by
    rw [hchosen]
    exact List.mem_singleton_self chosen
  have hrow : chosen = row := by
    have hin := (mem_select hmem).1
    rw [hone.rows] at hin
    exact List.mem_singleton.mp hin
  rw [hchosen, hrow] at hall
  cases hall with
  | @cons _ job _ _ hread _ =>
    have htime := (QueueTable.rowToJob_ok hread).2.2.2.2.2
    rw [hone.updatedAt] at htime
    exact QueueTable.fourDigitYear_of_parseTime htime

end Single

section Runs
variable {T : Set LocalSchedule} {N : Set DateTime} {due : LocalSchedule} {now : DateTime}

/-- The request due at a given time. -/
def requestDue (due : LocalSchedule) : PublishRequest :=
  { sampleRequest with scheduledAt := some due }

def articleDueAt (due : LocalSchedule) : PublishArticleRequest :=
  { sampleArticle with scheduledAt := some due }

theorem checkSchedule_of_accepted (h : due.Accepted) :
    PublishRequest.checkSchedule (some due) = .ok () := by
  obtain ⟨t, ht⟩ := h
  rw [PublishRequest.checkSchedule, ht]
  rfl

theorem requestDue_valid (h : due.Accepted) : (requestDue due).validate = .ok () :=
  PublishRequest.validate_reschedule (r := sampleRequest) (by decide) (checkSchedule_of_accepted h)

theorem articleDueAt_valid (h : due.Accepted) : (articleDueAt due).validate = .ok () :=
  PublishArticleRequest.validate_reschedule (r := sampleArticle) (by decide)
    (checkSchedule_of_accepted h)

/-- One video job can be enqueued for any accepted time. -/
theorem single_video (hdue : due ∈ T) (hacc : due.Accepted) (hnow : now ∈ N) :
    ∃ events w row, Trace (QueueStepWithin T N) .initial events w ∧
      HoldsOne videoQueue w.store due now row := by
  let job := enqueuedJob (requestDue due) ("job-" ++ toString 1) now
  obtain ⟨row, hto⟩ : ∃ row, videoQueue.jobToRow job = .ok row := ⟨_, rfl⟩
  obtain ⟨jobs, hins⟩ : ∃ jobs, (Table.empty : Table JobRow.id).insert row = some jobs :=
    Table.insert_of_find?_none rfl
  have hbegin : Sql.Clean (enqueueBegin (requestDue due) now) .initial (.ok job)
      { Store.initial with jobSequence := 1 } := by
    unfold enqueueBegin
    rw [requestDue_valid hacc]
    refine (Sql.clean_lift _ _).bind (Sql.Clean.bind ?_ (Sql.clean_pure _ _))
    exact (Sql.clean_execute nextJob Store.initial).bind (Sql.clean_pure _ _)
  have hinsert : Sql.Clean (insertJob job) { Store.initial with jobSequence := 1 } (.ok ())
      { Store.initial with jobSequence := 1, jobs := jobs } := insertJob_clean hto hins
  have hwithin : (QueueEvent.allocate (requestDue due) now (.ok job)).Within T N := by
    refine ⟨fun t ht => ?_, fun request t reply due' he hs => ?_⟩
    · cases ht
      exact hnow
    · cases he
      cases hs
      exact hdue
  refine ⟨_, ⟨_, []⟩, row, .cons (e := (1, _)) ⟨.allocated hbegin.runs, hwithin⟩
    (.single (e := (1, _)) ⟨.insert [] [] rfl hinsert.runs, ?_⟩), ?_⟩
  · exact ⟨fun t ht => (by cases ht), fun request t reply due' he => (by cases he)⟩
  · obtain ⟨-, -, hstate, hcolumn, -, hupdated⟩ := QueueTable.jobToRow_ok hto
    exact ⟨(Table.insert_eq_some hins).2, hstate, hcolumn, hupdated⟩

/-- One article job likewise. -/
theorem single_article (hdue : due ∈ T) (hacc : due.Accepted) (hnow : now ∈ N) :
    ∃ events s row, Trace (ArticleStepWithin T N) .initial events s ∧
      HoldsOne articleQueue s due now row := by
  let job := enqueuedArticle (articleDueAt due) due 1 now
  obtain ⟨row, hto⟩ : ∃ row, articleQueue.jobToRow job = .ok row := ⟨_, rfl⟩
  obtain ⟨jobs, hins⟩ : ∃ jobs, (Table.empty : Table JobRow.id).insert row = some jobs :=
    Table.insert_of_find?_none rfl
  let s : Store := { Store.initial with articleJobSequence := 1, articleJobs := jobs }
  have henqueue : Sql.Clean (enqueueArticle (articleDueAt due) now) .initial (.ok job) s := by
    unfold enqueueArticle
    rw [articleDueAt_valid hacc]
    refine (Sql.clean_lift _ _).bind ((Sql.clean_lift (.ok due) _).bind ?_)
    refine (Sql.clean_execute nextArticleJob Store.initial).bind ?_
    exact Sql.Clean.bind (insertJob_clean hto hins) (Sql.clean_pure _ _)
  have hwithin : (ArticleEvent.enqueue (articleDueAt due) now (.ok job)).Within T N := by
    refine ⟨hnow, fun request t reply due' he hs => ?_⟩
    cases he
    cases hs
    exact hdue
  have hstep : ArticleStep .initial (.enqueue (articleDueAt due) now (.ok job)) s := henqueue.runs
  refine ⟨_, s, row, .single ⟨hstep, hwithin⟩, ?_⟩
  obtain ⟨-, -, hstate, hcolumn, -, hupdated⟩ := QueueTable.jobToRow_ok hto
  exact ⟨(Table.insert_eq_some hins).2, hstate, hcolumn, hupdated⟩

/-! ## 5. Exactly then -/

/-- The claims of the video queue are exact, in every run within the two sets. -/
def VideoClaimsExact (T : Set LocalSchedule) (N : Set DateTime) : Prop :=
  ∀ events w, Trace (QueueStepWithin T N) .initial events w → ∀ due ∈ T, ∀ limit,
    ClaimExact videoQueue w.store due limit

/-- The claims of the article queue likewise. -/
def ArticleClaimsExact (T : Set LocalSchedule) (N : Set DateTime) : Prop :=
  ∀ events s, Trace (ArticleStepWithin T N) .initial events s → ∀ due ∈ T, ∀ limit,
    ClaimExact articleQueue s due limit

theorem videoClaimsExact_iff (hT : ∀ due ∈ T, due.Accepted) (hne : T.Nonempty)
    (hclock : N.Nonempty) :
    VideoClaimsExact T N ↔ AgreesOn T ∧ ∀ now ∈ N, now.FourDigitYear := by
  constructor
  · intro h
    constructor
    · intro a ha b hb ta tb hta htb
      obtain ⟨now, hnow⟩ := hclock
      obtain ⟨events, w, row, htrace, hone⟩ := single_video ha (hT a ha) hnow
      exact agree_of_single hone (h events w htrace b hb 1) hta htb
    · intro now hnow
      obtain ⟨due, hdue⟩ := hne
      obtain ⟨events, w, row, htrace, hone⟩ := single_video hdue (hT due hdue) hnow
      exact fourDigit_of_single hone (hT due hdue) (h events w htrace due hdue 1)
  · intro h events w htrace due hdue limit
    obtain ⟨hagree, hN⟩ := h
    exact claim_exact_of_agrees (q := videoQueue) hT hagree hdue (queue_readable hN htrace) limit

theorem articleClaimsExact_iff (hT : ∀ due ∈ T, due.Accepted) (hne : T.Nonempty)
    (hclock : N.Nonempty) :
    ArticleClaimsExact T N ↔ AgreesOn T ∧ ∀ now ∈ N, now.FourDigitYear := by
  constructor
  · intro h
    constructor
    · intro a ha b hb ta tb hta htb
      obtain ⟨now, hnow⟩ := hclock
      obtain ⟨events, s, row, htrace, hone⟩ := single_article ha (hT a ha) hnow
      exact agree_of_single hone (h events s htrace b hb 1) hta htb
    · intro now hnow
      obtain ⟨due, hdue⟩ := hne
      obtain ⟨events, s, row, htrace, hone⟩ := single_article hdue (hT due hdue) hnow
      exact fourDigit_of_single hone (hT due hdue) (h events s htrace due hdue 1)
  · intro h events s htrace due hdue limit
    obtain ⟨hagree, hN⟩ := h
    exact claim_exact_of_agrees (q := articleQueue) hT hagree hdue (articles_readable hN htrace)
      limit

end Runs

/-- **When claims select by date.** Let the schedules of all requests and claims be from one set
    of texts the parser accepts, and all clocks from another. In all runs of the video queue all
    claims take the first jobs due, if and only if the texts compare as their dates do and the
    clocks lie in the years 0 to 9999; and so for the article queue. -/
theorem due_selection_exact {T : Set LocalSchedule} {N : Set DateTime}
    (hT : ∀ due ∈ T, due.Accepted) (hne : T.Nonempty) (hclock : N.Nonempty) :
    (VideoClaimsExact T N ↔ AgreesOn T ∧ ∀ now ∈ N, now.FourDigitYear) ∧
    (ArticleClaimsExact T N ↔ AgreesOn T ∧ ∀ now ∈ N, now.FourDigitYear) :=
  ⟨videoClaimsExact_iff hT hne hclock, articleClaimsExact_iff hT hne hclock⟩

/-- With canonical texts and clocks of these years all claims of both queues are exact. -/
theorem due_selection_exact_sample :
    VideoClaimsExact {due | due.Canonical} {now | NaiveDateTime.FourDigitYear now} ∧
    ArticleClaimsExact {due | due.Canonical} {now | NaiveDateTime.FourDigitYear now} := by
  have hdue : sampleDue.Canonical :=
    ⟨⟨2026, 7, 29, 9, 0, 0, 0, by decide⟩, by decide, by decide, by decide +kernel⟩
  have hboth := due_selection_exact (T := {due | due.Canonical})
    (N := {now | NaiveDateTime.FourDigitYear now})
    (fun due h => LocalSchedule.accepted_of_canonical h) ⟨sampleDue, hdue⟩
    ⟨sampleNow, (by decide : NaiveDateTime.FourDigitYear sampleNow)⟩
  have hcondition : AgreesOn {due | due.Canonical} ∧
      ∀ now ∈ {now | NaiveDateTime.FourDigitYear now}, NaiveDateTime.FourDigitYear now :=
    ⟨agreesOn_canonical, fun now h => h⟩
  exact ⟨hboth.1.mpr hcondition, hboth.2.mpr hcondition⟩

/-- A time of 2027 with a leading blank, which the parser accepts. -/
def blankDue : LocalSchedule := ⟨" 2027-01-01 00:00:00"⟩

theorem blankDue_naive : blankDue.asNaive = .ok ⟨2027, 1, 1, 0, 0, 0, 0, by decide⟩ := by
  decide +kernel

theorem sampleDue_naive : sampleDue.asNaive = .ok ⟨2026, 7, 29, 9, 0, 0, 0, by decide⟩ := by
  decide +kernel

/-- **The parser accepts texts that do not compare as their dates**: with only a job for
    `blankDue` in the queue, claims due through `sampleDue`, five months before, are not exact. -/
theorem due_selection_not_exact :
    ¬ ∀ events w, Trace QueueStep .initial events w → ∀ due : LocalSchedule, due.Accepted →
      ∀ limit, ClaimExact videoQueue w.store due limit := by
  intro h
  obtain ⟨events, w, row, htrace, hone⟩ := single_video (T := {blankDue}) (N := {sampleNow})
    rfl ⟨_, blankDue_naive⟩ rfl
  have hrun : Trace QueueStep .initial events w := htrace.mono fun _ _ _ hstep => hstep.1
  have hagree := agree_of_single hone (h events w hrun sampleDue ⟨_, sampleDue_naive⟩ 1)
    blankDue_naive sampleDue_naive
  have hdate : ¬ (⟨2027, 1, 1, 0, 0, 0, 0, by decide⟩ : NaiveDateTime) ≤
      ⟨2026, 7, 29, 9, 0, 0, 0, by decide⟩ := by decide
  exact hdate (hagree.mp (by decide +kernel))

end MatriXpost
