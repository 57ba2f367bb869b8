import Sponsorship.Fault
import Sponsorship.Time.Instant

/-!
# Examinations

* `Examination`: one submission of a draft or an article and the verdict on it.
* `Examination.submit`: a new submission.
* `Examination.judge`: the verdict.
-/

namespace Sponsorship

open Time

structure Verdict where
  passed : Bool
  examiner : String
  reason : Option String := none
  deriving DecidableEq, Repr

structure Examination where
  id : ExaminationId
  campaign : CampaignId
  assignee : AssigneeId
  blogger : BloggerId
  kind : EntryKind
  entry : Option EntryId
  passed : Option Bool
  examiner : Option String
  reason : Option String
  createdAt : Instant
  /-- How many submissions of this kind the assignee has made, where it was counted. -/
  submissions : Nat
  deriving DecidableEq, Repr

namespace Examination

/-- A submission without a verdict; it names what was submitted. -/
def submit (id : ExaminationId) (campaign : CampaignId) (assignee : AssigneeId)
    (blogger : BloggerId) (kind : EntryKind) (entry : Option EntryId) (createdAt : Instant) :
    Except Violation Examination := do
  demand (Id.given? entry).isSome (.required .entryId)
  return { id, campaign, assignee, blogger, kind, entry, passed := none, examiner := none,
           reason := none, createdAt, submissions := 0 }

/-- The submission with a verdict; a rejection has a reason. -/
def judge (e : Examination) (v : Verdict) : Except Violation Examination := do
  demand (v.passed || (v.reason.filter fun r => !r.isEmpty).isSome) .verdictReasonLacking
  return { e with passed := some v.passed, examiner := some v.examiner, reason := v.reason }

end Examination

end Sponsorship
