import Sponsorship.Command.Basic

/-!
# The course of a campaign

The commands that take assignees from stage to stage, each as the work of one unit.

* `Store.invite`, `Store.answerInvitation`, `Store.decline`, `Store.applyLottery`,
  `Store.finishShipment`, `Store.completePayment`: on the way to an article and to its payment.
* `Store.submit`, `Store.applyVerdicts`: drafts and articles.
* `Store.complete`: the end.
-/

namespace Sponsorship

open Time

namespace Store

variable {σ υ : Type}

/-- Takes a step with an assignee and writes it back. -/
def advance (s : Store σ υ) (a : Assignee) (m : Move) : Task υ Bool := do
  let a ← Task.obey (a.move m)
  s.call (.updateAssignee a)
  return true

/-! ## Moving assignees -/

def invite (s : Store σ υ) (id : CampaignId) : Task υ Report := do
  let _ ← s.call (.getCampaign id false)
  let assignees ← s.call (.listAssignees id (some .beforeInvitation) true)
  tally (fun a => s.advance a .invite) assignees

/-- Keeps the answers of an assignee who accepts, if there is a questionnaire. -/
def recordAnswers (s : Store σ υ) (accepted : Bool) (questionnaire : Option Questionnaire)
    (assignee : AssigneeId) (answers : Keyed QuestionId String) : Task υ Unit :=
  match accepted, questionnaire with
  | true, some q => do
    let sheet ← Task.obey (Answer.sheet q assignee answers)
    s.call (.saveAnswers sheet)
  | _, _ => return ()

/-- An invited blogger accepts, with answers to the questionnaire if there is one, or refuses. -/
def answerInvitation (s : Store σ υ) (id : CampaignId) (blogger : BloggerId) (accepted : Bool)
    (answers : Keyed QuestionId String) : Task υ Assignee := do
  let campaign : Campaign ← s.call (.getCampaign id true)
  let questionnaire : Option Questionnaire ← s.call (.findQuestionnaire id false)
  let assignee : Assignee ← s.call (.getAssignee id blogger true)
  let moved ← Task.obey (assignee.move (if accepted then .accept campaign.flags else .refuse))
  s.recordAnswers accepted questionnaire moved.id answers
  s.call (.updateAssignee moved)
  return moved

def decline (s : Store σ υ) (id : CampaignId) (blogger : BloggerId) (reason : String) :
    Task υ Assignee := do
  let assignee : Assignee ← s.call (.getAssignee id blogger true)
  let assignee ← Task.obey (assignee.decline reason)
  s.call (.updateAssignee assignee)
  return assignee

/-- The move that goes with a result of the lottery. -/
def draw (flags : WorkflowFlags) (r : LotteryResult) : Move :=
  if r.won then .winLottery flags r.shippingData r.janCode else .loseLottery

/-- Takes the step that the results have for an assignee, if they have one. -/
def applyResult (s : Store σ υ) (flags : WorkflowFlags) (results : Keyed BloggerId LotteryResult)
    (a : Assignee) : Task υ Bool :=
  match results.get? a.blogger with
  | none => return false
  | some r => s.advance a (draw flags r)

/-- Applies the lottery's results to those who wait for them. -/
def applyLottery (s : Store σ υ) (id : CampaignId) (results : Keyed BloggerId LotteryResult) :
    Task υ Report := do
  let campaign : Campaign ← s.call (.getCampaign id true)
  let assignees ← s.call (.listAssignees id (some .lottery) true)
  tally (s.applyResult campaign.flags results) assignees

/-- All samples have arrived. -/
def finishShipment (s : Store σ υ) (id : CampaignId) : Task υ Report := do
  let campaign : Campaign ← s.call (.getCampaign id true)
  let assignees ← s.call (.listAssignees id (some .shipment) true)
  tally (fun a => s.advance a (.finishShipment campaign.flags.needsPreliminaryReview)) assignees

/-- The listed bloggers were paid; those who are not to be paid are skipped. -/
def completePayment (s : Store σ υ) (id : CampaignId) (bloggers : List BloggerId) :
    Task υ Report := do
  let _ ← s.call (.getCampaign id false)
  let assignees : List Assignee ← s.call (.assigneesAmong id bloggers (some .paying) true)
  let report ← tally (fun a => s.advance a .completePayment) assignees
  return { report with skipped := bloggers.length - assignees.length }

/-! ## Submissions and verdicts -/

def submission (kind : EntryKind) (flags : WorkflowFlags) : Move :=
  match kind with
  | .draft => .submitDraft
  | .entry => .submitEntry flags.needsAfterReview

def submit (s : Store σ υ) (now : Instant) (id : CampaignId) (blogger : BloggerId)
    (kind : EntryKind) (entry : Option EntryId) : Task υ Examination := do
  let assignee : Assignee ← s.call (.getAssignee id blogger true)
  let campaign : Campaign ← s.call (.getCampaign id true)
  let examinationId ← Task.mint .examination
  let examination ← Task.obey
    (Examination.submit examinationId id assignee.id blogger kind entry now)
  let assignee ← Task.obey (assignee.move (submission kind campaign.flags))
  s.call (.createExamination examination)
  s.call (.updateAssignee assignee)
  return examination

def examinedStage : EntryKind → Stage
  | .draft => .preExamination
  | .entry => .examination

def judgement (kind : EntryKind) (passed : Bool) : Move :=
  match kind with
  | .draft => .judgeDraft passed
  | .entry => .judgeEntry passed

/-- Judges the latest submission of an assignee, if the verdicts have one for it. -/
def applyVerdict (s : Store σ υ) (id : CampaignId) (kind : EntryKind)
    (verdicts : Keyed BloggerId Verdict) (a : Assignee) : Task υ Bool :=
  match verdicts.get? a.blogger with
  | none => return false
  | some v => do
    let examination : Examination ← s.call (.latestExamination id a.id kind true)
    let examination ← Task.obey (examination.judge v)
    let a ← Task.obey (a.move (judgement kind v.passed))
    s.call (.updateExamination examination)
    s.call (.updateAssignee a)
    return true

/-- Applies verdicts to those who wait for them. -/
def applyVerdicts (s : Store σ υ) (id : CampaignId) (kind : EntryKind)
    (verdicts : Keyed BloggerId Verdict) : Task υ Report := do
  let assignees ← s.call (.listAssignees id (some (examinedStage kind)) true)
  tally (s.applyVerdict id kind verdicts) assignees

/-! ## The end -/

/-- Closes a campaign and finishes all its assignees. -/
def complete (s : Store σ υ) (id : CampaignId) : Task υ Nat := do
  let campaign : Campaign ← s.call (.getCampaign id true)
  let assignees : List Assignee ← s.call (.listAssignees id none true)
  eachOf (fun a => s.call (.updateAssignee a.finish)) assignees
  let campaign ← Task.obey (campaign.edit (.closed true))
  s.call (.updateCampaign campaign)
  return assignees.length

end Store

end Sponsorship
