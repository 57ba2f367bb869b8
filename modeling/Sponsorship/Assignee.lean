import Sponsorship.Campaign
import Sponsorship.Text.Cluster

/-!
# Assignees

A blogger's participation in a campaign, and the stages it goes through.

* `Assignee`: the participation.
* `Move`: the guarded steps from stage to stage; `Move.sources` and `Move.target` say between which.
* `Assignee.move`: take a step, if the assignee stands where it starts.
* `Assignee.decline`, `Assignee.finish`, `Assignee.override`: changes of stage without a guard.
-/

namespace Sponsorship

open Time Text

/-- A blogger's participation in a campaign. -/
structure Assignee where
  id : AssigneeId
  campaign : CampaignId
  blogger : BloggerId
  fee : Int
  stage : Stage
  declineReason : Option String
  createdAt : Instant
  shippingData : List String
  janCode : Option String
  deriving DecidableEq, Repr

structure LotteryResult where
  won : Bool
  shippingData : List String := []
  janCode : Option String := none
  deriving DecidableEq, Repr

/-- How many assignees of a campaign stand in a stage. -/
structure StageCount where
  stage : Stage
  count : Nat
  deriving DecidableEq, Repr

/-- A guarded step from stage to stage. -/
inductive Move
  | invite
  | accept (flags : WorkflowFlags)
  | refuse
  | winLottery (flags : WorkflowFlags) (shippingData : List String) (janCode : Option String)
  | loseLottery
  | finishShipment (needsPreliminaryReview : Bool)
  | submitDraft
  | judgeDraft (passed : Bool)
  | submitEntry (needsAfterReview : Bool)
  | judgeEntry (passed : Bool)
  | completePayment
  deriving DecidableEq, Repr

namespace Move

def sources : Move → List Stage
  | .invite => [.beforeInvitation]
  | .accept _ | .refuse => [.invitation]
  | .winLottery _ _ _ | .loseLottery => [.lottery]
  | .finishShipment _ => [.shipment]
  | .submitDraft => [.draftSubmission, .preReexamination]
  | .judgeDraft _ => [.preExamination]
  | .submitEntry _ => [.articlePosting, .reexamination]
  | .judgeEntry _ => [.examination]
  | .completePayment => [.paying]

/-- The stage of writing: a draft comes first where drafts are reviewed. -/
def writing (needsPreliminaryReview : Bool) : Stage :=
  if needsPreliminaryReview then .draftSubmission else .articlePosting

def target : Move → Stage
  | .invite => .invitation
  | .accept flags =>
    if flags.hasLottery then .lottery
    else if flags.hasSample then .shipment
    else writing flags.needsPreliminaryReview
  | .refuse => .done
  | .winLottery flags _ _ =>
    if flags.hasSample then .shipment else writing flags.needsPreliminaryReview
  | .loseLottery => .lotteryLost
  | .finishShipment needsPreliminaryReview => writing needsPreliminaryReview
  | .submitDraft => .preExamination
  | .judgeDraft passed => if passed then .articlePosting else .preReexamination
  | .submitEntry needsAfterReview => if needsAfterReview then .examination else .paying
  | .judgeEntry passed => if passed then .paying else .reexamination
  | .completePayment => .paymentCompleted

end Move

def checkFee (fee : Int) : Except Violation Unit := demand (0 ≤ fee) .feeNegative

namespace Assignee

def create (id : AssigneeId) (campaign : CampaignId) (blogger : BloggerId) (fee : Int)
    (stage : Stage) (createdAt : Instant) : Except Violation Assignee := do
  demand (!blogger.isBlank) (.required .bloggerId)
  checkFee fee
  return { id, campaign, blogger, fee, stage, declineReason := none, createdAt, shippingData := [],
           janCode := none }

def setFee (a : Assignee) (fee : Int) : Except Violation Assignee := do
  checkFee fee
  return { a with fee }

/-- What a step changes. Where to ship is kept only if the campaign ships a sample. -/
def after (a : Assignee) (m : Move) : Assignee :=
  match m with
  | .winLottery flags shippingData janCode =>
    if flags.hasSample then { a with stage := m.target, shippingData, janCode }
    else { a with stage := m.target }
  | _ => { a with stage := m.target }

/-- Takes a step from one of its stages. -/
def move (a : Assignee) (m : Move) : Except Violation Assignee := do
  demand (m.sources.contains a.stage) (.wrongStage m.sources a.stage)
  return a.after m

/-- The stage, whatever it was. -/
def override (a : Assignee) (stage : Stage) : Assignee := { a with stage }

/-- Done, whatever the stage was. -/
def finish (a : Assignee) : Assignee := { a with stage := .done }

def decline (a : Assignee) (reason : String) : Except Violation Assignee := do
  requireText .declineReason reason
  demand (clusterCount reason ≤ maxDeclineReason) .declineReasonLong
  return { a with declineReason := some reason, stage := .done }

end Assignee

end Sponsorship
