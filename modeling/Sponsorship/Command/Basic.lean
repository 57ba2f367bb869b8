import Sponsorship.Catalog.Lookup
import Sponsorship.Store.Transaction

/-!
# Commands and what they work on

* `SaveRequest`: a campaign as a client wants it.
* `Command`, `Outcome`: the eleven commands and what they answer.
* `Service`: the store, the catalog and the clock.
* `tally`, `eachOf`: work on every assignee in turn.
-/

namespace Sponsorship

open Time

structure ScheduleInput where
  id : Option ScheduleId
  kind : ScheduleKind
  opens : Option Instant
  closes : Option Instant
  deriving DecidableEq, Repr

structure AssigneeInput where
  blogger : BloggerId
  stage : Stage
  fee : Int := 0
  deleted : Bool := false
  deriving DecidableEq, Repr

structure QuestionnaireInput where
  description : String
  questions : List QuestionInput
  deriving DecidableEq, Repr

/-- A campaign as a client wants it; with an identifier it is one that is there. -/
structure SaveRequest where
  id : Option CampaignId
  name : String
  item : ItemId
  variant : Option VariantId
  hasCoupon : Bool
  banner : Option BannerId
  special : SpecialCommission
  flags : WorkflowFlags
  target : PostTarget
  texts : OfferTexts
  mail : MailToggles
  isClosed : Bool
  schedules : List ScheduleInput
  assignees : List AssigneeInput
  questionnaire : Option QuestionnaireInput
  drafted : DraftedInfo
  deriving DecidableEq, Repr

inductive Command
  | save (request : SaveRequest)
  | delete (id : CampaignId)
  | complete (id : CampaignId)
  | invite (id : CampaignId)
  | answerInvitation (id : CampaignId) (blogger : BloggerId) (accepted : Bool)
      (answers : Keyed QuestionId String)
  | decline (id : CampaignId) (blogger : BloggerId) (reason : String)
  | applyLottery (id : CampaignId) (results : Keyed BloggerId LotteryResult)
  | finishShipment (id : CampaignId)
  | completePayment (id : CampaignId) (bloggers : List BloggerId)
  | submit (id : CampaignId) (blogger : BloggerId) (kind : EntryKind) (entry : Option EntryId)
  | applyVerdicts (id : CampaignId) (kind : EntryKind) (verdicts : Keyed BloggerId Verdict)

/-- How many assignees a command moved, and how many it met and left where they were. -/
structure Report where
  moved : Nat := 0
  skipped : Nat := 0
  deriving DecidableEq, Repr

inductive Outcome
  | saved (id : CampaignId)
  | deleted
  | completed (finished : Nat)
  | reported (report : Report)
  | assignee (assignee : Assignee)
  | examination (examination : Examination)
  deriving DecidableEq, Repr

/-- The most assignees that one request may list, if nothing else is set. -/
def standardAssigneeCap : Nat := 1000

/-- Where commands and queries find what they work on. -/
structure Service (σ υ : Type) where
  store : Store σ υ
  catalog : Catalog σ
  assigneeCap : Nat := standardAssigneeCap
  now : Instant

/-- Runs a step for each assignee in turn and counts those it moved. -/
def tally {υ : Type} (step : Assignee → Task υ Bool) : List Assignee → Task υ Report
  | [] => return {}
  | a :: rest => do
    let moved ← step a
    let report ← tally step rest
    return if moved then { report with moved := report.moved + 1 }
      else { report with skipped := report.skipped + 1 }

/-- Runs a step for each element in turn. -/
def eachOf {α υ : Type} (step : α → Task υ Unit) : List α → Task υ Unit
  | [] => return ()
  | a :: rest => do
    step a
    eachOf step rest

end Sponsorship
