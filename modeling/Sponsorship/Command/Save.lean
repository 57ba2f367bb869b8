import Sponsorship.Command.Basic

/-!
# Saving campaigns

* `SaveRequest.check`: the rules that can be checked before anything is looked up.
* `SaveRequest.opening`, `SaveRequest.revision`: the campaign that a request makes or changes.
* `AssigneeInput.enrolment`, `QuestionnaireInput.renewal`: its assignees and its questionnaire.
* `Store.createCampaign`: a request without an identifier.
* `Store.updateCampaign`: a request for a campaign that is there; its questionnaire and assignees
  are brought in line.
* `Service.save`: either, with the catalog's description of the item.
-/

namespace Sponsorship

open Time

/-- The listed assignees have names, and no two have the same. -/
def checkListed : List BloggerId → List AssigneeInput → Except Violation Unit
  | _, [] => .ok ()
  | seen, i :: rest => do
    demand (!i.blogger.isBlank) (.required .listedBloggerId)
    demand (!seen.contains i.blogger) (.assigneeListedTwice i.blogger)
    checkListed (i.blogger :: seen) rest

/-- The rules for a request that can be checked before anything is looked up. -/
def SaveRequest.check (r : SaveRequest) (assigneeCap : Nat) : Except Violation Unit := do
  demand (!r.item.isBlank) (.required .itemId)
  demand (r.assignees.length ≤ assigneeCap) (.tooManyAssignees assigneeCap r.assignees.length)
  checkListed [] r.assignees
  r.drafted.check

/-- An assignee enters the stages of examination by a submission only. -/
def checkNewAssignee (i : AssigneeInput) : Except Violation Unit :=
  demand (i.stage ≠ .preExamination && i.stage ≠ .examination) (.newAssigneeStage i.blogger i.stage)

def AssigneeInput.enrolment (i : AssigneeInput) (now : Instant) (id : CampaignId) :
    Minting Assignee := do
  Minting.obey (checkNewAssignee i)
  let assigneeId ← Minting.mint .assignee
  Minting.obey (Assignee.create assigneeId id i.blogger i.fee i.stage now)

def ScheduleInput.schedule (i : ScheduleInput) : Minting Schedule := do
  let id ← Minting.mint .schedule
  Minting.obey (Schedule.create id i.kind i.opens i.closes)

/-- The campaign's schedule that an input names, with the dates of the input. -/
def redate (old : List Schedule) (i : ScheduleInput) : Except Fault Schedule :=
  match Id.given? i.id with
  | none => .error (.validation (.required .scheduleId))
  | some id =>
    match old.find? fun s => s.id = id with
    | none => .error (.notFound (.schedule id))
    | some s => (s.setDates i.opens i.closes).mapError .validation

/-- The questionnaire of a campaign, which may have one already. -/
def QuestionnaireInput.renewal (q : QuestionnaireInput) (id : CampaignId) :
    Option Questionnaire → Minting Questionnaire
  | some old => old.reconcile q.description q.questions
  | none => Questionnaire.ofInputs id q.description q.questions

namespace SaveRequest

/-- The details of the campaign, with the catalog's description of its item. -/
def details (r : SaveRequest) (item : Item) (variant : Option Variant)
    (schedules : List Schedule) : CampaignDetails :=
  { name := r.name, item, variant, hasCoupon := r.hasCoupon, banner := r.banner,
    special := r.special, flags := r.flags, target := r.target, texts := r.texts, mail := r.mail,
    isClosed := r.isClosed, schedules, drafted := r.drafted }

def opening (r : SaveRequest) (now : Instant) (item : Item) (variant : Option Variant) :
    Minting Campaign := do
  let id ← Minting.mint .campaign
  let schedules ← r.schedules.mapM ScheduleInput.schedule
  Minting.obey (Campaign.create id (r.details item variant schedules) now)

/-- A campaign that is there, part by part as the request wants it. Its schedules are those that the
request names. -/
def revision (r : SaveRequest) (item : Item) (variant : Option Variant) (c : Campaign) :
    Except Fault Campaign := do
  let c ← (c.edits [.item item, .variant variant, .name r.name, .special r.special, .flags r.flags,
    .target r.target, .coupon r.hasCoupon r.banner, .texts r.texts, .mail r.mail,
    .closed r.isClosed]).mapError .validation
  let schedules ← r.schedules.mapM (redate c.schedules)
  (c.edits [.schedules schedules, .drafted r.drafted]).mapError .validation

end SaveRequest

namespace Store

variable {σ υ : Type}

def enrol (s : Store σ υ) (now : Instant) (id : CampaignId) (i : AssigneeInput) : Task υ Unit := do
  let assignee ← Task.ofMinting (i.enrolment now id)
  s.call (.createAssignee assignee)

/-- Gives a new campaign its questionnaire, if it has one. -/
def poseQuestionnaire (s : Store σ υ) (id : CampaignId) :
    Option QuestionnaireInput → Task υ Unit
  | some q => do
    let questionnaire ← Task.ofMinting (q.renewal id none)
    s.call (.saveQuestionnaire questionnaire)
  | none => return ()

/-- Creates a campaign with its questionnaire and assignees. -/
def createCampaign (s : Store σ υ) (now : Instant) (r : SaveRequest) (item : Item)
    (variant : Option Variant) : Task υ CampaignId := do
  let campaign ← Task.ofMinting (r.opening now item variant)
  s.call (.createCampaign campaign)
  s.poseQuestionnaire campaign.id r.questionnaire
  eachOf (s.enrol now campaign.id) (r.assignees.filter fun i => !i.deleted)
  return campaign.id

/-- The stages that only a submission leads to, with the kind of submission. -/
def neededSubmission : Stage → Option EntryKind
  | .preExamination => some .draft
  | .examination => some .entry
  | _ => none

/-- A submission that a requested stage calls for has to be there. -/
def checkSubmission (s : Store σ υ) (id : CampaignId) (a : Assignee) (i : AssigneeInput) :
    Task υ Unit :=
  match neededSubmission i.stage with
  | none => return ()
  | some kind =>
    tryCatch (do let _ ← s.call (.latestExamination id a.id kind false)) fun fault =>
      match fault with
      | .notFound _ => throw (.notFound (.requiredSubmission kind i.blogger i.stage))
      | other => throw other

/-- Brings one assignee in line with a request. `a` is the assignee that is there. -/
def reconcileAssignee (s : Store σ υ) (now : Instant) (id : CampaignId) (a : Option Assignee)
    (i : AssigneeInput) : Task υ Unit :=
  match a with
  | none => if i.deleted then return () else s.enrol now id i
  | some a =>
    if i.deleted then do
      Task.obey (demand (a.stage = .beforeInvitation) (.deletedTooLate i.blogger a.stage))
      s.call (.deleteAssignee a.id)
    else do
      s.checkSubmission id a i
      let a ← Task.obey (a.setFee i.fee)
      s.call (.updateAssignee (a.override i.stage))

/-- Brings the assignees in line with a request; those it does not list stay as they are. -/
def reconcileAssignees (s : Store σ υ) (now : Instant) (id : CampaignId)
    (inputs : List AssigneeInput) : Task υ Unit := do
  let there : List Assignee ← s.call
    (.assigneesAmong id (inputs.map AssigneeInput.blogger) none true)
  let byBlogger := Keyed.ofList (there.map fun a => (a.blogger, a))
  eachOf (fun i => s.reconcileAssignee now id (byBlogger.get? i.blogger) i) inputs

/-- Brings the questionnaire in line with a request. Without a questionnaire there are no
answers. -/
def reconcileQuestionnaire (s : Store σ υ) (id : CampaignId) :
    Option QuestionnaireInput → Task υ Unit
  | some q => do
    let old : Option Questionnaire ← s.call (.findQuestionnaire id true)
    let questionnaire ← Task.ofMinting (q.renewal id old)
    s.call (.saveQuestionnaire questionnaire)
  | none => do
    s.call (.deleteAnswers id)
    s.call (.deleteQuestionnaire id)

def updateCampaign (s : Store σ υ) (now : Instant) (id : CampaignId) (r : SaveRequest)
    (item : Item) (variant : Option Variant) : Task υ Unit := do
  Task.obey (demand (r.schedules.all fun i => (Id.given? i.id).isSome) (.required .scheduleId))
  let campaign : Campaign ← s.call (.getCampaign id true)
  let campaign ← Task.ofExcept (r.revision item variant campaign)
  s.call (.updateCampaign campaign)
  s.reconcileQuestionnaire id r.questionnaire
  s.reconcileAssignees now id r.assignees

end Store

namespace Service

variable {σ υ : Type}

/-- Creates or updates a campaign with the catalog's description of its item. -/
def save (s : Service σ υ) (r : SaveRequest) : Task σ CampaignId := do
  Task.obey (r.check s.assigneeCap)
  let (item, variant) ← Task.ofState (s.catalog.get { item := r.item, variant := Id.given? r.variant })
  s.store.transact <| match r.id with
    | none => s.store.createCampaign s.now r item variant
    | some id => do
      s.store.updateCampaign s.now id r item variant
      return id

end Service

end Sponsorship
