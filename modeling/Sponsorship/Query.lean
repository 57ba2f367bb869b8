import Sponsorship.Command

/-!
# Queries

Everything that is read. A query reads in one unit of work, which it commits; campaigns are then
brought up to date with the catalog.

* `Query`, `Answered`: the questions and the kinds of answers.
* `Campaign.refreshed`: a campaign with the catalog's current description of its item.
* `Service.ask`: answer a query.
-/

namespace Sponsorship

open Time

abbrev AnswerSheet := Keyed QuestionId Answer

structure Participation where
  assignee : Assignee
  campaign : Campaign
  deriving DecidableEq, Repr

inductive Query
  | campaign (id : CampaignId)
  | campaigns (condition : ListCondition)
  | search (criteria : SearchCriteria) (condition : ListCondition)
  | ending (first last : Instant)
  | questionnaire (id : CampaignId)
  | answers (id : CampaignId) (bloggers : List BloggerId)
  | participations (blogger : BloggerId)
  | assignee (id : CampaignId) (blogger : BloggerId)
  | assignees (id : CampaignId) (stage : Option Stage)
  | underExamination
  | stageCounts (id : CampaignId)
  | examinations (id : CampaignId) (kind : EntryKind)
  | examination (id : CampaignId) (assignee : AssigneeId) (kind : EntryKind)

inductive Answered
  | campaign (campaign : Campaign)
  | page (page : Page)
  | ids (ids : List CampaignId)
  | questionnaire (questionnaire : Questionnaire)
  | sheets (sheets : Keyed BloggerId AnswerSheet)
  | participations (participations : List Participation)
  | assignee (assignee : Assignee)
  | assignees (assignees : List Assignee)
  | stageCounts (counts : List StageCount)
  | examinations (examinations : Keyed BloggerId Examination)
  | examination (examination : Examination)

/-- The campaign with the products that were found in the place of its own. -/
def Campaign.refreshed (found : Found) (c : Campaign) : Except Violation Campaign := do
  let c ← match found.items.get? c.item.id with
    | some item => c.edit (.item item)
    | none => pure c
  match c.variant.bind fun v => found.variants.get? v.id with
  | some variant => c.edit (.variant (some variant))
  | none => return c

/-- The keys without those that stand earlier in the list. -/
def distinctKeys : List ItemKey → List ItemKey → List ItemKey
  | _, [] => []
  | seen, k :: rest =>
    if seen.contains k then distinctKeys seen rest else k :: distinctKeys (k :: seen) rest

/-- The answers by blogger and question; each of the assignees has a sheet. -/
def answerSheets (assignees : List Assignee) (answers : List Answer) :
    Keyed BloggerId AnswerSheet :=
  let bloggers : Keyed AssigneeId BloggerId := Keyed.ofList (assignees.map fun a => (a.id, a.blogger))
  let empty : Keyed BloggerId AnswerSheet := Keyed.ofList (assignees.map fun a => (a.blogger, {}))
  answers.foldl (fun sheets answer =>
    match bloggers.get? answer.assignee with
    | none => sheets
    | some blogger =>
      match sheets.get? blogger with
      | none => sheets
      | some sheet => sheets.insert blogger (sheet.insert answer.question answer)) empty

/-- Each assignee with its campaign; a campaign that is not there, or was used before, leaves its
assignee out. -/
def pairUp : Keyed CampaignId Campaign → List Assignee → List Participation
  | _, [] => []
  | campaigns, a :: rest =>
    match campaigns.get? a.campaign with
    | none => pairUp campaigns rest
    | some campaign => { assignee := a, campaign } :: pairUp (campaigns.erase a.campaign) rest

/-- The place of a stage in the course of a campaign. -/
def Stage.place (s : Stage) : Nat := (code s).toNat

namespace Service

variable {σ υ : Type}

/-- Campaigns with the catalog's current descriptions of their items. -/
def refresh (s : Service σ υ) (cs : List Campaign) : Task σ (List Campaign) :=
  if cs.isEmpty then return cs
  else do
    let found ← Task.ofState (s.catalog.getAll (distinctKeys [] (cs.map Campaign.itemKey)))
    Task.obey (cs.mapM (Campaign.refreshed found))

/-- The reply to one call, as a unit of its own. -/
def read (s : Service σ υ) (c : Call) : Task σ c.Reply := s.store.transact (s.store.call c)

/-- A page of campaigns; the keys to sort by are checked first. -/
def readPage (s : Service σ υ) (condition : ListCondition) (c : Task υ Page) : Task σ Page := do
  Task.obey condition.checkKeys
  let page ← s.store.transact c
  return { page with campaigns := (← s.refresh page.campaigns) }

def readCampaign (s : Service σ υ) (id : CampaignId) : Task σ Campaign := do
  let campaign : Campaign ← s.read (.getCampaign id false)
  match ← s.refresh [campaign] with
  | refreshed :: _ => return refreshed
  | [] => return campaign

/-- The answers of the bloggers among the assignees of a campaign. -/
def readAnswers (s : Service σ υ) (id : CampaignId) (bloggers : List BloggerId) :
    Task σ (Keyed BloggerId AnswerSheet) :=
  s.store.transact do
    let assignees : List Assignee ← s.store.call (.assigneesAmong id bloggers none false)
    let answers : List Answer ← s.store.call (.listAnswers id (assignees.map Assignee.id))
    return answerSheets assignees answers

/-- The campaigns that are not closed of a blogger. -/
def readParticipations (s : Service σ υ) (blogger : BloggerId) :
    Task σ (List Participation) := do
  let (assignees, campaigns) ← s.store.transact do
    let assignees : List Assignee ← s.store.call (.participations blogger)
    let campaigns : List Campaign ← s.store.call
      (.campaignsAmong (assignees.map Assignee.campaign) false)
    return (assignees, campaigns)
  let campaigns ← s.refresh campaigns
  return pairUp (Keyed.ofList (campaigns.map fun c => (c.id, c))) assignees

/-- The numbers of assignees in the order of the stages. -/
def readStageCounts (s : Service σ υ) (id : CampaignId) : Task σ (List StageCount) := do
  let counts : List StageCount ← s.read (.countStages id)
  return counts.mergeSort fun a b => a.stage.place ≤ b.stage.place

def ask (s : Service σ υ) : Query → Task σ Answered
  | .campaign id => .campaign <$> s.readCampaign id
  | .campaigns condition =>
    .page <$> s.readPage condition (s.store.call (.listCampaigns condition))
  | .search criteria condition =>
    .page <$> s.readPage condition (s.store.call (.searchCampaigns criteria condition))
  | .ending first last => do
    Task.obey (demand (first.upTo last) .periodReversed)
    .ids <$> s.read (.campaignsEnding first last)
  | .questionnaire id => do
    let found : Option Questionnaire ← s.read (.findQuestionnaire id false)
    match found with
    | some questionnaire => return .questionnaire questionnaire
    | none => throw (.notFound (.questionnaire id))
  | .answers id bloggers => .sheets <$> s.readAnswers id bloggers
  | .participations blogger => .participations <$> s.readParticipations blogger
  | .assignee id blogger => .assignee <$> s.read (.getAssignee id blogger false)
  | .assignees id stage => .assignees <$> s.read (.listAssignees id stage false)
  | .underExamination => .assignees <$> s.read .assigneesUnderExamination
  | .stageCounts id => .stageCounts <$> s.readStageCounts id
  | .examinations id kind => .examinations <$> s.read (.latestExaminations id kind)
  | .examination id assignee kind =>
    .examination <$> s.read (.latestExamination id assignee kind false)

end Service

end Sponsorship
