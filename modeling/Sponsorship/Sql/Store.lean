import Sponsorship.Sql.Link
import Sponsorship.Store.Transaction

/-!
# A store in a database

Every unit of work is one serializable transaction.

* `Link.answer`: the statements for a call, and the reply that their answers make up.
* `Link.store`: the store.
-/

namespace Sponsorship.Sql

/-! ## Statements for writes -/

/-- Writes the drafted product and the schedules of a campaign; old schedules make room. -/
def partWrites (c : Campaign) : List Statement :=
  [.insert .drafted (draftedFields c.id c.drafted) ["offer_item_id"],
    .delete .schedule "offer_item_id" c.id.text] ++
    c.schedules.map fun s => .insert .schedule (scheduleFields c.id s) []

def partDeletions (id : CampaignId) : List Statement :=
  [Table.answer, .question, .questionnaire, .examination, .assignee, .schedule, .drafted].map
    fun table => .delete table "offer_item_id" id.text

/-- Deletes an assignee with what depends on it. -/
def assigneeDeletions (id : AssigneeId) : List Statement :=
  [.delete .answer "assignee_id" id.text, .delete .examination "assignee_id" id.text,
    .delete .assignee "id" id.text]

/-- Writes a questionnaire; old questions make room. -/
def questionnaireWrites (q : Questionnaire) : List Statement :=
  [.insert .questionnaire (questionnaireFields q) ["offer_item_id"],
    .delete .question "offer_item_id" q.campaign.text] ++
    q.questions.zipIdx.map fun (question, i) =>
      .insert .question (questionFields q.campaign i question) []

/-- Writes an answer, in the place of one to the same question. -/
def answerWrite (a : Answer) : Statement :=
  .insert .answer (answerFields a) ["offer_item_id", "assignee_id", "question_id"]

/-! ## Reading campaigns -/

/-- The campaigns of rows, each with its schedules. Of two rows of one campaign the first takes
them. -/
def assembled : List (CampaignId × Schedule) → List CampaignRow → Except Outage (List Campaign)
  | _, [] => .ok []
  | schedules, row :: rows => do
    let (own, others) := schedules.partition fun s => s.1 = row.id
    let campaign ← row.campaign (own.map Prod.snd)
    return campaign :: (← assembled others rows)

namespace Link

variable {σ : Type}

def assemble (l : Link σ) (rows : List CampaignRow) : Exchange σ (List Campaign) := do
  let schedules ← l.all (.schedules (rows.map CampaignRow.id)) ScheduleRow.columns
  let schedules ← readable (schedules.mapM fun r => do return (r.campaign, ← r.schedule))
  readable (assembled schedules rows)

def campaign (l : Link σ) (id : CampaignId) (lock : Bool) : Exchange σ Campaign := do
  match ← l.first? (.campaign id lock) CampaignRow.columns with
  | none => throw (.notFound (.campaign id))
  | some row =>
    match ← l.assemble [row] with
    | campaign :: _ => return campaign
    | [] => throw (.notFound (.campaign id))

/-- A page of campaigns. The count comes first, then the keys to sort by are looked at. -/
def page (l : Link σ) (criteria : SearchCriteria) (condition : ListCondition) :
    Exchange σ Page := do
  let total ← l.only (.campaignCount criteria) (.sole "COUNT(*)" .integer)
  let orders ← fun c => ((condition.sorts.mapM SortOrder.ofKey).mapError .validation, c)
  let rows ← l.all (.campaignPage criteria orders condition.limit condition.offset)
    CampaignRow.columns
  return { campaigns := ← l.assemble rows, total := total.toNat }

/-! ## Reading the rest -/

def assignees (l : Link σ) (s : Selection) : Exchange σ (List Assignee) := do
  let rows ← l.all s AssigneeRow.columns
  readable (rows.mapM AssigneeRow.assignee)

def assignee (l : Link σ) (campaign : CampaignId) (blogger : BloggerId) (lock : Bool) :
    Exchange σ Assignee := do
  match ← l.first? (.assignee campaign blogger lock) AssigneeRow.columns with
  | some row => readable row.assignee
  | none => throw (.notFound (.participation blogger campaign))

/-- The latest submission. A selection that locks rows cannot count, so the count is another. -/
def latestExamination (l : Link σ) (campaign : CampaignId) (assignee : AssigneeId)
    (kind : EntryKind) (lock : Bool) : Exchange σ Examination := do
  match ← l.first? (.latestExamination campaign assignee kind lock) ExaminationRow.columns with
  | none => throw (.notFound (.submission kind assignee))
  | some row =>
    let count ← l.only (.examinationCount campaign assignee kind) (.sole "COUNT(*)" .integer)
    readable (row.examination count)

def latestExaminations (l : Link σ) (campaign : CampaignId) (kind : EntryKind) :
    Exchange σ (Keyed BloggerId Examination) := do
  let rows ← l.all (.latestExaminations campaign kind) ExaminationRow.countedColumns
  let examinations ← readable (rows.mapM fun (row, count) => row.examination count)
  return Keyed.ofList (examinations.map fun e => (e.blogger, e))

def questionnaire? (l : Link σ) (campaign : CampaignId) (lock : Bool) :
    Exchange σ (Option Questionnaire) := do
  match ← l.first? (.description campaign lock) (.sole "description" .text) with
  | none => return none
  | some description =>
    let rows ← l.all (.questions campaign) QuestionRow.columns
    let questions ← readable (rows.mapM QuestionRow.question)
    return some { campaign, description, questions }

def stageCounts (l : Link σ) (campaign : CampaignId) : Exchange σ (List StageCount) := do
  let rows ← l.all (.stageCounts campaign) StageCountRow.columns
  readable (rows.mapM StageCountRow.stageCount)

/-! ## The store -/

def answer (l : Link σ) : (c : Call) → Exchange σ c.Reply
  | .getCampaign id lock => l.campaign id lock
  | .campaignsAmong ids includeClosed => do
    l.assemble (← l.all (.campaigns ids includeClosed) CampaignRow.columns)
  | .listCampaigns condition => l.page {} condition
  | .searchCampaigns criteria condition => l.page criteria condition
  | .campaignsEnding first last => l.all (.campaignsEnding first last) (.sole "o.id" .id)
  | .createCampaign c => do
    l.write (.insert .campaign (campaignFields c) [])
    l.writeAll (partWrites c)
  | .updateCampaign c => do
    l.change (.update .campaign c.id.text (contents c)) (.campaign c.id)
    l.writeAll (partWrites c)
  | .deleteCampaign id => l.writeAll (.retire id :: partDeletions id)
  | .getAssignee campaign blogger lock => l.assignee campaign blogger lock
  | .listAssignees campaign stage lock => l.assignees (.assignees campaign stage lock)
  | .assigneesAmong campaign bloggers stage lock =>
    l.assignees (.assigneesAmong campaign bloggers stage lock)
  | .assigneesUnderExamination =>
    l.assignees (.assigneesStanding [.preExamination, .examination])
  | .participations blogger => l.assignees (.participations blogger)
  | .countStages campaign => l.stageCounts campaign
  | .createAssignee a => l.write (.insert .assignee (assigneeFields a) [])
  | .updateAssignee a => l.change (.update .assignee a.id.text (progress a)) (.assignee a.id)
  | .deleteAssignee id => l.writeAll (assigneeDeletions id)
  | .latestExamination campaign assignee kind lock =>
    l.latestExamination campaign assignee kind lock
  | .latestExaminations campaign kind => l.latestExaminations campaign kind
  | .createExamination e => l.write (.insert .examination (examinationFields e) [])
  | .updateExamination e =>
    l.change (.update .examination e.id.text (verdictFields e)) (.examination e.id)
  | .findQuestionnaire campaign lock => l.questionnaire? campaign lock
  | .saveQuestionnaire q => l.writeAll (questionnaireWrites q)
  | .deleteQuestionnaire campaign =>
    l.writeAll [.delete .question "offer_item_id" campaign.text,
      .delete .questionnaire "offer_item_id" campaign.text]
  | .listAnswers campaign authors => l.all (.answers campaign authors) answerColumns
  | .saveAnswers answers => l.writeAll (answers.map answerWrite)
  | .deleteAnswers campaign => l.write (.delete .answer "offer_item_id" campaign.text)

/-- Gives up what was written since the transaction was opened. -/
def rollBack (l : Link σ) (c : σ) : σ := (l.send .rollback c).2

/-- Opens a transaction. One that cannot be made serializable is given up. -/
def openTransaction (l : Link σ) (c : σ) : Except Fault σ × σ :=
  match l.send .begin c with
  | (.error r, c) => (.error r.fault, c)
  | (.ok _, c) =>
    match l.send .serializable c with
    | (.error r, c) => (.error r.fault, l.rollBack c)
    | (.ok _, c) => (.ok c, c)

/-- Closes a transaction. One that cannot be committed is given up. -/
def commit (l : Link σ) (c : σ) : Except Fault Unit × σ :=
  match l.send .commit c with
  | (.error r, c) => (.error r.fault, l.rollBack c)
  | (.ok _, c) => (.ok (), c)

/-- The store in the database. A unit of work has the connection to itself. -/
def store (l : Link σ) : Store σ σ where
  begin := l.openTransaction
  perform c := l.answer c
  commit unit _ := l.commit unit
  abandon unit _ := l.rollBack unit

end Link

end Sponsorship.Sql
