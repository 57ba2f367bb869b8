import Sponsorship.Assignee
import Sponsorship.Examination
import Sponsorship.Sql.Column

/-!
# Layout of assignees and submissions

* `assigneeFields`, `progress`: a new assignee, and what can change of it.
* `examinationFields`, `verdictFields`: a new submission, and what a verdict changes.
* `AssigneeRow`, `StageCountRow`, `ExaminationRow`: rows whose codes are not decoded yet.
-/

namespace Sponsorship.Sql

open Time

/-! ## Assignees -/

/-- The fields of an assignee that can change. -/
def progress (a : Assignee) : List Field :=
  [⟨"writing_fee", .integer a.fee⟩, ⟨"stage", .word a.stage⟩,
    ⟨"decline_reason", .orNull .text a.declineReason⟩,
    ⟨"shipping_data", .json (.ofTexts a.shippingData)⟩, ⟨"jan_code", .orNull .text a.janCode⟩]

def assigneeFields (a : Assignee) : List Field :=
  [⟨"id", .id a.id⟩, ⟨"offer_item_id", .id a.campaign⟩, ⟨"ameba_id", .id a.blogger⟩] ++
    progress a ++ [⟨"created_at", .instant a.createdAt⟩]

structure AssigneeRow where
  id : AssigneeId
  campaign : CampaignId
  blogger : BloggerId
  fee : Int
  stage : Int
  declineReason : Option String
  shippingData : List String
  janCode : Option String
  createdAt : Instant

namespace AssigneeRow

def columns : Columns AssigneeRow :=
  AssigneeRow.mk <$> .of .assignee "id" .id <*> .of .assignee "offer_item_id" .id
    <*> .of .assignee "ameba_id" .id <*> .of .assignee "writing_fee" .integer
    <*> .of .assignee "stage" .integer <*> .of .assignee "decline_reason" (.optional .text)
    <*> .of .assignee "shipping_data" (.document (.list .text))
    <*> .of .assignee "jan_code" (.optional .text) <*> .of .assignee "created_at" .instant

def assignee (r : AssigneeRow) : Except Outage Assignee := do
  return { id := r.id, campaign := r.campaign, blogger := r.blogger, fee := r.fee,
           stage := ← decoded "assignee.stage" r.stage, declineReason := r.declineReason,
           createdAt := r.createdAt, shippingData := r.shippingData, janCode := r.janCode }

end AssigneeRow

/-- How many assignees stand in a stage, which is a code. -/
structure StageCountRow where
  stage : Int
  count : Int

namespace StageCountRow

def columns : Columns StageCountRow :=
  StageCountRow.mk <$> .one (.computed "a.stage" "0") .integer
    <*> .one (.computed "COUNT(*)" "1") .integer

def stageCount (r : StageCountRow) : Except Outage StageCount := do
  return { stage := ← decoded "assignee.stage" r.stage, count := r.count.toNat }

end StageCountRow

/-! ## Examinations -/

/-- The fields of a submission that a verdict changes. -/
def verdictFields (e : Examination) : List Field :=
  [⟨"is_passed", .orNull .bool e.passed⟩, ⟨"examiner_name", .orNull .text e.examiner⟩,
    ⟨"reason", .orNull .text e.reason⟩]

def examinationFields (e : Examination) : List Field :=
  [⟨"id", .id e.id⟩, ⟨"offer_item_id", .id e.campaign⟩, ⟨"assignee_id", .id e.assignee⟩,
    ⟨"ameba_id", .id e.blogger⟩, ⟨"entry_type", .word e.kind⟩,
    ⟨"entry_id", .orNull .id e.entry⟩] ++
    verdictFields e ++ [⟨"created_at", .instant e.createdAt⟩]

structure ExaminationRow where
  id : ExaminationId
  campaign : CampaignId
  assignee : AssigneeId
  blogger : BloggerId
  kind : Int
  entry : Option EntryId
  passed : Option Bool
  examiner : Option String
  reason : Option String
  createdAt : Instant

namespace ExaminationRow

def columns : Columns ExaminationRow :=
  ExaminationRow.mk <$> .of .examination "id" .id <*> .of .examination "offer_item_id" .id
    <*> .of .examination "assignee_id" .id <*> .of .examination "ameba_id" .id
    <*> .of .examination "entry_type" .integer <*> .of .examination "entry_id" (.optional .id)
    <*> .of .examination "is_passed" (.optional .bool)
    <*> .of .examination "examiner_name" (.optional .text)
    <*> .of .examination "reason" (.optional .text) <*> .of .examination "created_at" .instant

/-- The column of the number of submissions by one assignee. -/
def countColumn : Columns Int :=
  .one (.computed "COUNT(*) OVER (PARTITION BY assignee_id) AS submission_count"
    (Text.quoted "submission_count")) .integer

def countedColumns : Columns (ExaminationRow × Int) := Prod.mk <$> columns <*> countColumn

/-- A number of submissions fits 32 bits. -/
def checkCount (n : Int) : Except Outage Nat :=
  if n < 0 then .error (.corrupt "examination submission count" .countTooSmall)
  else if 0x100000000 ≤ n then .error (.corrupt "examination submission count" .countTooLarge)
  else .ok n.toNat

/-- The submission of a row, with the number of submissions. -/
def examination (r : ExaminationRow) (count : Int) : Except Outage Examination := do
  let kind ← decoded "examination.entry_type" r.kind
  let submissions ← checkCount count
  return { id := r.id, campaign := r.campaign, assignee := r.assignee, blogger := r.blogger, kind,
           entry := r.entry, passed := r.passed, examiner := r.examiner, reason := r.reason,
           createdAt := r.createdAt, submissions }

end ExaminationRow

end Sponsorship.Sql
