import Sponsorship.Listing
import Sponsorship.Sql.Layout.Campaign
import Sponsorship.Sql.Layout.Participation
import Sponsorship.Sql.Layout.Product
import Sponsorship.Sql.Layout.Questionnaire
import Sponsorship.Sql.Pattern

/-!
# Selections

* `Selection`: everything that is read.
* `Selection.text`, `Selection.parameters`: a selection as a statement. What a caller supplies is a
  parameter and never part of the text.
* `Filter`: a condition on campaigns with one parameter; counting and listing share them.
-/

namespace Sponsorship.Sql

open Time

def place (n : Nat) : String := "$" ++ toString n

def lockText (lock : Bool) : String := if lock then " FOR UPDATE" else ""

/-- Locks the rows of assignees but not of the campaign. -/
def assigneeLockText (lock : Bool) : String := if lock then " FOR UPDATE OF a" else ""

/-! ## Conditions and order of campaigns -/

/-- A condition with one parameter, between two pieces of text. -/
structure Filter where
  front : String
  back : String
  value : String

def filters (c : SearchCriteria) : List Filter :=
  (c.givenName?.map fun n => ⟨" AND o.name ILIKE ", "", containing n⟩).toList ++
    (c.givenItem?.map fun id => ⟨" AND LOWER(o.item_id) = LOWER(", ")", id.text⟩).toList ++
    (c.givenVariant?.map fun id => ⟨" AND LOWER(o.df_item_id) = LOWER(", ")", id.text⟩).toList

/-- The text of conditions whose first parameter has number `n`. -/
def filterText : (n : Nat) → List Filter → String
  | _, [] => ""
  | n, f :: fs => f.front ++ place n ++ f.back ++ filterText (n + 1) fs

def keyColumn : CampaignKey → String
  | .createdAt => "o.created_at"
  | .name => "o.name"
  | .id => "o.id"

structure SortOrder where
  key : CampaignKey
  descending : Bool
  deriving DecidableEq, Repr

namespace SortOrder

def text (o : SortOrder) : String :=
  keyColumn o.key ++ if o.descending then " DESC, " else " ASC, "

def ofKey (k : SortKey) : Except Violation SortOrder := do
  return { key := ← k.campaignKey, descending := k.descending }

end SortOrder

/-! ## Selections -/

inductive Selection
  | campaign (id : CampaignId) (lock : Bool)
  | campaigns (ids : List CampaignId) (includeClosed : Bool)
  | campaignCount (criteria : SearchCriteria)
  | campaignPage (criteria : SearchCriteria) (orders : List SortOrder) (limit offset : Nat)
  | campaignsEnding (first last : Instant)
  | schedules (campaigns : List CampaignId)
  | assignee (campaign : CampaignId) (blogger : BloggerId) (lock : Bool)
  | assignees (campaign : CampaignId) (stage : Option Stage) (lock : Bool)
  | assigneesAmong (campaign : CampaignId) (bloggers : List BloggerId) (stage : Option Stage)
      (lock : Bool)
  | assigneesStanding (stages : List Stage)
  | participations (blogger : BloggerId)
  | stageCounts (campaign : CampaignId)
  | latestExamination (campaign : CampaignId) (assignee : AssigneeId) (kind : EntryKind)
      (lock : Bool)
  | examinationCount (campaign : CampaignId) (assignee : AssigneeId) (kind : EntryKind)
  | latestExaminations (campaign : CampaignId) (kind : EntryKind)
  | description (campaign : CampaignId) (lock : Bool)
  | questions (campaign : CampaignId)
  | answers (campaign : CampaignId) (assignees : List AssigneeId)
  | payloads (kind : ProductKind) (ids : List String)

/-- Campaigns that were not deleted. -/
def campaignText : String :=
  "SELECT " ++ CampaignRow.columns.text ++
    " FROM offer_item o JOIN drafted_item_info d ON d.offer_item_id = o.id" ++
    " WHERE o.deleted_at IS NULL"

/-- Assignees of campaigns that were not deleted. -/
def assigneeText : String :=
  "SELECT " ++ AssigneeRow.columns.text ++
    " FROM assignee a JOIN offer_item o ON o.id = a.offer_item_id WHERE o.deleted_at IS NULL"

def submissionText : String :=
  " FROM examination WHERE offer_item_id = $1 AND assignee_id = $2 AND entry_type = $3"

namespace Selection

def text : Selection → String
  | .campaign _ lock => campaignText ++ " AND o.id = $1" ++ lockText lock
  | .campaigns _ includeClosed =>
    campaignText ++ " AND o.id = ANY($1)" ++
      (if includeClosed then "" else " AND o.is_closed = FALSE") ++ " ORDER BY o.created_at"
  | .campaignCount criteria =>
    "SELECT COUNT(*) FROM offer_item o WHERE o.deleted_at IS NULL" ++
      filterText 1 (filters criteria)
  | .campaignPage criteria orders _ _ =>
    let n := (filters criteria).length
    campaignText ++ filterText 1 (filters criteria) ++ " ORDER BY " ++
      String.join (orders.map SortOrder.text) ++ "o.id ASC LIMIT " ++ place (n + 1) ++
      " OFFSET " ++ place (n + 2)
  | .campaignsEnding _ _ =>
    "SELECT o.id FROM offer_item o JOIN schedule s ON s.offer_item_id = o.id" ++
      " WHERE o.deleted_at IS NULL AND s.schedule_type = $1" ++
      " AND s.end_date BETWEEN $2 AND $3 ORDER BY s.end_date, o.id"
  | .schedules _ =>
    "SELECT " ++ ScheduleRow.columns.text ++
      " FROM schedule WHERE offer_item_id = ANY($1) ORDER BY schedule_type"
  | .assignee _ _ lock =>
    assigneeText ++ " AND a.offer_item_id = $1 AND a.ameba_id = $2" ++ assigneeLockText lock
  | .assignees _ _ lock =>
    assigneeText ++ " AND a.offer_item_id = $1 AND ($2::SMALLINT IS NULL OR a.stage = $2)" ++
      " ORDER BY a.created_at, a.id" ++ assigneeLockText lock
  | .assigneesAmong _ _ _ lock =>
    assigneeText ++ " AND a.offer_item_id = $1 AND a.ameba_id = ANY($2)" ++
      " AND ($3::SMALLINT IS NULL OR a.stage = $3) ORDER BY a.created_at, a.id" ++
      assigneeLockText lock
  | .assigneesStanding _ => assigneeText ++ " AND a.stage = ANY($1) ORDER BY a.created_at, a.id"
  | .participations _ => assigneeText ++ " AND a.ameba_id = $1 ORDER BY a.created_at, a.id"
  | .stageCounts _ =>
    "SELECT " ++ StageCountRow.columns.text ++
      " FROM assignee a JOIN offer_item o ON o.id = a.offer_item_id" ++
      " WHERE o.deleted_at IS NULL AND a.offer_item_id = $1 GROUP BY a.stage ORDER BY a.stage"
  | .latestExamination _ _ _ lock =>
    "SELECT " ++ ExaminationRow.columns.text ++ submissionText ++
      " ORDER BY created_at DESC, seq DESC LIMIT 1" ++ lockText lock
  | .examinationCount _ _ _ => "SELECT COUNT(*)" ++ submissionText
  | .latestExaminations _ _ =>
    "SELECT DISTINCT ON (assignee_id) " ++ ExaminationRow.countedColumns.text ++
      " FROM examination WHERE offer_item_id = $1 AND entry_type = $2" ++
      " ORDER BY assignee_id, created_at DESC, seq DESC"
  | .description _ lock =>
    "SELECT description FROM questionnaire WHERE offer_item_id = $1" ++ lockText lock
  | .questions _ =>
    "SELECT " ++ QuestionRow.columns.text ++
      " FROM questionnaire_question WHERE offer_item_id = $1 ORDER BY priority"
  | .answers _ _ =>
    "SELECT " ++ answerColumns.text ++
      " FROM questionnaire_question_answer WHERE offer_item_id = $1 AND assignee_id = ANY($2)" ++
      " ORDER BY assignee_id, question_id"
  | .payloads _ _ => "SELECT payload FROM catalog_item WHERE kind = $1 AND id = ANY($2)"

/-- The parameters in the order of their numbers. -/
def parameters : Selection → List Value
  | .campaign id _ => [.id id]
  | .campaigns ids _ => [.ids ids]
  | .campaignCount criteria => (filters criteria).map fun f => .text f.value
  | .campaignPage criteria _ limit offset =>
    (filters criteria).map (fun f => .text f.value) ++ [.integer limit, .integer offset]
  | .campaignsEnding first last => [.word ScheduleKind.invitation, .instant first, .instant last]
  | .schedules ids => [.ids ids]
  | .assignee id blogger _ => [.id id, .id blogger]
  | .assignees id stage _ => [.id id, .orNull .word stage]
  | .assigneesAmong id bloggers stage _ => [.id id, .ids bloggers, .orNull .word stage]
  | .assigneesStanding stages => [.integers (stages.map code)]
  | .participations blogger => [.id blogger]
  | .stageCounts id => [.id id]
  | .latestExamination id author kind _ | .examinationCount id author kind =>
    [.id id, .id author, .word kind]
  | .latestExaminations id kind => [.id id, .word kind]
  | .description id _ => [.id id]
  | .questions id => [.id id]
  | .answers id authors => [.id id, .ids authors]
  | .payloads kind ids => [.text kind.name, .texts ids]

end Selection

end Sponsorship.Sql
