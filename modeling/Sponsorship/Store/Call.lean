import Sponsorship.Assignee
import Sponsorship.Examination
import Sponsorship.Keyed
import Sponsorship.Listing
import Sponsorship.Questionnaire

/-!
# Calls on a store

* `Call`: everything that can be asked of a store within one unit of work.
* `Call.Reply`: the type of the answer to a call.

A call that reads what a later write depends on may ask for a lock on the rows it reads.
-/

namespace Sponsorship

open Time

inductive Call
  | getCampaign (id : CampaignId) (lock : Bool)
  /-- The campaigns among `ids` that are there, closed ones only if asked for. -/
  | campaignsAmong (ids : List CampaignId) (includeClosed : Bool)
  | listCampaigns (condition : ListCondition)
  | searchCampaigns (criteria : SearchCriteria) (condition : ListCondition)
  /-- The campaigns whose invitations end within a period. -/
  | campaignsEnding (first last : Instant)
  | createCampaign (campaign : Campaign)
  | updateCampaign (campaign : Campaign)
  /-- Deletes a campaign with everything that belongs to it, if it is there. -/
  | deleteCampaign (id : CampaignId)
  | getAssignee (campaign : CampaignId) (blogger : BloggerId) (lock : Bool)
  | listAssignees (campaign : CampaignId) (stage : Option Stage) (lock : Bool)
  | assigneesAmong (campaign : CampaignId) (bloggers : List BloggerId) (stage : Option Stage)
      (lock : Bool)
  /-- The assignees of all campaigns who wait for a verdict. -/
  | assigneesUnderExamination
  | participations (blogger : BloggerId)
  | countStages (campaign : CampaignId)
  | createAssignee (assignee : Assignee)
  | updateAssignee (assignee : Assignee)
  | deleteAssignee (id : AssigneeId)
  | latestExamination (campaign : CampaignId) (assignee : AssigneeId) (kind : EntryKind)
      (lock : Bool)
  | latestExaminations (campaign : CampaignId) (kind : EntryKind)
  | createExamination (examination : Examination)
  | updateExamination (examination : Examination)
  | findQuestionnaire (campaign : CampaignId) (lock : Bool)
  | saveQuestionnaire (questionnaire : Questionnaire)
  | deleteQuestionnaire (campaign : CampaignId)
  | listAnswers (campaign : CampaignId) (assignees : List AssigneeId)
  /-- Inserts answers; an answer of the same assignee to the same question is replaced. -/
  | saveAnswers (answers : List Answer)
  | deleteAnswers (campaign : CampaignId)
  deriving DecidableEq

abbrev Call.Reply : Call → Type
  | .getCampaign _ _ => Campaign
  | .campaignsAmong _ _ => List Campaign
  | .listCampaigns _ | .searchCampaigns _ _ => Page
  | .campaignsEnding _ _ => List CampaignId
  | .getAssignee _ _ _ => Assignee
  | .listAssignees _ _ _ | .assigneesAmong _ _ _ _ | .assigneesUnderExamination
  | .participations _ => List Assignee
  | .countStages _ => List StageCount
  | .latestExamination _ _ _ _ => Examination
  | .latestExaminations _ _ => Keyed BloggerId Examination
  | .findQuestionnaire _ _ => Option Questionnaire
  | .listAnswers _ _ => List Answer
  | .createCampaign _ | .updateCampaign _ | .deleteCampaign _ | .createAssignee _
  | .updateAssignee _ | .deleteAssignee _ | .createExamination _ | .updateExamination _
  | .saveQuestionnaire _ | .deleteQuestionnaire _ | .saveAnswers _ | .deleteAnswers _ => Unit

end Sponsorship
