import Sponsorship.Query
import Sponsorship.Wire.Campaign

/-!
# Wire forms of participations

Assignees, submissions, questionnaires and answers, and what commands and queries answer.
-/

namespace Sponsorship

namespace Assignee

def reader : Reader Assignee := Record.reader "Assignee" <|
  Assignee.mk <$> .required "id" .id <*> .required "offer_item_id" .id
    <*> .required "ameba_id" .id <*> .required "writing_fee" .int64 <*> .required "stage" .word
    <*> .optional "decline_reason" .text <*> .required "created_at" .instant
    <*> .defaulting "shipping_data" (.list .text) [] <*> .optional "jan_code" .text

def json (a : Assignee) : Json :=
  .object [("id", .ofId a.id), ("offer_item_id", .ofId a.campaign), ("ameba_id", .ofId a.blogger),
    ("writing_fee", .int a.fee), ("stage", .word a.stage),
    ("decline_reason", .ofText? a.declineReason), ("created_at", .instant a.createdAt),
    ("shipping_data", .ofTexts a.shippingData), ("jan_code", .ofText? a.janCode)]

end Assignee

def LotteryResult.reader : Reader LotteryResult := Record.reader "LotteryResult" <|
  LotteryResult.mk <$> .required "is_passed_lottery" .bool
    <*> .defaulting "shipping_data" (.list .text) [] <*> .optional "jan_code" .text

def StageCount.json (c : StageCount) : Json :=
  .object [("stage", .word c.stage), ("count", .nat c.count)]

def Verdict.reader : Reader Verdict := Record.reader "ExaminationVerdict" <|
  Verdict.mk <$> .required "is_passed" .bool <*> .required "examiner_name" .text
    <*> .optional "reason" .text

namespace Examination

def reader : Reader Examination := Record.reader "Examination" <|
  Examination.mk <$> .required "id" .id <*> .required "offer_item_id" .id
    <*> .required "assignee_id" .id <*> .required "ameba_id" .id <*> .required "entry_type" .word
    <*> .optional "entry_id" .id <*> .optional "is_passed" .bool
    <*> .optional "examiner_name" .text <*> .optional "reason" .text
    <*> .required "created_at" .instant <*> .defaulting "entry_submission_count" .nat32 0

def json (e : Examination) : Json :=
  .object [("id", .ofId e.id), ("offer_item_id", .ofId e.campaign),
    ("assignee_id", .ofId e.assignee), ("ameba_id", .ofId e.blogger), ("entry_type", .word e.kind),
    ("entry_id", .orNull .ofId e.entry), ("is_passed", .orNull .bool e.passed),
    ("examiner_name", .ofText? e.examiner), ("reason", .ofText? e.reason),
    ("created_at", .instant e.createdAt), ("entry_submission_count", .nat e.submissions)]

end Examination

namespace Question

def reader : Reader Question := Record.reader "Question" <|
  Question.mk <$> .required "id" .id <*> .required "question_type" .word
    <*> .required "title" .text <*> .defaulting "image_url" .text ""
    <*> .defaulting "options" (.list .text) []

def json (q : Question) : Json :=
  .object [("id", .ofId q.id), ("question_type", .word q.kind), ("title", .string q.title),
    ("image_url", .string q.imageUrl), ("options", .ofTexts q.options)]

end Question

def QuestionInput.reader : Reader QuestionInput := Record.reader "QuestionInput" <|
  QuestionInput.mk <$> .optional "id" .id <*> .required "question_type" .word
    <*> .required "title" .text <*> .defaulting "image_url" .text ""
    <*> .defaulting "options" (.list .text) []

namespace Questionnaire

def reader : Reader Questionnaire := Record.reader "Questionnaire" <|
  Questionnaire.mk <$> .required "offer_item_id" .id <*> .required "description" .text
    <*> .required "questions" (.list Question.reader)

def json (q : Questionnaire) : Json :=
  .object [("offer_item_id", .ofId q.campaign), ("description", .string q.description),
    ("questions", .list Question.json q.questions)]

end Questionnaire

def Answer.json (a : Answer) : Json :=
  .object [("offer_item_id", .ofId a.campaign), ("assignee_id", .ofId a.assignee),
    ("question_id", .ofId a.question), ("content", .string a.content)]

def Report.json (r : Report) : Json :=
  .object [("transitioned", .nat r.moved), ("skipped", .nat r.skipped)]

def Page.json (p : Page) : Json :=
  .object [("offer_items", .list Campaign.json p.campaigns),
    ("list_result", .object [("count", .nat p.campaigns.length), ("total_count", .nat p.total)])]

def Participation.json (p : Participation) : Json :=
  .object [("assignee", p.assignee.json), ("offer_item", p.campaign.json)]

/-- The answer to a query, without anything around it. -/
def Answered.json : Answered → Json
  | .campaign c => c.json
  | .page p => p.json
  | .ids campaignIds => .ofIds campaignIds
  | .questionnaire q => q.json
  | .sheets m => .keyedById (.keyedById Answer.json) m
  | .participations ps => .list Participation.json ps
  | .assignee a => a.json
  | .assignees as => .list Assignee.json as
  | .stageCounts counts => .list StageCount.json counts
  | .examinations es => .keyedById Examination.json es
  | .examination e => e.json

end Sponsorship
