import Sponsorship.Questionnaire
import Sponsorship.Sql.Column

/-!
# Layout of questionnaires

* `questionnaireFields`, `questionFields`, `answerFields`: what is written. The order of the
  questions is a column of its own.
* `QuestionRow`: a row whose code is not decoded yet; `answerColumns`: an answer.
-/

namespace Sponsorship.Sql

def questionnaireFields (q : Questionnaire) : List Field :=
  [⟨"offer_item_id", .id q.campaign⟩, ⟨"description", .text q.description⟩]

/-- A question at its place in a questionnaire. -/
def questionFields (id : CampaignId) (place : Nat) (q : Question) : List Field :=
  [⟨"id", .id q.id⟩, ⟨"offer_item_id", .id id⟩, ⟨"priority", .integer place⟩,
    ⟨"question_type", .word q.kind⟩, ⟨"title", .text q.title⟩, ⟨"image_url", .text q.imageUrl⟩,
    ⟨"options", .json (.ofTexts q.options)⟩]

def answerFields (a : Answer) : List Field :=
  [⟨"offer_item_id", .id a.campaign⟩, ⟨"assignee_id", .id a.assignee⟩,
    ⟨"question_id", .id a.question⟩, ⟨"content", .text a.content⟩]

structure QuestionRow where
  id : QuestionId
  kind : Int
  title : String
  imageUrl : String
  options : List String

namespace QuestionRow

def columns : Columns QuestionRow :=
  QuestionRow.mk <$> .of .question "id" .id <*> .of .question "question_type" .integer
    <*> .of .question "title" .text <*> .of .question "image_url" .text
    <*> .of .question "options" (.document (.list .text))

def question (r : QuestionRow) : Except Outage Question := do
  return { id := r.id, kind := ← decoded "questionnaire_question.question_type" r.kind,
           title := r.title, imageUrl := r.imageUrl, options := r.options }

end QuestionRow

def answerColumns : Columns Answer :=
  Answer.mk <$> .of .answer "offer_item_id" .id <*> .of .answer "assignee_id" .id
    <*> .of .answer "question_id" .id <*> .of .answer "content" .text

end Sponsorship.Sql
