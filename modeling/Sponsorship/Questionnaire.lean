import Sponsorship.Keyed
import Sponsorship.Minting

/-!
# Questionnaires

The questions a campaign asks an assignee who accepts, and the answers.

* `Question`, `Questionnaire`: with the checks of their parts.
* `Questionnaire.ofInputs`: all questions are new.
* `Questionnaire.reconcile`: questions of the old questionnaire are kept where an input names them.
* `Answer.sheet`: the answers of an assignee, checked against the questionnaire.
-/

namespace Sponsorship

/-- A question; a choice has options. -/
structure Question where
  id : QuestionId
  kind : QuestionKind
  title : String
  imageUrl : String
  options : List String
  deriving DecidableEq, Repr

structure QuestionInput where
  id : Option QuestionId
  kind : QuestionKind
  title : String
  imageUrl : String := ""
  options : List String := []
  deriving DecidableEq, Repr

structure Questionnaire where
  campaign : CampaignId
  description : String
  questions : List Question
  deriving DecidableEq, Repr

structure Answer where
  campaign : CampaignId
  assignee : AssigneeId
  question : QuestionId
  content : String
  deriving DecidableEq, Repr

namespace Question

/-- A choice has options, no two of them alike; a free text has none. -/
def checkOptions (kind : QuestionKind) (options : List String) : Except Violation Unit :=
  match kind with
  | .radio => do
    demand (!options.isEmpty) .optionsLacking
    demand (firstRepeat? [] options).isNone .optionsRepeated
  | .text => demand options.isEmpty .optionsUnwanted

/-- A question with a title and suitable options. -/
def create (id : QuestionId) (kind : QuestionKind) (title imageUrl : String)
    (options : List String) : Except Violation Question := do
  requireText .questionTitle title
  checkOptions kind options
  return { id, kind, title, imageUrl, options }

def setTitle (q : Question) (title : String) : Except Violation Question := do
  requireText .questionTitle title
  return { q with title }

def setImageUrl (q : Question) (imageUrl : String) : Question := { q with imageUrl }

def setOptions (q : Question) (kind : QuestionKind) (options : List String) :
    Except Violation Question := do
  checkOptions kind options
  return { q with kind, options }

/-- The question with everything but its identifier from an input. -/
def revise (q : Question) (i : QuestionInput) : Except Violation Question := do
  let q ← q.setTitle i.title
  (q.setImageUrl i.imageUrl).setOptions i.kind i.options

end Question

def QuestionInput.pose (i : QuestionInput) : Minting Question := do
  let id ← Minting.mint .question
  Minting.obey (Question.create id i.kind i.title i.imageUrl i.options)

namespace Questionnaire

def checkDescription (description : String) : Except Violation Unit :=
  requireText .questionnaireDescription description

/-- There are questions, and no two have one title. -/
def checkQuestions (qs : List Question) : Except Violation Unit := do
  demand (!qs.isEmpty) .questionsLacking
  match firstRepeat? [] (qs.map Question.title) with
  | some title => throw (.titleRepeated title)
  | none => pure ()

def create (campaign : CampaignId) (description : String) (questions : List Question) :
    Except Violation Questionnaire := do
  checkDescription description
  checkQuestions questions
  return { campaign, description, questions }

def setDescription (q : Questionnaire) (description : String) : Except Violation Questionnaire := do
  checkDescription description
  return { q with description }

def setQuestions (q : Questionnaire) (questions : List Question) :
    Except Violation Questionnaire := do
  checkQuestions questions
  return { q with questions }

def ofInputs (campaign : CampaignId) (description : String) (inputs : List QuestionInput) :
    Minting Questionnaire := do
  let questions ← inputs.mapM QuestionInput.pose
  Minting.obey (create campaign description questions)

/-- The questions for inputs: the first input that names a question keeps it, every further one and
every input without a name makes a new question. `claimed` holds the names met before. -/
def reconciled (old : Keyed QuestionId Question) :
    List QuestionId → List QuestionInput → Minting (List Question)
  | _, [] => return []
  | claimed, i :: rest => do
    match Id.given? i.id with
    | none => return (← i.pose) :: (← reconciled old claimed rest)
    | some id =>
      if claimed.contains id then
        return (← i.pose) :: (← reconciled old claimed rest)
      else
        match old.get? id with
        | none => throw (.notFound (.question id))
        | some q =>
          return (← Minting.obey (q.revise i)) :: (← reconciled old (id :: claimed) rest)

/-- The questionnaire with another description and the questions of inputs. -/
def reconcile (q : Questionnaire) (description : String) (inputs : List QuestionInput) :
    Minting Questionnaire := do
  let old := Keyed.ofList (q.questions.map fun question => (question.id, question))
  let questions ← reconciled old [] inputs
  Minting.obey (create q.campaign description questions)

end Questionnaire

namespace Answer

/-- The answer to one question: there has to be one, and a choice is among the options. -/
def find (q : Questionnaire) (assignee : AssigneeId) (given : Keyed QuestionId String)
    (question : Question) : Except Violation Answer :=
  match given.get? question.id with
  | none => .error (.unanswered question.id)
  | some content =>
    if question.kind = .radio ∧ ¬ question.options.contains content then
      .error (.notAnOption question.id)
    else
      .ok { campaign := q.campaign, assignee, question := question.id, content }

/-- The answers to all questions in their order; as many as there are questions are given. -/
def sheet (q : Questionnaire) (assignee : AssigneeId) (given : Keyed QuestionId String) :
    Except Violation (List Answer) := do
  demand (given.size = q.questions.length) (.answerCount q.questions.length given.size)
  q.questions.mapM (find q assignee given)

end Answer

end Sponsorship
