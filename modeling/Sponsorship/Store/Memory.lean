import Sponsorship.Store.Transaction
import Sponsorship.Text.Lowercase

/-!
# A store in memory

Tables of rows in order of insertion. A unit of work has tables of its own, which take the place of
the shared ones when it is committed.

* `Tables`: the rows.
* `Tables.answer`: the reply to a call and the tables after it.
* `Memory`: the shared tables and how often they were replaced.
* `Store.memory`: the store.
-/

namespace Sponsorship

open Text Time

structure Tables where
  campaigns : List Campaign := []
  assignees : List Assignee := []
  examinations : List Examination := []
  questionnaires : Keyed CampaignId Questionnaire := {}
  answers : List Answer := []

/-- The list with its first entry that satisfies `p` replaced; `none` if there is no such entry. -/
def replaceFirst? {α : Type} (p : α → Bool) (f : α → α) : List α → Option (List α)
  | [] => none
  | a :: as => if p a then some (f a :: as) else (replaceFirst? p f as).map (a :: ·)

namespace SortKey

/-- The order of two campaigns by a key. A key that campaigns do not have sorts by date of
creation. -/
def compareAscending (key : SortKey) (a b : Campaign) : Ordering :=
  match CampaignKey.ofName? key.name with
  | some .name => compare a.name b.name
  | some .id => compare a.id.text b.id.text
  | some .createdAt | none =>
    if a.createdAt.before b.createdAt then .lt
    else if b.createdAt.before a.createdAt then .gt
    else .eq

/-- Whether campaign `a` may come before `b` in the direction of the key. -/
def allows (key : SortKey) (a b : Campaign) : Bool :=
  if key.descending then key.compareAscending b a != .gt else key.compareAscending a b != .gt

end SortKey

/-- The campaigns in the order of the keys; those that no key tells apart keep their order. The
last key is applied first. -/
def sortCampaigns (keys : List SortKey) (cs : List Campaign) : List Campaign :=
  keys.foldr (fun key cs => cs.mergeSort key.allows) cs

/-- Whether a campaign matches every criterion that is given. -/
def SearchCriteria.admits (criteria : SearchCriteria) (c : Campaign) : Bool :=
  criteria.givenName?.all (fun n => containsIgnoringCase c.name n) &&
  criteria.givenItem?.all (fun id => equalsIgnoringAsciiCase c.item.id.text id.text) &&
  criteria.givenVariant?.all fun id =>
    c.variant.any fun v => equalsIgnoringAsciiCase v.id.text id.text

/-- Counts stages in the order in which they are met. -/
def countStage (counts : List StageCount) (stage : Stage) : List StageCount :=
  (replaceFirst? (fun c => c.stage == stage) (fun c => { c with count := c.count + 1 }) counts).getD
    (counts ++ [{ stage, count := 1 }])

/-- The last of the latest submissions. -/
def latest? : List Examination → Option Examination
  | [] => none
  | e :: es => some <| es.foldl (fun best e => if e.createdAt.before best.createdAt then best else e) e

namespace Tables

def campaign? (t : Tables) (id : CampaignId) : Option Campaign := t.campaigns.find? fun c => c.id = id

def participation? (t : Tables) (campaign : CampaignId) (blogger : BloggerId) : Option Assignee :=
  t.assignees.find? fun a => a.campaign = campaign ∧ a.blogger = blogger

/-- The assignees of a campaign, in a stage if one is named. -/
def assigneesOf (t : Tables) (campaign : CampaignId) (stage : Option Stage) : List Assignee :=
  t.assignees.filter fun a => a.campaign = campaign && stage.all (a.stage = ·)

/-- The submissions of one kind by an assignee. -/
def submissions (t : Tables) (campaign : CampaignId) (assignee : AssigneeId) (kind : EntryKind) :
    List Examination :=
  t.examinations.filter fun e => e.campaign = campaign ∧ e.assignee = assignee ∧ e.kind = kind

/-- The latest submission of one kind by an assignee, with their number. -/
def latestExamination? (t : Tables) (campaign : CampaignId) (assignee : AssigneeId)
    (kind : EntryKind) : Option Examination :=
  let rows := t.submissions campaign assignee kind
  (latest? rows).map fun e => { e with submissions := rows.length }

/-- The part of the campaigns with `p` that a condition asks for. -/
def page (t : Tables) (p : Campaign → Bool) (condition : ListCondition) : Page :=
  let rows := sortCampaigns condition.sorts (t.campaigns.filter p)
  { campaigns := (rows.drop condition.offset).take condition.limit, total := rows.length }

/-- Whether the invitations of a campaign end within a period. -/
def endsWithin (first last : Instant) (c : Campaign) : Bool :=
  c.schedules.any fun s =>
    s.kind = .invitation && s.closes.any fun t => first.upTo t && t.upTo last

/-- The tables without a campaign and what belongs to it. -/
def deleteCampaign (t : Tables) (id : CampaignId) : Tables :=
  { campaigns := t.campaigns.filter fun c => c.id ≠ id
    assignees := t.assignees.filter fun a => a.campaign ≠ id
    examinations := t.examinations.filter fun e => e.campaign ≠ id
    questionnaires := t.questionnaires.erase id
    answers := t.answers.filter fun a => a.campaign ≠ id }

/-- The tables with an answer in the place of one to the same question. -/
def saveAnswer (t : Tables) (answer : Answer) : Tables :=
  { t with
    answers := (t.answers.filter fun a =>
      ¬ (a.campaign = answer.campaign ∧ a.assignee = answer.assignee ∧
        a.question = answer.question)) ++ [answer] }

def found {α : Type} (value : Option α) (missing : Absent) : Except Fault α :=
  match value with
  | some a => .ok a
  | none => .error (.notFound missing)

/-- The tables after a change of one row; the row has to be there. -/
def changed (t : Tables) (change : Option Tables) (missing : Absent) : Except Fault Unit × Tables :=
  match change with
  | some t' => (.ok (), t')
  | none => (.error (.notFound missing), t)

/-- The reply to a call, and the tables after it. -/
def answer (t : Tables) : (c : Call) → Except Fault c.Reply × Tables
  | .getCampaign id _ => (found (t.campaign? id) (.campaign id), t)
  | .campaignsAmong ids includeClosed =>
    (.ok (t.campaigns.filter fun c => ids.contains c.id && (includeClosed || !c.isClosed)), t)
  | .listCampaigns condition => (.ok (t.page (fun _ => true) condition), t)
  | .searchCampaigns criteria condition => (.ok (t.page criteria.admits condition), t)
  | .campaignsEnding first last =>
    (.ok ((t.campaigns.filter (endsWithin first last)).map Campaign.id), t)
  | .createCampaign c =>
    if (t.campaign? c.id).isSome then (.error (.conflict (.campaignExists c.id)), t)
    else (.ok (), { t with campaigns := t.campaigns ++ [c] })
  | .updateCampaign c =>
    t.changed ((replaceFirst? (fun o => o.id = c.id) (fun _ => c) t.campaigns).map
      fun campaigns => { t with campaigns }) (.campaign c.id)
  | .deleteCampaign id => (.ok (), t.deleteCampaign id)
  | .getAssignee campaign blogger _ =>
    (found (t.participation? campaign blogger) (.participation blogger campaign), t)
  | .listAssignees campaign stage _ => (.ok (t.assigneesOf campaign stage), t)
  | .assigneesAmong campaign bloggers stage _ =>
    (.ok ((t.assigneesOf campaign stage).filter fun a => bloggers.contains a.blogger), t)
  | .assigneesUnderExamination =>
    (.ok (t.assignees.filter fun a => a.stage = .preExamination || a.stage = .examination), t)
  | .participations blogger => (.ok (t.assignees.filter fun a => a.blogger = blogger), t)
  | .countStages campaign =>
    (.ok (((t.assigneesOf campaign none).map Assignee.stage).foldl countStage []), t)
  | .createAssignee a =>
    if (t.participation? a.campaign a.blogger).isSome then
      (.error (.conflict (.assigneeExists a.blogger)), t)
    else (.ok (), { t with assignees := t.assignees ++ [a] })
  | .updateAssignee a =>
    t.changed ((replaceFirst? (fun o => o.id = a.id) (fun _ => a) t.assignees).map
      fun assignees => { t with assignees }) (.assignee a.id)
  | .deleteAssignee id =>
    (.ok (), { t with
      assignees := t.assignees.filter fun a => a.id ≠ id
      answers := t.answers.filter fun a => a.assignee ≠ id })
  | .latestExamination campaign assignee kind _ =>
    (found (t.latestExamination? campaign assignee kind) (.submission kind assignee), t)
  | .latestExaminations campaign kind =>
    (.ok (Keyed.ofList ((t.assigneesOf campaign none).filterMap fun a =>
      (t.latestExamination? campaign a.id kind).map fun e => (a.blogger, e))), t)
  | .createExamination e => (.ok (), { t with examinations := t.examinations ++ [e] })
  | .updateExamination e =>
    t.changed ((replaceFirst? (fun o => o.id = e.id)
      (fun o => { e with submissions := o.submissions }) t.examinations).map
      fun examinations => { t with examinations }) (.examination e.id)
  | .findQuestionnaire campaign _ => (.ok (t.questionnaires.get? campaign), t)
  | .saveQuestionnaire q =>
    (.ok (), { t with questionnaires := t.questionnaires.insert q.campaign q })
  | .deleteQuestionnaire campaign =>
    (.ok (), { t with questionnaires := t.questionnaires.erase campaign })
  | .listAnswers campaign assignees =>
    (.ok (t.answers.filter fun a => a.campaign = campaign && assignees.contains a.assignee), t)
  | .saveAnswers answers => (.ok (), answers.foldl saveAnswer t)
  | .deleteAnswers campaign =>
    (.ok (), { t with answers := t.answers.filter fun a => a.campaign ≠ campaign })

end Tables

/-- The shared tables, and how often a unit of work replaced them. -/
structure Memory where
  tables : Tables := {}
  commits : Nat := 0

def Store.memory : Store Memory Tables where
  begin m := (.ok m.tables, m)
  perform c t := t.answer c
  commit t m := (.ok (), { tables := t, commits := m.commits + 1 })
  abandon _ m := m

end Sponsorship
