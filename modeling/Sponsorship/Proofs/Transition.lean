import Sponsorship.Proofs.Minted
import Sponsorship.Proofs.Rules
import Sponsorship.Proofs.Rows

/-!
# Sponsorship.Proofs.Transition

The changes that commands make to the tables, one at a time.

* `Tables.putAssignee` and its kin: a row in the place of the one with its identifier.
* `Move.Plain`: the steps of an assignee that go without a submission.
* `Advancing now id`: a change on the way of campaign `id` from its invitations to its end.
* `Saving now r id`: a change that request `r` makes for campaign `id`.

A change is a pair of worlds, since new rows take identifiers.
-/

namespace Sponsorship

open Time

namespace Tables

def putCampaign (t : Tables) (c : Campaign) : Tables :=
  { t with campaigns := amend Campaign.id c.id (fun _ => c) t.campaigns }

def putAssignee (t : Tables) (a : Assignee) : Tables :=
  { t with assignees := amend Assignee.id a.id (fun _ => a) t.assignees }

/-- The number of submissions of a row stays what it was. -/
def putExamination (t : Tables) (e : Examination) : Tables :=
  { t with
    examinations := amend Examination.id e.id (fun o => { e with submissions := o.submissions })
      t.examinations }

def addCampaign (t : Tables) (c : Campaign) : Tables := { t with campaigns := t.campaigns ++ [c] }

def addAssignee (t : Tables) (a : Assignee) : Tables := { t with assignees := t.assignees ++ [a] }

def addExamination (t : Tables) (e : Examination) : Tables :=
  { t with examinations := t.examinations ++ [e] }

/-- The tables without an assignee and its answers. What it submitted stays. -/
def removeAssignee (t : Tables) (id : AssigneeId) : Tables :=
  { t with
    assignees := t.assignees.filter fun a => a.id ≠ id
    answers := t.answers.filter fun a => a.assignee ≠ id }

def putQuestionnaire (t : Tables) (q : Questionnaire) : Tables :=
  { t with questionnaires := t.questionnaires.insert q.campaign q }

/-- The tables without the questionnaire of a campaign and the answers to it. -/
def removeQuestionnaire (t : Tables) (id : CampaignId) : Tables :=
  { t with
    questionnaires := t.questionnaires.erase id
    answers := t.answers.filter fun a => a.campaign ≠ id }

def saveAnswers (t : Tables) (answers : List Answer) : Tables := answers.foldl saveAnswer t

/-- Saving answers changes the answers alone. -/
theorem saveAnswers_eq (t : Tables) (answers : List Answer) :
    t.saveAnswers answers = { t with answers := (t.saveAnswers answers).answers } := by
  unfold saveAnswers
  induction answers generalizing t with
  | nil => rfl
  | cons a rest ih => rw [List.foldl_cons, ih (t.saveAnswer a)]; rfl

end Tables

/-- The steps that go without a submission, in a campaign with these flags. -/
def Move.Plain (flags : WorkflowFlags) : Move → Prop
  | .invite | .refuse | .loseLottery | .completePayment => True
  | .accept f | .winLottery f _ _ => f = flags
  | .finishShipment needsPreliminaryReview => needsPreliminaryReview = flags.needsPreliminaryReview
  | .submitDraft | .judgeDraft _ | .submitEntry _ | .judgeEntry _ => False

/-- A change on the way of a campaign from its invitations to its end. -/
inductive Advancing (now : Instant) (id : CampaignId) : World Tables → World Tables → Prop
  | moves {w : World Tables} {c : Campaign} {a : Assignee} {m : Move}
      (hc : w.state.campaign? id = some c) (ha : a ∈ w.state.assignees) (hid : a.campaign = id)
      (hm : m.Plain c.flags) (hs : a.stage ∈ m.sources) :
      Advancing now id w { w with state := w.state.putAssignee (a.after m) }
  | answers {w : World Tables} {q : Questionnaire} {a : Assignee} {given : Keyed QuestionId String}
      {sheet : List Answer} (hq : w.state.questionnaires.get? id = some q)
      (ha : a ∈ w.state.assignees) (hid : a.campaign = id) (hs : a.stage = .invitation)
      (h : Answer.sheet q a.id given = .ok sheet) :
      Advancing now id w { w with state := w.state.saveAnswers sheet }
  | declines {w : World Tables} {a a' : Assignee} {reason : String} (ha : a ∈ w.state.assignees)
      (hid : a.campaign = id) (h : a.decline reason = .ok a') :
      Advancing now id w { w with state := w.state.putAssignee a' }
  | finishes {w : World Tables} {c : Campaign} {a : Assignee}
      (hc : w.state.campaign? id = some c) (ha : a ∈ w.state.assignees) (hid : a.campaign = id) :
      Advancing now id w { w with state := w.state.putAssignee a.finish }
  | closes {w : World Tables} {c : Campaign} (hc : w.state.campaign? id = some c) :
      Advancing now id w
        { w with state := w.state.putCampaign { c with isClosed := true } }
  | submits {w : World Tables} {c : Campaign} {a : Assignee} {kind : EntryKind}
      {entry : Option EntryId} {e : Examination} (hc : w.state.campaign? id = some c)
      (ha : a ∈ w.state.assignees) (hid : a.campaign = id)
      (hs : a.stage ∈ (Store.submission kind c.flags).sources)
      (h : Examination.submit w.ids.next.1 id a.id a.blogger kind entry now = .ok e) :
      Advancing now id w
        { ids := (w.ids.next : ExaminationId × Ids).2
          state :=
            (w.state.addExamination e).putAssignee (a.after (Store.submission kind c.flags)) }
  | judges {w : World Tables} {a : Assignee} {kind : EntryKind} {e e' : Examination} {v : Verdict}
      (ha : a ∈ w.state.assignees) (hid : a.campaign = id) (hs : a.stage = Store.examinedStage kind)
      (he : w.state.latestExamination? id a.id kind = some e) (h : e.judge v = .ok e') :
      Advancing now id w
        { w with
          state := (w.state.putExamination e').putAssignee
            (a.after (Store.judgement kind v.passed)) }
  | deletes {w : World Tables} : Advancing now id w { w with state := w.state.deleteCampaign id }

/-- A change that a request makes for a campaign. -/
inductive Saving (now : Instant) (r : SaveRequest) (id : CampaignId) :
    World Tables → World Tables → Prop
  | opens {w : World Tables} {item : Item} {variant : Option Variant} {c : Campaign} {ids : Ids}
      (hr : r.drafted.check = .ok ()) (h : r.opening now item variant w.ids = (.ok c, ids))
      (hid : c.id = id) : Saving now r id w { ids, state := w.state.addCampaign c }
  | revises {w : World Tables} {item : Item} {variant : Option Variant} {c c' : Campaign}
      (hr : r.drafted.check = .ok ()) (hc : w.state.campaign? id = some c)
      (h : r.revision item variant c = .ok c') :
      Saving now r id w { w with state := w.state.putCampaign c' }
  | poses {w : World Tables} {c : Campaign} {q : QuestionnaireInput} {made : Questionnaire}
      {ids : Ids} (hq : r.questionnaire = some q) (hc : w.state.campaign? id = some c)
      (h : q.renewal id (w.state.questionnaires.get? id) w.ids = (.ok made, ids)) :
      Saving now r id w { ids, state := w.state.putQuestionnaire made }
  | withdraws {w : World Tables} {c : Campaign} (hq : r.questionnaire = none)
      (hc : w.state.campaign? id = some c) :
      Saving now r id w { w with state := w.state.removeQuestionnaire id }
  | enrols {w : World Tables} {c : Campaign} {i : AssigneeInput} {a : Assignee} {ids : Ids}
      (hi : i ∈ r.assignees) (hkept : i.deleted = false) (hc : w.state.campaign? id = some c)
      (hfree : w.state.participation? id i.blogger = none)
      (h : i.enrolment now id w.ids = (.ok a, ids)) :
      Saving now r id w { ids, state := w.state.addAssignee a }
  | expels {w : World Tables} {i : AssigneeInput} {a : Assignee} (hi : i ∈ r.assignees)
      (hgone : i.deleted = true) (hb : a.blogger = i.blogger) (ha : a ∈ w.state.assignees)
      (hid : a.campaign = id) (hs : a.stage = .beforeInvitation) :
      Saving now r id w { w with state := w.state.removeAssignee a.id }
  | places {w : World Tables} {i : AssigneeInput} {a a' : Assignee} (hi : i ∈ r.assignees)
      (hkept : i.deleted = false) (hb : a.blogger = i.blogger) (ha : a ∈ w.state.assignees)
      (hid : a.campaign = id)
      (hneed : ∀ kind, Store.neededSubmission i.stage = some kind →
        (w.state.latestExamination? id a.id kind).isSome)
      (h : a.setFee i.fee = .ok a') :
      Saving now r id w { w with state := w.state.putAssignee (a'.override i.stage) }

/-! ## What single changes leave as it was -/

namespace Assignee

@[simp] theorem after_id (a : Assignee) (m : Move) : (a.after m).id = a.id := by
  unfold after; split
  · split <;> rfl
  · rfl

@[simp] theorem after_campaign (a : Assignee) (m : Move) : (a.after m).campaign = a.campaign := by
  unfold after; split
  · split <;> rfl
  · rfl

@[simp] theorem after_stage (a : Assignee) (m : Move) : (a.after m).stage = m.target := by
  unfold after; split
  · split <;> rfl
  · rfl

end Assignee

/-! ## Where steps lead, and which stages call for a submission -/

/-- A step that goes without a submission does not lead to one of these stages. -/
theorem Move.Plain.unneeded {flags : WorkflowFlags} {m : Move} (h : m.Plain flags) :
    Store.neededSubmission m.target = none := by
  have hwriting : ∀ b, Store.neededSubmission (writing b) = none := by
    intro b; cases b <;> rfl
  cases m with
  | accept f =>
    simp only [target]
    split
    · rfl
    · split
      · rfl
      · exact hwriting _
  | winLottery f _ _ =>
    simp only [target]
    split
    · rfl
    · exact hwriting _
  | finishShipment b => exact hwriting b
  | invite => rfl
  | refuse => rfl
  | loseLottery => rfl
  | completePayment => rfl
  | submitDraft => cases h
  | judgeDraft passed => cases h
  | submitEntry b => cases h
  | judgeEntry passed => cases h

section Draw

variable (flags : WorkflowFlags) (r : LotteryResult)

theorem draw_plain : (Store.draw flags r).Plain flags := by
  unfold Store.draw
  split
  · rfl
  · trivial

theorem draw_sources : (Store.draw flags r).sources = [.lottery] := by
  unfold Store.draw
  split <;> rfl

/-- Nobody stays in the lottery with a result. -/
theorem draw_target : (Store.draw flags r).target ≠ .lottery := by
  unfold Store.draw
  split
  · simp only [Move.target, Move.writing]
    split
    · decide
    · split <;> decide
  · decide

end Draw

theorem neededSubmission_submission {kind kind' : EntryKind} {flags : WorkflowFlags}
    (h : Store.neededSubmission (Store.submission kind flags).target = some kind') :
    kind' = kind := by
  cases kind with
  | draft => cases h; rfl
  | entry =>
    simp only [Store.submission, Move.target] at h
    split at h <;> cases h
    rfl

theorem neededSubmission_judgement (kind : EntryKind) (passed : Bool) :
    Store.neededSubmission (Store.judgement kind passed).target = none := by
  cases kind <;> cases passed <;> rfl

end Sponsorship
