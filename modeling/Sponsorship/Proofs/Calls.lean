import Sponsorship.Proofs.Sound

/-!
# Sponsorship.Proofs.Calls

How the calls on the store in memory end, for tables that are sound.

* One lemma for each call that commands make: what is read, which row is written, and the one way it
  can fail.
-/

namespace Sponsorship

open Time

namespace Call

variable {w : World Tables} {E : Fault → Prop}

theorem ends {c : Call} {Q : c.Reply → World Tables → Prop}
    (h : match w.state.answer c with
      | (.ok r, t) => Q r { w with state := t }
      | (.error f, _) => E f) : Ends (Store.memory.call c) w Q E := by
  have hcall : Store.memory.call c w =
      ((w.state.answer c).1, { w with state := (w.state.answer c).2 }) := rfl
  rcases ha : w.state.answer c with ⟨r, t⟩
  rw [ha] at h hcall
  cases r with
  | ok r => exact .of_ok hcall h
  | error f => exact .of_error hcall h

/-! ## Reads -/

theorem getCampaign_ends {id : CampaignId} {lock : Bool} {Q : Campaign → World Tables → Prop}
    (hq : ∀ c, w.state.campaign? id = some c → Q c w)
    (he : w.state.campaign? id = none → E (.notFound (.campaign id))) :
    Ends (Store.memory.call (.getCampaign id lock)) w Q E := by
  apply ends
  cases hc : w.state.campaign? id with
  | some c => simp only [Tables.answer, hc, Tables.found]; exact hq c hc
  | none => simp only [Tables.answer, hc, Tables.found]; exact he hc

theorem getAssignee_ends {id : CampaignId} {blogger : BloggerId} {lock : Bool}
    {Q : Assignee → World Tables → Prop}
    (hq : ∀ a ∈ w.state.assignees, a.campaign = id → a.blogger = blogger → Q a w)
    (he : w.state.participation? id blogger = none → E (.notFound (.participation blogger id))) :
    Ends (Store.memory.call (.getAssignee id blogger lock)) w Q E := by
  apply ends
  cases ha : w.state.participation? id blogger with
  | some a =>
    obtain ⟨hmem, hid, hb⟩ := Tables.participation?_mem ha
    simp only [Tables.answer, ha, Tables.found]
    exact hq a hmem hid hb
  | none => simp only [Tables.answer, ha, Tables.found]; exact he ha

theorem listAssignees_ends {id : CampaignId} {stage : Option Stage} {lock : Bool}
    {Q : List Assignee → World Tables → Prop} (hq : Q (w.state.assigneesOf id stage) w) :
    Ends (Store.memory.call (.listAssignees id stage lock)) w Q E :=
  ends hq

theorem assigneesAmong_ends {id : CampaignId} {bloggers : List BloggerId} {stage : Option Stage}
    {lock : Bool} {Q : List Assignee → World Tables → Prop}
    (hq : Q (w.state.among id bloggers stage) w) :
    Ends (Store.memory.call (.assigneesAmong id bloggers stage lock)) w Q E :=
  ends hq

theorem findQuestionnaire_ends {id : CampaignId} {lock : Bool}
    {Q : Option Questionnaire → World Tables → Prop} (hq : Q (w.state.questionnaires.get? id) w) :
    Ends (Store.memory.call (.findQuestionnaire id lock)) w Q E :=
  ends hq

theorem latestExamination_ends {id : CampaignId} {a : AssigneeId} {kind : EntryKind} {lock : Bool}
    {Q : Examination → World Tables → Prop}
    (hq : ∀ e, w.state.latestExamination? id a kind = some e → Q e w)
    (he : w.state.latestExamination? id a kind = none → E (.notFound (.submission kind a))) :
    Ends (Store.memory.call (.latestExamination id a kind lock)) w Q E := by
  apply ends
  cases hl : w.state.latestExamination? id a kind with
  | some e => simp only [Tables.answer, hl, Tables.found]; exact hq e hl
  | none => simp only [Tables.answer, hl, Tables.found]; exact he hl

/-! ## Writes -/

theorem updateAssignee_ends {a : Assignee} {Q : Unit → World Tables → Prop} (hs : Sound w)
    (ha : a.id ∈ w.state.assignees.map Assignee.id)
    (hq : Q () { w with state := w.state.putAssignee a }) :
    Ends (Store.memory.call (.updateAssignee a)) w Q E := by
  apply ends
  simp only [Tables.answer, replaceFirst?_key hs.assignees.nodup ha, Option.map_some,
    Tables.changed]
  exact hq

theorem updateExamination_ends {e : Examination} {Q : Unit → World Tables → Prop} (hs : Sound w)
    (he : e.id ∈ w.state.examinations.map Examination.id)
    (hq : Q () { w with state := w.state.putExamination e }) :
    Ends (Store.memory.call (.updateExamination e)) w Q E := by
  apply ends
  simp only [Tables.answer, replaceFirst?_key hs.examinations.nodup he, Option.map_some,
    Tables.changed]
  exact hq

theorem updateCampaign_ends {c : Campaign} {Q : Unit → World Tables → Prop} (hs : Sound w)
    (hc : c.id ∈ w.state.campaigns.map Campaign.id)
    (hq : Q () { w with state := w.state.putCampaign c }) :
    Ends (Store.memory.call (.updateCampaign c)) w Q E := by
  apply ends
  simp only [Tables.answer, replaceFirst?_key hs.campaigns.nodup hc, Option.map_some,
    Tables.changed]
  exact hq

theorem createCampaign_ends {c : Campaign} {Q : Unit → World Tables → Prop}
    (hc : c.id ∉ w.state.campaigns.map Campaign.id)
    (hq : Q () { w with state := w.state.addCampaign c }) :
    Ends (Store.memory.call (.createCampaign c)) w Q E := by
  apply ends
  simp only [Tables.answer, Tables.campaign?_eq_none.mpr hc]
  exact hq

theorem createAssignee_ends {a : Assignee} {Q : Unit → World Tables → Prop}
    (hq : w.state.participation? a.campaign a.blogger = none →
      Q () { w with state := w.state.addAssignee a })
    (he : E (.conflict (.assigneeExists a.blogger))) :
    Ends (Store.memory.call (.createAssignee a)) w Q E := by
  apply ends
  cases ha : w.state.participation? a.campaign a.blogger with
  | none => simp only [Tables.answer, ha]; exact hq ha
  | some x => simp only [Tables.answer, ha]; exact he

theorem deleteAssignee_ends {id : AssigneeId} {Q : Unit → World Tables → Prop}
    (hq : Q () { w with state := w.state.removeAssignee id }) :
    Ends (Store.memory.call (.deleteAssignee id)) w Q E :=
  ends hq

theorem createExamination_ends {e : Examination} {Q : Unit → World Tables → Prop}
    (hq : Q () { w with state := w.state.addExamination e }) :
    Ends (Store.memory.call (.createExamination e)) w Q E :=
  ends hq

theorem saveQuestionnaire_ends {q : Questionnaire} {Q : Unit → World Tables → Prop}
    (hq : Q () { w with state := w.state.putQuestionnaire q }) :
    Ends (Store.memory.call (.saveQuestionnaire q)) w Q E :=
  ends hq

theorem saveAnswers_ends {answers : List Answer} {Q : Unit → World Tables → Prop}
    (hq : Q () { w with state := w.state.saveAnswers answers }) :
    Ends (Store.memory.call (.saveAnswers answers)) w Q E :=
  ends hq

theorem deleteCampaign_ends {id : CampaignId} {Q : Unit → World Tables → Prop}
    (hq : Q () { w with state := w.state.deleteCampaign id }) :
    Ends (Store.memory.call (.deleteCampaign id)) w Q E :=
  ends hq

end Call

end Sponsorship
