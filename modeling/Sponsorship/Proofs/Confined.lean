import Sponsorship.Proofs.Ownership
import Sponsorship.Proofs.View

/-!
# Sponsorship.Proofs.Confined

What a command for a campaign does depends on the rows of that campaign alone, and it touches no
others.

* `Apart F id w`: in world `w` the other campaigns have the rows `F`, and writes that go by the
  identifier of a row cannot reach them from campaign `id`.
* `Confined F id t Q`: in every such world the task `t` does to the rows of `id` what it does where
  there are no others, and leaves the others as they are. It holds of every call on the rows of a
  campaign and is kept by sequencing, so it holds of the work of every command.
-/

namespace Sponsorship

open Time

/-! ## Rows that are out of reach -/

namespace Tables

def LacksAssignee (t : Tables) (a : AssigneeId) : Prop := ∀ o ∈ t.assignees, o.id ≠ a

def LacksExamination (t : Tables) (e : ExaminationId) : Prop := ∀ o ∈ t.examinations, o.id ≠ e

end Tables

/-- The identifiers that are left name no assignee and no submission: these are the rows that are
written by their identifiers alone. -/
structure Ids.FreshIn (ids : Ids) (t : Tables) : Prop where
  assignees : ∀ n, ids.issued ≤ n → t.LacksAssignee ⟨ids.name n⟩
  examinations : ∀ n, ids.issued ≤ n → t.LacksExamination ⟨ids.name n⟩

theorem Ids.FreshIn.later {ids ids' : Ids} {t : Tables} (h : ids.FreshIn t)
    (hl : ids.Later ids') : ids'.FreshIn t := by
  constructor
  · intro n hn
    rw [hl.name]
    exact h.assignees n (Nat.le_trans hl.issued hn)
  · intro n hn
    rw [hl.name]
    exact h.examinations n (Nat.le_trans hl.issued hn)

/-- The other campaigns have the rows `F`, and no row of campaign `id` shares its identifier with one
of those. -/
structure Apart (F : Tables) (id : CampaignId) (w : World Tables) : Prop where
  others : w.state.others id = F
  fresh : w.ids.FreshIn F
  assignees : ∀ a ∈ w.state.assignees, a.campaign = id → F.LacksAssignee a.id
  examinations : ∀ e ∈ w.state.examinations, e.campaign = id → F.LacksExamination e.id
  questionnaire : ∀ q, w.state.questionnaires.get? id = some q → q.campaign = id
  answers : ∀ x ∈ F.answers, ¬ F.LacksAssignee x.assignee

/-- The world with the rows of one campaign alone. -/
def World.of (id : CampaignId) (w : World Tables) : World Tables := { w with state := w.state.of id }

/-- Wherever campaign `id` is apart from the rows `F` of the others, the task does what it does to the
rows of `id` alone, and a result is in `Q`. -/
def Confined {α : Type} (F : Tables) (id : CampaignId) (t : Task Tables α) (Q : α → Prop) : Prop :=
  ∀ w, Apart F id w →
    t (w.of id) = ((t w).1, (t w).2.of id) ∧ Apart F id (t w).2 ∧ ∀ a, (t w).1 = .ok a → Q a

variable {F : Tables} {id : CampaignId} {w : World Tables}

namespace Apart

theorem own_assignee (h : Apart F id w) {a : AssigneeId} (ha : F.LacksAssignee a) :
    ∀ o ∈ w.state.assignees, o.id = a → o.campaign = id := by
  intro o ho hoa
  by_contra hne
  have hother : o ∈ F.assignees := by
    rw [← h.others]
    exact List.mem_filter.mpr ⟨ho, by simpa using hne⟩
  exact ha o hother hoa

theorem own_examination (h : Apart F id w) {e : ExaminationId} (he : F.LacksExamination e) :
    ∀ o ∈ w.state.examinations, o.id = e → o.campaign = id := by
  intro o ho hoe
  by_contra hne
  have hother : o ∈ F.examinations := by
    rw [← h.others]
    exact List.mem_filter.mpr ⟨ho, by simpa using hne⟩
  exact he o hother hoe

theorem own_answer (h : Apart F id w) {a : AssigneeId} (ha : F.LacksAssignee a) :
    ∀ x ∈ w.state.answers, x.assignee = a → x.campaign = id := by
  intro x hx hxa
  by_contra hne
  have hother : x ∈ F.answers := by
    rw [← h.others]
    exact List.mem_filter.mpr ⟨hx, by simpa using hne⟩
  exact h.answers x hother (hxa ▸ ha)

/-- A local call keeps a campaign apart if the rows that it writes are out of reach of the others. -/
theorem step (h : Apart F id w) {t : Tables} (ho : t.others id = w.state.others id)
    (ha : ∀ a ∈ t.assignees, a ∈ w.state.assignees ∨ F.LacksAssignee a.id)
    (he : ∀ e ∈ t.examinations, e ∈ w.state.examinations ∨ F.LacksExamination e.id)
    (hq : ∀ q, t.questionnaires.get? id = some q → q.campaign = id) :
    Apart F id { w with state := t } where
  others := ho.trans h.others
  fresh := h.fresh
  assignees a hmem hid := by
    rcases ha a hmem with hold | hnew
    · exact h.assignees a hold hid
    · exact hnew
  examinations e hmem hid := by
    rcases he e hmem with hold | hnew
    · exact h.examinations e hold hid
    · exact hnew
  questionnaire := hq
  answers := h.answers

end Apart

/-! ## Sequencing -/

namespace Confined

variable {α β : Type} {P : α → Prop} {Q : β → Prop}

theorem imp {t : Task Tables α} {P' : α → Prop} (h : Confined F id t P) (hp : ∀ a, P a → P' a) :
    Confined F id t P' := by
  intro w hw
  obtain ⟨hown, hafter, hresult⟩ := h w hw
  exact ⟨hown, hafter, fun a ha => hp a (hresult a ha)⟩

theorem check (r : Except Fault α) : Confined F id (Task.ofExcept r) fun a => r = .ok a :=
  fun _ hw => ⟨rfl, hw, fun _ h => h⟩

theorem pure {a : α} (h : P a) : Confined F id (Pure.pure a) P :=
  fun _ hw => ⟨rfl, hw, fun _ ha => by cases ha; exact h⟩

theorem throw (f : Fault) : Confined F id (MonadExcept.throw f) P :=
  fun _ hw => ⟨rfl, hw, fun _ h => by cases h⟩

theorem obey (r : Except Violation α) : Confined F id (Task.obey r) fun a => r = .ok a := by
  refine (check _).imp fun a h => ?_
  cases r with
  | ok b => cases h; rfl
  | error v => cases h

theorem bind {x : Task Tables α} {f : α → Task Tables β} (hx : Confined F id x P)
    (hf : ∀ a, P a → Confined F id (f a) Q) : Confined F id (x >>= f) Q := by
  intro w hw
  obtain ⟨hown, hafter, hresult⟩ := hx w hw
  rw [run_bind, run_bind, hown]
  rcases hr : x w with ⟨r, w'⟩
  rw [hr] at hafter hresult
  cases r with
  | ok a => exact hf a (hresult a rfl) w' hafter
  | error f => exact ⟨rfl, hafter, fun _ h => by cases h⟩

theorem tryCatch {x : Task Tables α} {h : Fault → Task Tables α} (hx : Confined F id x P)
    (hh : ∀ f, Confined F id (h f) P) : Confined F id (MonadExcept.tryCatch x h) P := by
  intro w hw
  obtain ⟨hown, hafter, hresult⟩ := hx w hw
  rw [run_tryCatch, run_tryCatch, hown]
  rcases hr : x w with ⟨r, w'⟩
  rw [hr] at hafter hresult
  cases r with
  | ok a => exact ⟨rfl, hafter, hresult⟩
  | error f => exact hh f w' hafter

/-- What takes identifiers takes none that another campaign uses. -/
theorem mint {m : Minting α} (h : m.Orderly) : Confined F id (Task.ofMinting m) fun a =>
    ∃ ids ids', ids.FreshIn F ∧ m ids = (.ok a, ids') := by
  intro w hw
  refine ⟨rfl, ?_, fun a ha => ?_⟩
  · exact { hw with fresh := hw.fresh.later (h.later w.ids) }
  · exact ⟨w.ids, (m w.ids).2, hw.fresh, Prod.ext ha rfl⟩

theorem tally {step : Assignee → Task Tables Bool} {as : List Assignee}
    (h : ∀ a ∈ as, Confined F id (step a) fun _ => True) :
    Confined F id (Sponsorship.tally step as) fun _ => True := by
  induction as with
  | nil => exact .pure trivial
  | cons a rest ih =>
    refine (h a List.mem_cons_self).bind fun _ _ => ?_
    refine (ih fun b hb => h b (List.mem_cons_of_mem a hb)).bind fun _ _ => ?_
    exact .pure trivial

theorem eachOf {step : β → Task Tables Unit} {bs : List β}
    (h : ∀ b ∈ bs, Confined F id (step b) fun _ => True) :
    Confined F id (Sponsorship.eachOf step bs) fun _ => True := by
  induction bs with
  | nil => exact .pure trivial
  | cons b rest ih =>
    exact (h b List.mem_cons_self).bind fun _ _ => ih fun x hx => h x (List.mem_cons_of_mem b hx)

end Confined

/-! ## Calls -/

/-- A row of campaign `id` that the others, whose rows are `F`, do not share the identifier of. -/
def Assignee.Within (F : Tables) (id : CampaignId) (a : Assignee) : Prop :=
  a.campaign = id ∧ F.LacksAssignee a.id

def Examination.Within (F : Tables) (id : CampaignId) (e : Examination) : Prop :=
  e.campaign = id ∧ F.LacksExamination e.id

namespace Confined

section Calls

variable {c : Call} {Q : c.Reply → Prop}

theorem call (hl : ∀ w, Apart F id w → w.state.Local id c)
    (ha : ∀ w, Apart F id w → Apart F id { w with state := (w.state.answer c).2 })
    (hq : ∀ w, Apart F id w → ∀ a, (w.state.answer c).1 = .ok a → Q a) :
    Confined F id (Store.memory.call c) Q := by
  intro w hw
  have hrun : ∀ w : World Tables, Store.memory.call c w =
      ((w.state.answer c).1, { w with state := (w.state.answer c).2 }) := fun _ => rfl
  rw [hrun, hrun]
  refine ⟨?_, ha w hw, hq w hw⟩
  unfold World.of
  rw [(hl w hw).own]

theorem read (hl : ∀ t : Tables, t.Local id c) (hsame : ∀ t : Tables, (t.answer c).2 = t)
    (hq : ∀ w, Apart F id w → ∀ a, (w.state.answer c).1 = .ok a → Q a) :
    Confined F id (Store.memory.call c) Q := by
  refine .call (fun w _ => hl w.state) (fun w hw => ?_) hq
  rw [hsame]
  exact hw

end Calls

theorem getCampaign (lock : Bool) :
    Confined F id (Store.memory.call (.getCampaign id lock)) fun c : Campaign => c.id = id := by
  refine .read (fun _ => .getCampaign lock) (fun _ => rfl) fun w hw c hc => ?_
  cases hfound : w.state.campaign? id with
  | none => simp only [Tables.answer, Tables.found, hfound] at hc; cases hc
  | some c' =>
    simp only [Tables.answer, Tables.found, hfound] at hc
    cases hc
    exact (Tables.campaign?_mem hfound).2

theorem getAssignee (b : BloggerId) (lock : Bool) :
    Confined F id (Store.memory.call (.getAssignee id b lock)) (Assignee.Within F id) := by
  refine .read (fun _ => .getAssignee b lock) (fun _ => rfl) fun w hw a ha => ?_
  cases hfound : w.state.participation? id b with
  | none => simp only [Tables.answer, Tables.found, hfound] at ha; cases ha
  | some a' =>
    simp only [Tables.answer, Tables.found, hfound] at ha
    cases ha
    obtain ⟨hmem, hid, _⟩ := Tables.participation?_mem hfound
    exact ⟨hid, hw.assignees a hmem hid⟩

theorem within_assigneesOf (hw : Apart F id w) (stage : Option Stage) :
    ∀ a ∈ w.state.assigneesOf id stage, a.Within F id := by
  intro a ha
  obtain ⟨hmem, hid, _⟩ := Tables.mem_assigneesOf.mp ha
  exact ⟨hid, hw.assignees a hmem hid⟩

theorem listAssignees (stage : Option Stage) (lock : Bool) :
    Confined F id (Store.memory.call (.listAssignees id stage lock))
      fun as : List Assignee => ∀ a ∈ as, a.Within F id := by
  refine .read (fun _ => .listAssignees stage lock) (fun _ => rfl) fun w hw as has => ?_
  cases has
  exact within_assigneesOf hw stage

theorem assigneesAmong (bs : List BloggerId) (stage : Option Stage) (lock : Bool) :
    Confined F id (Store.memory.call (.assigneesAmong id bs stage lock))
      fun as : List Assignee => ∀ a ∈ as, a.Within F id := by
  refine .read (fun _ => .assigneesAmong bs stage lock) (fun _ => rfl) fun w hw as has => ?_
  cases has
  exact fun a ha => within_assigneesOf hw stage a (List.mem_filter.mp ha).1

theorem latestExamination (a : AssigneeId) (kind : EntryKind) (lock : Bool) :
    Confined F id (Store.memory.call (.latestExamination id a kind lock))
      (Examination.Within F id) := by
  refine .read (fun _ => .latestExamination a kind lock) (fun _ => rfl) fun w hw e he => ?_
  cases hfound : w.state.latestExamination? id a kind with
  | none => simp only [Tables.answer, Tables.found, hfound] at he; cases he
  | some e' =>
    simp only [Tables.answer, Tables.found, hfound] at he
    cases he
    obtain ⟨o, n, ho, rfl⟩ := Tables.latestExamination?_mem hfound
    obtain ⟨hmem, hid, _⟩ := Tables.mem_submissions.mp (Tables.latest?_mem ho)
    exact ⟨hid, hw.examinations o hmem hid⟩

theorem findQuestionnaire (lock : Bool) :
    Confined F id (Store.memory.call (.findQuestionnaire id lock))
      fun found : Option Questionnaire => ∀ q, found = some q → q.campaign = id := by
  refine .read (fun _ => .findQuestionnaire lock) (fun _ => rfl) fun w hw found hfound => ?_
  cases hfound
  exact hw.questionnaire

theorem updateCampaign {c : Campaign} (hc : c.id = id) :
    Confined F id (Store.memory.call (.updateCampaign c)) fun _ => True := by
  refine .call (fun _ _ => .updateCampaign hc) (fun w hw => ?_) fun _ _ _ _ => trivial
  have hrest := (Tables.Local.updateCampaign (t := w.state) hc).rest
  simp only [Tables.answer] at hrest ⊢
  cases hr : replaceFirst? (fun o => decide (o.id = c.id)) (fun _ => c) w.state.campaigns with
  | none => exact hw
  | some cs =>
    rw [hr] at hrest
    exact hw.step hrest (fun _ ha => .inl ha) (fun _ he => .inl he) hw.questionnaire

theorem updateAssignee {a : Assignee} (ha : a.Within F id) :
    Confined F id (Store.memory.call (.updateAssignee a)) fun _ => True := by
  have hl : ∀ w, Apart F id w → w.state.Local id (.updateAssignee a) :=
    fun w hw => .updateAssignee ha.1 (hw.own_assignee ha.2)
  refine .call hl (fun w hw => ?_) fun _ _ _ _ => trivial
  have hrest := (hl w hw).rest
  simp only [Tables.answer] at hrest ⊢
  cases hr : replaceFirst? (fun o => decide (o.id = a.id)) (fun _ => a) w.state.assignees with
  | none => exact hw
  | some as =>
    rw [hr] at hrest
    refine hw.step hrest (fun b hb => ?_) (fun _ he => .inl he) hw.questionnaire
    rcases mem_replaceFirst? hr hb with hb | ⟨_, _, rfl⟩
    · exact .inl hb
    · exact .inr ha.2

theorem updateExamination {e : Examination} (he : e.Within F id) :
    Confined F id (Store.memory.call (.updateExamination e)) fun _ => True := by
  have hl : ∀ w, Apart F id w → w.state.Local id (.updateExamination e) :=
    fun w hw => .updateExamination he.1 (hw.own_examination he.2)
  refine .call hl (fun w hw => ?_) fun _ _ _ _ => trivial
  have hrest := (hl w hw).rest
  simp only [Tables.answer] at hrest ⊢
  cases hr : replaceFirst? (fun o => decide (o.id = e.id))
    (fun o => { e with submissions := o.submissions }) w.state.examinations with
  | none => exact hw
  | some es =>
    rw [hr] at hrest
    refine hw.step hrest (fun _ ha => .inl ha) (fun b hb => ?_) hw.questionnaire
    rcases mem_replaceFirst? hr hb with hb | ⟨_, _, rfl⟩
    · exact .inl hb
    · exact .inr he.2

theorem createAssignee {a : Assignee} (ha : a.Within F id) :
    Confined F id (Store.memory.call (.createAssignee a)) fun _ => True := by
  refine .call (fun _ _ => .createAssignee ha.1) (fun w hw => ?_) fun _ _ _ _ => trivial
  have hrest := (Tables.Local.createAssignee (t := w.state) ha.1).rest
  simp only [Tables.answer] at hrest ⊢
  split at hrest
  · rename_i hthere
    rw [if_pos hthere]
    exact hw
  · rename_i hfree
    rw [if_neg hfree]
    refine hw.step hrest (fun b hb => ?_) (fun _ he => .inl he) hw.questionnaire
    rcases List.mem_append.mp hb with hb | hb
    · exact .inl hb
    · rw [List.mem_singleton.mp hb]
      exact .inr ha.2

theorem createExamination {e : Examination} (he : e.Within F id) :
    Confined F id (Store.memory.call (.createExamination e)) fun _ => True := by
  refine .call (fun _ _ => .createExamination he.1) (fun w hw => ?_) fun _ _ _ _ => trivial
  refine hw.step (Tables.Local.createExamination he.1).rest (fun _ ha => .inl ha) (fun b hb => ?_)
    hw.questionnaire
  rcases List.mem_append.mp hb with hb | hb
  · exact .inl hb
  · rw [List.mem_singleton.mp hb]
    exact .inr he.2

theorem deleteAssignee {a : AssigneeId} (ha : F.LacksAssignee a) :
    Confined F id (Store.memory.call (.deleteAssignee a)) fun _ => True := by
  have hl : ∀ w, Apart F id w → w.state.Local id (.deleteAssignee a) :=
    fun w hw => .deleteAssignee (hw.own_assignee ha) (hw.own_answer ha)
  refine .call hl (fun w hw => ?_) fun _ _ _ _ => trivial
  exact hw.step (hl w hw).rest (fun _ hb => .inl (List.mem_filter.mp hb).1) (fun _ he => .inl he)
    hw.questionnaire

theorem saveQuestionnaire {q : Questionnaire} (hq : q.campaign = id) :
    Confined F id (Store.memory.call (.saveQuestionnaire q)) fun _ => True := by
  refine .call (fun _ _ => .saveQuestionnaire hq) (fun w hw => ?_) fun _ _ _ _ => trivial
  refine hw.step (Tables.Local.saveQuestionnaire hq).rest (fun _ ha => .inl ha)
    (fun _ he => .inl he) fun x hx => ?_
  change (w.state.questionnaires.insert q.campaign q).get? id = some x at hx
  rw [Keyed.get?_insert, if_pos hq.symm] at hx
  cases hx
  exact hq

theorem deleteQuestionnaire :
    Confined F id (Store.memory.call (.deleteQuestionnaire id)) fun _ => True := by
  refine .call (fun _ _ => .deleteQuestionnaire) (fun w hw => ?_) fun _ _ _ _ => trivial
  refine hw.step Tables.Local.deleteQuestionnaire.rest (fun _ ha => .inl ha)
    (fun _ he => .inl he) fun x hx => ?_
  exact absurd rfl (Keyed.get?_erase_some.mp hx).2

theorem saveAnswers {answers : List Answer} (h : ∀ x ∈ answers, x.campaign = id) :
    Confined F id (Store.memory.call (.saveAnswers answers)) fun _ => True := by
  refine .call (fun _ _ => .saveAnswers h) (fun w hw => ?_) fun _ _ _ _ => trivial
  have hrest := (Tables.Local.saveAnswers (t := w.state) h).rest
  change (w.state.saveAnswers answers).others id = _ at hrest
  change Apart F id { w with state := w.state.saveAnswers answers }
  rw [Tables.saveAnswers_eq] at hrest ⊢
  exact hw.step hrest (fun _ ha => .inl ha) (fun _ he => .inl he) hw.questionnaire

theorem deleteAnswers : Confined F id (Store.memory.call (.deleteAnswers id)) fun _ => True := by
  refine .call (fun _ _ => .deleteAnswers) (fun w hw => ?_) fun _ _ _ _ => trivial
  exact hw.step Tables.Local.deleteAnswers.rest (fun _ ha => .inl ha) (fun _ he => .inl he)
    hw.questionnaire

theorem deleteCampaign : Confined F id (Store.memory.call (.deleteCampaign id)) fun _ => True := by
  refine .call (fun _ _ => .deleteCampaign) (fun w hw => ?_) fun _ _ _ _ => trivial
  refine hw.step Tables.Local.deleteCampaign.rest (fun _ ha => .inl (List.mem_filter.mp ha).1)
    (fun _ he => .inl (List.mem_filter.mp he).1) fun x hx => ?_
  exact absurd rfl (Keyed.get?_erase_some.mp hx).2

end Confined

/-! ## The course of a campaign -/

namespace Assignee.Within

variable {a a' : Assignee}

theorem after (h : a.Within F id) (m : Move) : (a.after m).Within F id := by
  unfold Within
  rw [after_campaign, after_id]
  exact h

theorem move {m : Move} (h : a.Within F id) (hm : a.move m = .ok a') : a'.Within F id := by
  obtain ⟨_, rfl⟩ := move_ok.mp hm
  exact h.after m

theorem decline {reason : String} (h : a.Within F id) (hd : a.decline reason = .ok a') :
    a'.Within F id := by
  obtain ⟨_, _, rfl⟩ := decline_ok.mp hd
  exact h

theorem place {fee : Int} (h : a.Within F id) (hf : a.setFee fee = .ok a') (stage : Stage) :
    (a'.override stage).Within F id := by
  obtain ⟨_, rfl⟩ := setFee_ok.mp hf
  exact h

end Assignee.Within

namespace Confined

theorem advance {a : Assignee} (ha : a.Within F id) (m : Move) :
    Confined F id (Store.memory.advance a m) fun _ => True := by
  refine (obey _).bind fun a' hm => ?_
  exact (updateAssignee (ha.move hm)).bind fun _ _ => .pure trivial

theorem invite : Confined F id (Store.memory.invite id) fun _ => True := by
  refine (getCampaign false).bind fun _ _ => ?_
  refine (listAssignees _ true).bind fun as has => ?_
  exact .tally fun a ha => advance (has a ha) _

theorem recordAnswers {q : Option Questionnaire} (hq : ∀ x, q = some x → x.campaign = id)
    (accepted : Bool) (a : AssigneeId) (given : Keyed QuestionId String) :
    Confined F id (Store.memory.recordAnswers accepted q a given) fun _ => True := by
  unfold Store.recordAnswers
  split
  · rename_i q
    refine (obey _).bind fun sheet hsheet => ?_
    exact saveAnswers fun x hx => (Answer.sheet_ok hsheet x hx).1.trans (hq q rfl)
  · exact .pure trivial

theorem answerInvitation (b : BloggerId) (accepted : Bool) (given : Keyed QuestionId String) :
    Confined F id (Store.memory.answerInvitation id b accepted given) fun _ => True := by
  refine (getCampaign true).bind fun _ _ => ?_
  refine (findQuestionnaire false).bind fun q hq => ?_
  refine (getAssignee b true).bind fun a ha => ?_
  refine (obey _).bind fun a' hm => ?_
  refine (recordAnswers hq accepted a'.id given).bind fun _ _ => ?_
  exact (updateAssignee (ha.move hm)).bind fun _ _ => .pure trivial

theorem decline (b : BloggerId) (reason : String) :
    Confined F id (Store.memory.decline id b reason) fun _ => True := by
  refine (getAssignee b true).bind fun a ha => ?_
  refine (obey _).bind fun a' hd => ?_
  exact (updateAssignee (ha.decline hd)).bind fun _ _ => .pure trivial

theorem applyResult {a : Assignee} (ha : a.Within F id) (flags : WorkflowFlags)
    (results : Keyed BloggerId LotteryResult) :
    Confined F id (Store.memory.applyResult flags results a) fun _ => True := by
  unfold Store.applyResult
  split
  · exact .pure trivial
  · exact advance ha _

theorem applyLottery (results : Keyed BloggerId LotteryResult) :
    Confined F id (Store.memory.applyLottery id results) fun _ => True := by
  refine (getCampaign true).bind fun c _ => ?_
  refine (listAssignees _ true).bind fun as has => ?_
  exact .tally fun a ha => applyResult (has a ha) c.flags results

theorem finishShipment : Confined F id (Store.memory.finishShipment id) fun _ => True := by
  refine (getCampaign true).bind fun _ _ => ?_
  refine (listAssignees _ true).bind fun as has => ?_
  exact .tally fun a ha => advance (has a ha) _

theorem completePayment (bs : List BloggerId) :
    Confined F id (Store.memory.completePayment id bs) fun _ => True := by
  refine (getCampaign false).bind fun _ _ => ?_
  refine (assigneesAmong bs _ true).bind fun as has => ?_
  refine (Confined.tally fun a ha => advance (has a ha) _).bind fun _ _ => ?_
  exact .pure trivial

theorem submit (now : Instant) (b : BloggerId) (kind : EntryKind) (entry : Option EntryId) :
    Confined F id (Store.memory.submit now id b kind entry) fun _ => True := by
  refine (getAssignee b true).bind fun a ha => ?_
  refine (getCampaign true).bind fun _ _ => ?_
  refine (Confined.mint (Minting.orderly_mint _)).bind fun key hkey => ?_
  refine (obey _).bind fun e he => ?_
  refine (obey _).bind fun a' hm => ?_
  have hwithin : e.Within F id := by
    obtain ⟨_, rfl⟩ := Examination.submit_ok.mp he
    obtain ⟨ids, _, hfresh, hmint⟩ := hkey
    cases hmint
    exact ⟨rfl, hfresh.examinations ids.issued (Nat.le_refl _)⟩
  refine (createExamination hwithin).bind fun _ _ => ?_
  exact (updateAssignee (ha.move hm)).bind fun _ _ => .pure trivial

theorem applyVerdict {a : Assignee} (ha : a.Within F id) (kind : EntryKind)
    (verdicts : Keyed BloggerId Verdict) :
    Confined F id (Store.memory.applyVerdict id kind verdicts a) fun _ => True := by
  unfold Store.applyVerdict
  split
  · exact .pure trivial
  · refine (latestExamination a.id kind true).bind fun e he => ?_
    refine (obey _).bind fun e' hj => ?_
    refine (obey _).bind fun a' hm => ?_
    have hwithin : e'.Within F id := by
      obtain ⟨_, rfl⟩ := Examination.judge_ok.mp hj
      exact he
    refine (updateExamination hwithin).bind fun _ _ => ?_
    exact (updateAssignee (ha.move hm)).bind fun _ _ => .pure trivial

theorem applyVerdicts (kind : EntryKind) (verdicts : Keyed BloggerId Verdict) :
    Confined F id (Store.memory.applyVerdicts id kind verdicts) fun _ => True := by
  refine (listAssignees _ true).bind fun as has => ?_
  exact .tally fun a ha => applyVerdict (has a ha) kind verdicts

theorem complete : Confined F id (Store.memory.complete id) fun _ => True := by
  refine (getCampaign true).bind fun c hc => ?_
  refine (listAssignees none true).bind fun as has => ?_
  have hfinish : ∀ a ∈ as, a.finish.Within F id := has
  refine (Confined.eachOf fun a ha => updateAssignee (hfinish a ha)).bind fun _ _ => ?_
  refine (obey _).bind fun c' hedit => ?_
  have hc' : c'.id = id := by
    obtain ⟨_, rfl⟩ := Campaign.edit_ok.mp hedit
    exact hc
  exact (updateCampaign hc').bind fun _ _ => .pure trivial

/-! ## Saving -/

theorem enrol (now : Instant) (i : AssigneeInput) :
    Confined F id (Store.memory.enrol now id i) fun _ => True := by
  refine (Confined.mint (i.orderly_enrolment now id)).bind fun a ha => ?_
  obtain ⟨ids, _, hfresh, henrol⟩ := ha
  obtain ⟨_, hcreate, _⟩ := AssigneeInput.enrolment_ok henrol
  obtain ⟨_, _, rfl⟩ := Assignee.create_ok.mp hcreate
  exact createAssignee ⟨rfl, hfresh.assignees ids.issued (Nat.le_refl _)⟩

theorem reconcileQuestionnaire (q : Option QuestionnaireInput) :
    Confined F id (Store.memory.reconcileQuestionnaire id q) fun _ => True := by
  cases q with
  | none => exact deleteAnswers.bind fun _ _ => deleteQuestionnaire
  | some q =>
    refine (findQuestionnaire true).bind fun old hold => ?_
    refine (Confined.mint (q.orderly_renewal id old)).bind fun made hmade => ?_
    obtain ⟨ids, _, _, hrenewal⟩ := hmade
    obtain ⟨_, hcreate, _⟩ := QuestionnaireInput.renewal_ok hold hrenewal
    obtain ⟨_, _, rfl⟩ := Questionnaire.create_ok.mp hcreate
    exact saveQuestionnaire rfl

theorem checkSubmission (a : Assignee) (i : AssigneeInput) :
    Confined F id (Store.memory.checkSubmission id a i) fun _ => True := by
  unfold Store.checkSubmission
  split
  · exact .pure trivial
  · refine .tryCatch ((latestExamination a.id _ false).bind fun _ _ => .pure trivial) fun f => ?_
    split <;> exact .throw _

theorem reconcileAssignee {a : Option Assignee} (ha : ∀ x, a = some x → x.Within F id)
    (now : Instant) (i : AssigneeInput) :
    Confined F id (Store.memory.reconcileAssignee now id a i) fun _ => True := by
  unfold Store.reconcileAssignee
  split
  · split
    · exact .pure trivial
    · exact enrol now i
  · rename_i x
    have hx := ha x rfl
    split
    · exact (obey _).bind fun _ _ => deleteAssignee hx.2
    · refine (checkSubmission x i).bind fun _ _ => ?_
      exact (obey _).bind fun x' hfee => updateAssignee (hx.place hfee i.stage)

theorem reconcileAssignees (now : Instant) (inputs : List AssigneeInput) :
    Confined F id (Store.memory.reconcileAssignees now id inputs) fun _ => True := by
  refine (assigneesAmong _ none true).bind fun there hthere => ?_
  refine .eachOf fun i _ => reconcileAssignee (fun x hx => ?_) now i
  obtain ⟨y, hy, heq⟩ := List.mem_map.mp (Keyed.mem_of_get?_ofList hx)
  have hyx : y = x := congrArg Prod.snd heq
  exact hyx ▸ hthere y hy

/-- Only a request for a campaign that is there writes within one campaign. -/
theorem revise (now : Instant) (r : SaveRequest) (item : Item) (variant : Option Variant) :
    Confined F id (Store.memory.updateCampaign now id r item variant) fun _ => True := by
  refine (obey _).bind fun _ _ => ?_
  refine (getCampaign true).bind fun c hc => ?_
  refine (check _).bind fun c' hrev => ?_
  have hc' : c'.id = id := (SaveRequest.revision_id hrev).trans hc
  refine (updateCampaign hc').bind fun _ _ => ?_
  refine (reconcileQuestionnaire r.questionnaire).bind fun _ _ => ?_
  exact reconcileAssignees now r.assignees

end Confined

end Sponsorship
