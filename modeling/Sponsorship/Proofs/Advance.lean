import Mathlib.Logic.Relation
import Sponsorship.Proofs.Calls

/-!
# Sponsorship.Proofs.Advance

What the commands on the way of a campaign do to the tables: a run that succeeds is a series of
changes (`Advances`), and the bulk commands fail in one way each.

* `Advances.keeps`: what every change keeps.
* `Pending`: within a loop, the assignees that are left are still as they were read.
* `invite_ends`, `applyLottery_ends`, `finishShipment_ends`, `completePayment_ends`,
  `complete_ends`: these fail exactly without the campaign.
* `applyVerdicts_ends`: this one fails exactly at a rejection without a reason (`Groundless`).
* `answerInvitation_ends`, `decline_ends`, `submit_ends`: one assignee each.
-/

namespace Sponsorship

open Time Relation

/-- A series of changes on the way of a campaign. -/
abbrev Advances (now : Instant) (id : CampaignId) : World Tables → World Tables → Prop :=
  ReflTransGen (Advancing now id)

variable {now : Instant} {id : CampaignId} {w w' w'' : World Tables}

theorem Sound.advances (h : Sound w) (hs : Advances now id w w') : Sound w' := by
  induction hs with
  | refl => exact h
  | tail _ hs ih => exact ih.advancing hs

/-- What every change of sound tables keeps, a series of them keeps. -/
theorem Advances.keeps {P : World Tables → Prop}
    (hstep : ∀ {w w'}, Sound w → P w → Advancing now id w w' → P w') (h : Sound w) (hp : P w)
    (hs : Advances now id w w') : P w' := by
  induction hs with
  | refl => exact hp
  | tail hs hlast ih => exact hstep (h.advances hs) ih hlast

/-! ## Loops -/

/-- Where a loop over assignees of a campaign stands that began at `w`: `rest` is left, and those in
it are still in the table as they were read, with `P`. -/
structure Pending (now : Instant) (id : CampaignId) (P : Assignee → Prop) (w : World Tables)
    (rest : List Assignee) (w' : World Tables) : Prop where
  sound : Sound w'
  steps : Advances now id w w'
  rows : ∀ a ∈ rest, a ∈ w'.state.assignees ∧ a.campaign = id ∧ P a
  distinct : (rest.map Assignee.id).Nodup
  campaigns : w'.state.campaigns = w.state.campaigns

namespace Pending

variable {P : Assignee → Prop} {a : Assignee} {rest : List Assignee}

theorem start (h : Sound w) (hrest : rest.Sublist w.state.assignees)
    (hp : ∀ a ∈ rest, a.campaign = id ∧ P a) : Pending now id P w rest w where
  sound := h
  steps := .refl
  rows a ha := ⟨hrest.subset ha, hp a ha⟩
  distinct := h.assignees.nodup.sublist (hrest.map _)
  campaigns := rfl

theorem head (h : Pending now id P w (a :: rest) w') :
    a ∈ w'.state.assignees ∧ a.campaign = id ∧ P a :=
  h.rows a List.mem_cons_self

theorem head_key (h : Pending now id P w (a :: rest) w') :
    a.id ∈ w'.state.assignees.map Assignee.id :=
  List.mem_map_of_mem h.head.1

theorem campaign? (h : Pending now id P w rest w') :
    w'.state.campaign? id = w.state.campaign? id := by
  unfold Tables.campaign?; rw [h.campaigns]

/-- The loop leaves an assignee as it is. -/
theorem skip (h : Pending now id P w (a :: rest) w') : Pending now id P w rest w' where
  sound := h.sound
  steps := h.steps
  rows b hb := h.rows b (List.mem_cons_of_mem a hb)
  distinct := (List.nodup_cons.mp h.distinct).2
  campaigns := h.campaigns

/-- The loop puts a row in the place of an assignee. The others have other identifiers. -/
theorem put (h : Pending now id P w (a :: rest) w') {a' : Assignee} (hid : a'.id = a.id)
    (hs : Advancing now id w' w'')
    (has : w''.state.assignees = (w'.state.putAssignee a').assignees)
    (hcs : w''.state.campaigns = w'.state.campaigns) : Pending now id P w rest w'' where
  sound := h.sound.advancing hs
  steps := h.steps.tail hs
  rows b hb := by
    refine ⟨?_, (h.skip.rows b hb).2⟩
    have hne : b.id ≠ a'.id := by
      rw [hid]
      intro hba
      exact (List.nodup_cons.mp h.distinct).1 (hba ▸ List.mem_map_of_mem hb)
    rw [has]
    exact mem_amend.mpr (.inl ⟨(h.skip.rows b hb).1, hne⟩)
  distinct := (List.nodup_cons.mp h.distinct).2
  campaigns := hcs.trans h.campaigns

/-- A loop each step of which keeps to this is a series of changes. -/
theorem tally {as : List Assignee} {step : Assignee → Task Tables Bool} {E : Fault → Prop}
    (h : Pending now id P w as w)
    (hstep : ∀ a rest w', Pending now id P w (a :: rest) w' →
      Ends (step a) w' (fun _ w'' => Pending now id P w rest w'') E) :
    Ends (Sponsorship.tally step as) w (fun _ w' => Advances now id w w') E :=
  (tally_ends hstep as w h).imp fun _ _ hp => hp.steps

theorem stage_mem {stage : Stage} (h : Pending now id (·.stage = stage) w (a :: rest) w') {m : Move}
    (hm : m.sources = [stage]) : a.stage ∈ m.sources := by
  rw [hm, h.head.2.2]
  exact List.mem_singleton.mpr rfl

end Pending

theorem pending_assigneesOf (h : Sound w) (stage : Stage) :
    Pending now id (·.stage = stage) w (w.state.assigneesOf id (some stage)) w :=
  .start h List.filter_sublist fun _ ha =>
    ⟨(Tables.mem_assigneesOf.mp ha).2.1, (Tables.mem_assigneesOf.mp ha).2.2 stage rfl⟩

/-! ## Steps without a submission -/

/-- Within a loop a plain step from the stage of an assignee does not fail. -/
theorem advance_ends {P : Assignee → Prop} {a : Assignee} {rest : List Assignee} {m : Move}
    {c : Campaign} {E : Fault → Prop} (h : Pending now id P w (a :: rest) w')
    (hc : w.state.campaign? id = some c) (hm : m.Plain c.flags) (hs : a.stage ∈ m.sources) :
    Ends (Store.memory.advance a m) w' (fun _ w'' => Pending now id P w rest w'') E := by
  obtain ⟨ha, hid, _⟩ := h.head
  refine .bind (Task.obey_ends (fun a' ha' => ?_) fun v hv => ?_)
  · obtain ⟨_, rfl⟩ := Assignee.move_ok.mp ha'
    refine .bind (Call.updateAssignee_ends h.sound ?_ (.pure ?_))
    · rw [Assignee.after_id]; exact h.head_key
    · exact h.put (a.after_id m) (.moves (h.campaign?.trans hc) ha hid hm hs) rfl rfl
  · rw [Assignee.move_ok.mpr ⟨hs, rfl⟩] at hv; cases hv

/-- The campaign is there, and the tables changed on its way; or it is not there. -/
abbrev Proceeds {α : Type} (now : Instant) (id : CampaignId) (t : Task Tables α)
    (w : World Tables) : Prop :=
  Ends t w (fun _ w' => (w.state.campaign? id).isSome ∧ Advances now id w w')
    (fun f => f = .notFound (.campaign id) ∧ w.state.campaign? id = none)

theorem getCampaign_proceeds {α : Type} {k : Campaign → Task Tables α} {lock : Bool}
    (hk : ∀ c, w.state.campaign? id = some c →
      Ends (k c) w (fun _ w' => Advances now id w w')
        fun f => f = .notFound (.campaign id) ∧ w.state.campaign? id = none) :
    Proceeds now id (Store.memory.call (.getCampaign id lock) >>= k) w := by
  refine .bind (Call.getCampaign_ends (fun c hc => ?_) fun hnone => ⟨rfl, hnone⟩)
  exact (hk c hc).imp fun _ _ h => ⟨by rw [hc]; rfl, h⟩

theorem invite_ends (h : Sound w) : Proceeds now id (Store.memory.invite id) w := by
  refine getCampaign_proceeds fun c hc => .bind (Call.listAssignees_ends ?_)
  refine (pending_assigneesOf h .beforeInvitation).tally fun a rest w' hp => ?_
  exact advance_ends hp hc trivial (hp.stage_mem rfl)

theorem applyLottery_ends (h : Sound w) (results : Keyed BloggerId LotteryResult) :
    Proceeds now id (Store.memory.applyLottery id results) w := by
  refine getCampaign_proceeds fun c hc => .bind (Call.listAssignees_ends ?_)
  refine (pending_assigneesOf h .lottery).tally fun a rest w' hp => ?_
  unfold Store.applyResult
  cases results.get? a.blogger with
  | none => exact .pure hp.skip
  | some r =>
    exact advance_ends hp hc (draw_plain c.flags r) (hp.stage_mem (draw_sources c.flags r))

theorem finishShipment_ends (h : Sound w) :
    Proceeds now id (Store.memory.finishShipment id) w := by
  refine getCampaign_proceeds fun c hc => .bind (Call.listAssignees_ends ?_)
  refine (pending_assigneesOf h .shipment).tally fun a rest w' hp => ?_
  exact advance_ends hp hc rfl (hp.stage_mem rfl)

theorem completePayment_ends (h : Sound w) (bloggers : List BloggerId) :
    Proceeds now id (Store.memory.completePayment id bloggers) w := by
  refine getCampaign_proceeds fun c hc => .bind (Call.assigneesAmong_ends ?_)
  have hpending : Pending now id (·.stage = .paying) w
      (w.state.among id bloggers (some .paying)) w := by
    refine .start h (List.filter_sublist.trans List.filter_sublist) fun a ha => ?_
    obtain ⟨_, hid, hstage, _⟩ := Tables.mem_among.mp ha
    exact ⟨hid, hstage _ rfl⟩
  have hloop : Ends (tally (fun a => Store.memory.advance a .completePayment)
      (w.state.among id bloggers (some .paying))) w
      (fun _ w' => Advances now id w w')
      fun f => f = .notFound (.campaign id) ∧ w.state.campaign? id = none :=
    hpending.tally fun a rest w' hp => advance_ends hp hc trivial (hp.stage_mem rfl)
  exact .bind (hloop.imp fun _ _ hs => .pure hs)

theorem complete_ends (h : Sound w) : Proceeds now id (Store.memory.complete id) w := by
  refine getCampaign_proceeds fun c hc => .bind (Call.listAssignees_ends ?_)
  have hpending : Pending now id (fun _ => True) w (w.state.assigneesOf id none) w :=
    .start h List.filter_sublist fun _ ha => ⟨(Tables.mem_assigneesOf.mp ha).2.1, trivial⟩
  refine .bind ((eachOf_ends (I := Pending now id _ w) (fun a rest w' hp => ?_) _ w hpending).imp
    fun _ w' hp => ?_)
  · refine Call.updateAssignee_ends hp.sound hp.head_key ?_
    obtain ⟨ha, hid, _⟩ := hp.head
    exact hp.put (show a.finish.id = a.id from rfl) (.finishes (hp.campaign?.trans hc) ha hid) rfl rfl
  · have hc' := hp.campaign?.trans hc
    obtain ⟨hmem, _⟩ := Tables.campaign?_mem hc'
    have hkey : c.id ∈ w'.state.campaigns.map Campaign.id := List.mem_map_of_mem hmem
    exact .bind (.bind (Call.updateCampaign_ends hp.sound hkey (.pure (hp.steps.tail (.closes hc')))))

/-! ## Submissions and verdicts -/

/-- A rejection without a reason. -/
def Verdict.Groundless (v : Verdict) : Prop :=
  v.passed = false ∧ ∀ reason, v.reason = some reason → reason = ""

theorem Examination.judge_error {e : Examination} {v : Verdict} {rule : Violation}
    (h : e.judge v = .error rule) : rule = .verdictReasonLacking ∧ v.Groundless := by
  by_cases hv : v.passed = true ∨ ∃ reason, v.reason = some reason ∧ reason ≠ ""
  · rw [judge_ok.mpr ⟨hv, rfl⟩] at h; cases h
  · refine ⟨?_, ?_⟩
    · unfold judge demand at h
      split at h
      · cases h
      · cases h; rfl
    · rw [not_or, Bool.not_eq_true] at hv
      exact ⟨hv.1, fun reason hr => by_contra fun hne => hv.2 ⟨reason, hr, hne⟩⟩

theorem Examination.judge_grounded {e e' : Examination} {v : Verdict} (h : e.judge v = .ok e') :
    ¬ v.Groundless := by
  rintro ⟨hpassed, hreason⟩
  rcases (judge_ok.mp h).1 with hp | ⟨reason, hr, hne⟩
  · rw [hpassed] at hp; cases hp
  · exact hne (hreason reason hr)

theorem examinedStage_mem_judgement (kind : EntryKind) (passed : Bool) :
    Store.examinedStage kind ∈ (Store.judgement kind passed).sources := by
  cases kind <;> exact List.mem_singleton.mpr rfl

theorem neededSubmission_examinedStage (kind : EntryKind) :
    Store.neededSubmission (Store.examinedStage kind) = some kind := by
  cases kind <;> rfl

/-- Whether the verdicts hold a rejection without a reason for an assignee. -/
def Groundless (verdicts : Keyed BloggerId Verdict) (a : Assignee) : Prop :=
  ∃ v, verdicts.get? a.blogger = some v ∧ v.Groundless

theorem applyVerdict_ends {kind : EntryKind} {verdicts : Keyed BloggerId Verdict} {a : Assignee}
    {rest : List Assignee}
    (h : Pending now id (·.stage = Store.examinedStage kind) w (a :: rest) w') :
    Ends (Store.memory.applyVerdict id kind verdicts a) w'
      (fun _ w'' => Pending now id (·.stage = Store.examinedStage kind) w rest w'' ∧
        ¬ Groundless verdicts a)
      (fun f => f = .validation .verdictReasonLacking ∧ Groundless verdicts a) := by
  obtain ⟨ha, hid, hstage⟩ := h.head
  unfold Store.applyVerdict
  cases hv : verdicts.get? a.blogger with
  | none => exact .pure ⟨h.skip, fun ⟨v, hv', _⟩ => by rw [hv] at hv'; cases hv'⟩
  | some v =>
    have hsubmitted : w'.state.Submitted id a.id kind := by
      rw [← hid]
      exact h.sound.submitted a ha kind (by rw [hstage]; exact neededSubmission_examinedStage kind)
    refine .bind (Call.latestExamination_ends (fun e he => ?_) fun hnone => ?_)
    · refine .bind (Task.obey_ends (fun e' he' => ?_) fun rule hrule => ?_)
      · have hmove : a.stage ∈ (Store.judgement kind v.passed).sources :=
          hstage ▸ examinedStage_mem_judgement kind v.passed
        refine .bind (Task.obey_ends (fun a' ha' => ?_) fun rule hrule => ?_)
        · obtain ⟨_, rfl⟩ := Assignee.move_ok.mp ha'
          obtain ⟨o, ho, _, hkey, _⟩ := Tables.judged_row he he'
          refine .bind (Call.updateExamination_ends h.sound (List.mem_map.mpr ⟨o, ho, hkey.symm⟩)
            (.bind (Call.updateAssignee_ends (h.sound.putJudged he he') ?_ (.pure ⟨?_, ?_⟩))))
          · rw [Assignee.after_id]; exact h.head_key
          · exact h.put (a.after_id _) (.judges ha hid hstage he he') rfl rfl
          · rintro ⟨v', hv', hgroundless⟩
            rw [hv] at hv'
            cases hv'
            exact Examination.judge_grounded he' hgroundless
        · rw [Assignee.move_ok.mpr ⟨hmove, rfl⟩] at hrule; cases hrule
      · obtain ⟨rfl, hv'⟩ := Examination.judge_error hrule
        exact ⟨rfl, v, hv, hv'⟩
    · have := Tables.latestExamination?_isSome.mpr hsubmitted
      rw [hnone] at this; cases this

/-- Verdicts fail at a rejection without a reason for one who waits for a verdict, and at nothing
else. -/
theorem applyVerdicts_ends (h : Sound w) (kind : EntryKind) (verdicts : Keyed BloggerId Verdict) :
    Ends (Store.memory.applyVerdicts id kind verdicts) w
      (fun _ w' => Advances now id w w' ∧
        ∀ a ∈ w.state.assigneesOf id (some (Store.examinedStage kind)), ¬ Groundless verdicts a)
      (fun f => f = .validation .verdictReasonLacking ∧
        ∃ a ∈ w.state.assigneesOf id (some (Store.examinedStage kind)), Groundless verdicts a) := by
  refine .bind (Call.listAssignees_ends ?_)
  -- the assignees that the loop has left behind had no such verdict
  let I : List Assignee → World Tables → Prop := fun rest w' =>
    Pending now id (·.stage = Store.examinedStage kind) w rest w' ∧
      (∀ a ∈ rest, a ∈ w.state.assigneesOf id (some (Store.examinedStage kind))) ∧
      ∀ a ∈ w.state.assigneesOf id (some (Store.examinedStage kind)),
        a ∈ rest ∨ ¬ Groundless verdicts a
  refine (tally_ends (I := I) (fun a rest w' hI => ?_) _ w ⟨pending_assigneesOf h _,
    fun a ha => ha, fun a ha => .inl ha⟩).imp fun _ w' hI => ?_
  · obtain ⟨hp, hrest, hdone⟩ := hI
    refine (applyVerdict_ends hp).mono (fun _ w'' hw => ⟨hw.1, ?_, ?_⟩) fun f hf => ?_
    · exact fun b hb => hrest b (List.mem_cons_of_mem a hb)
    · intro b hb
      rcases hdone b hb with hb | hb
      · rcases List.mem_cons.mp hb with rfl | hb
        · exact .inr hw.2
        · exact .inl hb
      · exact .inr hb
    · exact ⟨hf.1, a, hrest a List.mem_cons_self, hf.2⟩
  · refine ⟨hI.1.steps, fun a ha => ?_⟩
    rcases hI.2.2 a ha with ha | ha
    · cases ha
    · exact ha

/-- A submission is a row and a step of its assignee. -/
theorem submit_ends (h : Sound w) (blogger : BloggerId) (kind : EntryKind)
    (entry : Option EntryId) : Ends (Store.memory.submit now id blogger kind entry) w
      (fun _ w' => Advances now id w w') fun _ => True := by
  refine .bind (Call.getAssignee_ends (fun a ha hid hb => ?_) fun _ => trivial)
  refine .bind (Call.getCampaign_ends (fun c hc => ?_) fun _ => trivial)
  refine .bind (Task.ofMinting_ends (fun eid ids hmint => ?_) fun _ _ _ => trivial)
  cases hmint
  refine .bind (Task.obey_ends (fun e he => ?_) fun _ _ => trivial)
  refine .bind (Task.obey_ends (fun a' ha' => ?_) fun _ _ => trivial)
  obtain ⟨hs, rfl⟩ := Assignee.move_ok.mp ha'
  have hadd : Sound ⟨(w.ids.next : ExaminationId × Ids).2, w.state.addExamination e⟩ := by
    obtain ⟨_, rfl⟩ := Examination.submit_ok.mp he
    exact h.addExamination rfl (h.campaign?_issued hc)
      (h.assignees.issued _ (List.mem_map_of_mem ha)) (.refl _)
  refine .bind (Call.createExamination_ends (.bind (Call.updateAssignee_ends hadd ?_ (.pure ?_))))
  · rw [Assignee.after_id]; exact List.mem_map_of_mem ha
  · subst hb
    exact .single (.submits hc ha hid hs he)

/-! ## Answers to an invitation -/

theorem decline_ends (h : Sound w) (blogger : BloggerId) (reason : String) :
    Ends (Store.memory.decline id blogger reason) w (fun _ w' => Advances now id w w')
      fun _ => True := by
  refine .bind (Call.getAssignee_ends (fun a ha hid _ => ?_) fun _ => trivial)
  refine .bind (Task.obey_ends (fun a' ha' => ?_) fun _ _ => trivial)
  have hkey : a'.id ∈ w.state.assignees.map Assignee.id := by
    obtain ⟨_, _, rfl⟩ := Assignee.decline_ok.mp ha'
    exact List.mem_map.mpr ⟨a, ha, rfl⟩
  exact .bind (Call.updateAssignee_ends h hkey (.pure (.single (.declines ha hid ha'))))

/-- Answers do not touch the assignees and the campaigns. -/
theorem recordAnswers_ends (now : Instant) {accepted : Bool} {a : Assignee} {a' : AssigneeId}
    {answers : Keyed QuestionId String} (hid : a' = a.id) (ha : a ∈ w.state.assignees)
    (hc : a.campaign = id) (hs : a.stage = .invitation) :
    Ends (Store.memory.recordAnswers accepted (w.state.questionnaires.get? id) a' answers) w
      (fun _ w' => Advances now id w w' ∧ w'.state.assignees = w.state.assignees ∧
        w'.state.campaigns = w.state.campaigns) fun _ => True := by
  subst hid
  unfold Store.recordAnswers
  split
  · rename_i q hq
    refine .bind (Task.obey_ends (fun sheet hsheet => ?_) fun _ _ => trivial)
    refine Call.saveAnswers_ends ⟨.single (.answers hq ha hc hs hsheet), ?_, ?_⟩
    · rw [Tables.saveAnswers_eq]
    · rw [Tables.saveAnswers_eq]
  · exact .pure ⟨.refl, rfl, rfl⟩

theorem answerInvitation_ends (h : Sound w) (blogger : BloggerId) (accepted : Bool)
    (answers : Keyed QuestionId String) :
    Ends (Store.memory.answerInvitation id blogger accepted answers) w
      (fun _ w' => Advances now id w w') fun _ => True := by
  refine .bind (Call.getCampaign_ends (fun c hc => ?_) fun _ => trivial)
  refine .bind (Call.findQuestionnaire_ends ?_)
  refine .bind (Call.getAssignee_ends (fun a ha hid _ => ?_) fun _ => trivial)
  refine .bind (Task.obey_ends (fun a' ha' => ?_) fun _ _ => trivial)
  obtain ⟨hs, rfl⟩ := Assignee.move_ok.mp ha'
  have hstage : a.stage = .invitation := by
    cases accepted <;> exact List.mem_singleton.mp hs
  refine .bind ((recordAnswers_ends now (a.after_id _) ha hid hstage).imp fun _ w₁ hw => ?_)
  obtain ⟨hsteps, has, hcs⟩ := hw
  have ha₁ : a ∈ w₁.state.assignees := has ▸ ha
  have hc₁ : w₁.state.campaign? id = some c := by
    unfold Tables.campaign?; rw [hcs]; exact hc
  refine .bind (Call.updateAssignee_ends (h.advances hsteps) ?_ (.pure ?_))
  · rw [Assignee.after_id]; exact List.mem_map_of_mem ha₁
  · refine hsteps.tail (.moves hc₁ ha₁ hid ?_ hs)
    cases accepted
    · trivial
    · rfl

end Sponsorship
