import Sponsorship.Proofs.Transition

/-!
# Sponsorship.Proofs.Sound

What the tables are like at every moment.

* `Sound w`: identifiers are not used twice and were all taken from the supply, those of deleted
  rows that submissions still name among them; a questionnaire is kept under its campaign, and
  whoever waits for a verdict has submitted something.
* `Sound.advancing`, `Sound.saving`: every change keeps that. There is one lemma for each table that
  a change writes.
-/

namespace Sponsorship

open Time

/-- An assignee has submitted something of a kind. -/
def Tables.Submitted (t : Tables) (campaign : CampaignId) (assignee : AssigneeId)
    (kind : EntryKind) : Prop :=
  ∃ e ∈ t.examinations, e.campaign = campaign ∧ e.assignee = assignee ∧ e.kind = kind

/-- What the tables are like at every moment. -/
structure Sound (w : World Tables) : Prop where
  injective : Function.Injective w.ids.name
  campaigns : w.ids.Keys (w.state.campaigns.map Campaign.id)
  assignees : w.ids.Keys (w.state.assignees.map Assignee.id)
  examinations : w.ids.Keys (w.state.examinations.map Examination.id)
  questionnaires : ∀ id q, w.state.questionnaires.get? id = some q →
    q.campaign = id ∧ w.ids.Issued id
  owners : ∀ e ∈ w.state.examinations, w.ids.Issued e.campaign ∧ w.ids.Issued e.assignee
  submitted : ∀ a ∈ w.state.assignees, ∀ kind, Store.neededSubmission a.stage = some kind →
    w.state.Submitted a.campaign a.id kind

/-! ## Rows that are found -/

namespace Tables

variable {t : Tables} {id : CampaignId} {a : AssigneeId} {kind : EntryKind}

theorem campaign?_mem {c : Campaign} (h : t.campaign? id = some c) :
    c ∈ t.campaigns ∧ c.id = id :=
  ⟨List.mem_of_find?_eq_some h, by simpa using List.find?_some h⟩

theorem campaign?_eq_none : t.campaign? id = none ↔ id ∉ t.campaigns.map Campaign.id := by
  unfold campaign?
  rw [List.find?_eq_none]
  simp

theorem campaign?_put {c c' : Campaign} (hc : t.campaign? id = some c) (hid : c'.id = id) :
    (t.putCampaign c').campaign? id = some c' := by
  unfold campaign? putCampaign
  rw [find?_amend fun x _ hx => by simp [hx]]
  unfold campaign? at hc
  have := (campaign?_mem hc).2
  rw [hc, Option.map_some, if_pos (this.trans hid.symm)]

theorem campaign?_add {c : Campaign} (hc : c.id ∉ t.campaigns.map Campaign.id) :
    (t.addCampaign c).campaign? c.id = some c := by
  have hnone : t.campaigns.find? (fun x => x.id = c.id) = none := campaign?_eq_none.mpr hc
  simp [campaign?, addCampaign, List.find?_append, hnone]

theorem participation?_mem {b : BloggerId} {x : Assignee} (h : t.participation? id b = some x) :
    x ∈ t.assignees ∧ x.campaign = id ∧ x.blogger = b :=
  ⟨List.mem_of_find?_eq_some h, by simpa using List.find?_some h⟩

theorem mem_assigneesOf {stage : Option Stage} {x : Assignee} :
    x ∈ t.assigneesOf id stage ↔
      x ∈ t.assignees ∧ x.campaign = id ∧ ∀ s, stage = some s → x.stage = s := by
  unfold assigneesOf
  rw [List.mem_filter]
  cases stage <;> simp

theorem participation?_eq_none {b : BloggerId} : t.participation? id b = none ↔
    ∀ x ∈ t.assignees, ¬ (x.campaign = id ∧ x.blogger = b) := by
  unfold participation?
  rw [List.find?_eq_none]
  simp

/-- Where nobody takes part in a campaign twice, a blogger names an assignee. -/
theorem participation?_eq_some (hd : ((t.assigneesOf id none).map Assignee.blogger).Nodup)
    {b : BloggerId} {x : Assignee} : t.participation? id b = some x ↔
      x ∈ t.assignees ∧ x.campaign = id ∧ x.blogger = b := by
  refine ⟨participation?_mem, fun ⟨hx, hid, hb⟩ => ?_⟩
  have hof : ∀ {y : Assignee}, y ∈ t.assignees → y.campaign = id → y ∈ t.assigneesOf id none :=
    fun hy hid => mem_assigneesOf.mpr ⟨hy, hid, fun _ hs => by cases hs⟩
  cases hfound : t.participation? id b with
  | none => exact absurd ⟨hid, hb⟩ (participation?_eq_none.mp hfound x hx)
  | some y =>
    obtain ⟨hy, hid', hb'⟩ := participation?_mem hfound
    rw [List.inj_on_of_nodup_map hd (hof hx hid) (hof hy hid') (hb.trans hb'.symm)]

/-- The assignees of a campaign among some bloggers, in a stage if one is named. -/
def among (t : Tables) (id : CampaignId) (bloggers : List BloggerId) (stage : Option Stage) :
    List Assignee :=
  (t.assigneesOf id stage).filter fun x => bloggers.contains x.blogger

theorem mem_among {bloggers : List BloggerId} {stage : Option Stage} {x : Assignee} :
    x ∈ t.among id bloggers stage ↔ x ∈ t.assignees ∧ x.campaign = id ∧
      (∀ s, stage = some s → x.stage = s) ∧ x.blogger ∈ bloggers := by
  simp only [among, List.mem_filter, mem_assigneesOf, List.contains_iff_mem, and_assoc]

theorem among_sublist (t : Tables) (id : CampaignId) (bloggers : List BloggerId)
    (stage : Option Stage) : (t.among id bloggers stage).Sublist (t.assigneesOf id none) :=
  List.filter_sublist.trans (List.monotone_filter_right _ fun _ => by simp +contextual)

/-- A blogger who is among them finds its own row. -/
theorem get?_among (hd : ((t.assigneesOf id none).map Assignee.blogger).Nodup)
    {bloggers : List BloggerId} {b : BloggerId} (hb : b ∈ bloggers) :
    (Keyed.ofList ((t.among id bloggers none).map fun x => (x.blogger, x))).get? b =
      t.participation? id b := by
  refine Keyed.get?_ofList_eq fun x => ?_
  rw [participation?_eq_some hd, List.mem_map]
  constructor
  · rintro ⟨y, hy, heq⟩
    obtain ⟨hblogger, rfl⟩ := Prod.mk.inj heq
    obtain ⟨hmem, hid, _⟩ := mem_among.mp hy
    exact ⟨hmem, hid, hblogger⟩
  · rintro ⟨hmem, hid, rfl⟩
    exact ⟨x, mem_among.mpr ⟨hmem, hid, fun _ hs => (by cases hs), hb⟩, rfl⟩

theorem mem_submissions {e : Examination} :
    e ∈ t.submissions id a kind ↔
      e ∈ t.examinations ∧ e.campaign = id ∧ e.assignee = a ∧ e.kind = kind := by
  simp [submissions, List.mem_filter]

theorem latest?_mem {es : List Examination} {e : Examination} (h : latest? es = some e) :
    e ∈ es := by
  cases es with
  | nil => cases h
  | cons first rest =>
    have hfold : ∀ (rest : List Examination) (best : Examination),
        rest.foldl (fun best e => if e.createdAt.before best.createdAt then best else e) best
          ∈ best :: rest := by
      intro rest
      induction rest with
      | nil => exact fun best => List.mem_cons_self
      | cons e rest ih =>
        intro best
        rcases List.mem_cons.mp (ih (if e.createdAt.before best.createdAt then best else e))
          with h | h
        · rw [List.foldl_cons, h]; split <;> simp
        · exact List.mem_cons_of_mem _ (List.mem_cons_of_mem _ h)
    cases h
    exact hfold rest first

theorem latestExamination?_mem {e : Examination} (h : t.latestExamination? id a kind = some e) :
    ∃ o n, latest? (t.submissions id a kind) = some o ∧ e = { o with submissions := n } := by
  obtain ⟨o, ho, rfl⟩ := Option.map_eq_some_iff.mp h
  exact ⟨o, _, ho, rfl⟩

/-- A judged submission takes the place of the latest one. -/
theorem judged_row {e e' : Examination} {v : Verdict} (he : t.latestExamination? id a kind = some e)
    (hj : e.judge v = .ok e') :
    ∃ o ∈ t.examinations, latest? (t.submissions id a kind) = some o ∧ e'.id = o.id ∧
      e'.campaign = o.campaign ∧ e'.assignee = o.assignee ∧ e'.kind = o.kind := by
  obtain ⟨o, n, ho, rfl⟩ := latestExamination?_mem he
  obtain ⟨_, rfl⟩ := Examination.judge_ok.mp hj
  exact ⟨o, (mem_submissions.mp (latest?_mem ho)).1, ho, rfl, rfl, rfl, rfl⟩

theorem latestExamination?_isSome :
    (t.latestExamination? id a kind).isSome ↔ t.Submitted id a kind := by
  unfold latestExamination?
  rw [Option.isSome_map]
  constructor
  · intro h
    obtain ⟨e, he⟩ := Option.isSome_iff_exists.mp h
    obtain ⟨he, h⟩ := mem_submissions.mp (latest?_mem he)
    exact ⟨e, he, h⟩
  · rintro ⟨e, he, h⟩
    cases hs : t.submissions id a kind with
    | nil =>
      have : e ∈ t.submissions id a kind := mem_submissions.mpr ⟨he, h⟩
      rw [hs] at this; cases this
    | cons first rest => rfl

end Tables

/-! ## Writes -/

namespace Sound

variable {w : World Tables} {ids : Ids}

theorem later (h : Sound w) (hl : w.ids.Later ids) : Sound { w with ids } where
  injective := by rw [hl.name]; exact h.injective
  campaigns := h.campaigns.later hl
  assignees := h.assignees.later hl
  examinations := h.examinations.later hl
  questionnaires id q hq := ⟨(h.questionnaires id q hq).1, (h.questionnaires id q hq).2.later hl⟩
  owners e he := ⟨(h.owners e he).1.later hl, (h.owners e he).2.later hl⟩
  submitted := h.submitted

theorem addCampaign (h : Sound w) {c : Campaign} (hc : c.id = w.ids.next.1)
    (hl : (w.ids.next : CampaignId × Ids).2.Later ids) :
    Sound { ids, state := w.state.addCampaign c } := by
  have hw := h.later ((Ids.later_next .campaign w.ids).trans hl)
  refine { hw with campaigns := ?_, submitted := h.submitted }
  change ids.Keys ((w.state.campaigns ++ [c]).map Campaign.id)
  rw [List.map_append]
  exact h.campaigns.concat h.injective hc hl

theorem putCampaign (h : Sound w) (c : Campaign) :
    Sound { w with state := w.state.putCampaign c } := by
  refine { h with campaigns := ?_, submitted := h.submitted }
  change w.ids.Keys ((amend Campaign.id c.id _ w.state.campaigns).map Campaign.id)
  rw [map_amend fun a _ ha => ha.symm]
  exact h.campaigns

theorem addAssignee (h : Sound w) {a : Assignee} (ha : a.id = w.ids.next.1)
    (hneed : Store.neededSubmission a.stage = none)
    (hl : (w.ids.next : AssigneeId × Ids).2.Later ids) :
    Sound { ids, state := w.state.addAssignee a } := by
  have hw := h.later ((Ids.later_next .assignee w.ids).trans hl)
  refine { hw with assignees := ?_, submitted := ?_ }
  · change ids.Keys ((w.state.assignees ++ [a]).map Assignee.id)
    rw [List.map_append]
    exact h.assignees.concat h.injective ha hl
  · intro x hx kind hk
    rcases List.mem_append.mp hx with hx | hx
    · exact h.submitted x hx kind hk
    · rw [List.mem_singleton.mp hx, hneed] at hk; cases hk

theorem putAssignee (h : Sound w) {a : Assignee}
    (hneed : ∀ kind, Store.neededSubmission a.stage = some kind →
      w.state.Submitted a.campaign a.id kind) :
    Sound { w with state := w.state.putAssignee a } := by
  refine { h with assignees := ?_, submitted := ?_ }
  · change w.ids.Keys ((amend Assignee.id a.id _ w.state.assignees).map Assignee.id)
    rw [map_amend fun x _ hx => hx.symm]
    exact h.assignees
  · intro x hx kind hk
    rcases mem_amend.mp hx with ⟨hx, _⟩ | ⟨_, _, _, rfl⟩
    · exact h.submitted x hx kind hk
    · exact hneed kind hk

theorem removeAssignee (h : Sound w) (id : AssigneeId) :
    Sound { w with state := w.state.removeAssignee id } where
  injective := h.injective
  campaigns := h.campaigns
  assignees := h.assignees.sublist (List.filter_sublist.map _)
  examinations := h.examinations
  questionnaires := h.questionnaires
  owners := h.owners
  submitted a ha := h.submitted a (List.mem_filter.mp ha).1

theorem addExamination (h : Sound w) {e : Examination} (he : e.id = w.ids.next.1)
    (hc : w.ids.Issued e.campaign) (ha : w.ids.Issued e.assignee)
    (hl : (w.ids.next : ExaminationId × Ids).2.Later ids) :
    Sound { ids, state := w.state.addExamination e } := by
  have hids := (Ids.later_next .examination w.ids).trans hl
  have hw := h.later hids
  refine { hw with examinations := ?_, owners := ?_, submitted := ?_ }
  · change ids.Keys ((w.state.examinations ++ [e]).map Examination.id)
    rw [List.map_append]
    exact h.examinations.concat h.injective he hl
  · intro x hx
    rcases List.mem_append.mp hx with hx | hx
    · exact hw.owners x hx
    · rw [List.mem_singleton.mp hx]; exact ⟨hc.later hids, ha.later hids⟩
  · intro a ha kind hk
    obtain ⟨x, hx, hxa⟩ := h.submitted a ha kind hk
    exact ⟨x, List.mem_append_left _ hx, hxa⟩

/-- Only the verdict of a row may change, not whose it is and of which kind. -/
theorem putExamination (h : Sound w) {e e' : Examination} (he : e ∈ w.state.examinations)
    (hid : e'.id = e.id) (hc : e'.campaign = e.campaign) (ha : e'.assignee = e.assignee)
    (hk : e'.kind = e.kind) : Sound { w with state := w.state.putExamination e' } := by
  refine { h with examinations := ?_, owners := ?_, submitted := ?_ }
  · change w.ids.Keys ((amend Examination.id e'.id _ w.state.examinations).map Examination.id)
    rw [map_amend]
    · exact h.examinations
    · exact fun _ _ hx => hx.symm
  · intro x hx
    rcases mem_amend.mp hx with ⟨hx, _⟩ | ⟨_, _, _, rfl⟩
    · exact h.owners x hx
    · have := h.owners e he
      rw [← hc, ← ha] at this
      exact this
  · intro a has kind hneed
    obtain ⟨x, hx, hxa⟩ := h.submitted a has kind hneed
    by_cases hxe : x.id = e'.id
    · have : x = e := List.inj_on_of_nodup_map h.examinations.nodup hx he (hxe.trans hid)
      subst this
      refine ⟨{ e' with submissions := x.submissions }, mem_amend.mpr (.inr ⟨x, hx, hxe, rfl⟩), ?_⟩
      exact ⟨hc.trans hxa.1, ha.trans hxa.2.1, hk.trans hxa.2.2⟩
    · exact ⟨x, mem_amend.mpr (.inl ⟨hx, hxe⟩), hxa⟩

theorem saveAnswers (h : Sound w) (answers : List Answer) :
    Sound { w with state := w.state.saveAnswers answers } := by
  rw [Tables.saveAnswers_eq]
  exact { h with submitted := h.submitted }

theorem putQuestionnaire (h : Sound w) {q : Questionnaire} (hq : w.ids.Issued q.campaign) :
    Sound { w with state := w.state.putQuestionnaire q } := by
  refine { h with questionnaires := ?_, submitted := h.submitted }
  intro id x hx
  change (w.state.questionnaires.insert q.campaign q).get? id = some x at hx
  rw [Keyed.get?_insert] at hx
  split at hx
  · rename_i hid
    cases hx
    exact ⟨hid.symm, by rw [hid]; exact hq⟩
  · exact h.questionnaires id x hx

theorem questionnaires_erase (h : Sound w) {id id' : CampaignId} {q : Questionnaire}
    (hq : (w.state.questionnaires.erase id).get? id' = some q) :
    q.campaign = id' ∧ w.ids.Issued id' :=
  h.questionnaires id' q (Keyed.get?_erase_some.mp hq).1

theorem removeQuestionnaire (h : Sound w) (id : CampaignId) :
    Sound { w with state := w.state.removeQuestionnaire id } :=
  { h with
    questionnaires := fun _ _ hq => h.questionnaires_erase hq
    submitted := h.submitted }

theorem deleteCampaign (h : Sound w) (id : CampaignId) :
    Sound { w with state := w.state.deleteCampaign id } where
  injective := h.injective
  campaigns := h.campaigns.sublist (List.filter_sublist.map _)
  assignees := h.assignees.sublist (List.filter_sublist.map _)
  examinations := h.examinations.sublist (List.filter_sublist.map _)
  questionnaires _ _ hq := h.questionnaires_erase hq
  owners e he := h.owners e (List.mem_filter.mp he).1
  submitted a ha kind hk := by
    obtain ⟨ha, hid⟩ := List.mem_filter.mp ha
    obtain ⟨e, he, hea⟩ := h.submitted a ha kind hk
    exact ⟨e, List.mem_filter.mpr ⟨he, by rw [hea.1]; exact hid⟩, hea⟩

/-! ## Changes -/

variable {w' : World Tables} {now : Instant} {r : SaveRequest} {id : CampaignId}

theorem campaign?_issued (h : Sound w) {c : Campaign} (hc : w.state.campaign? id = some c) :
    w.ids.Issued id := by
  obtain ⟨hmem, rfl⟩ := Tables.campaign?_mem hc
  exact h.campaigns.issued _ (List.mem_map_of_mem hmem)

/-- No questionnaire is kept under an identifier that is new. -/
theorem questionnaire_next (h : Sound w) :
    w.state.questionnaires.get? w.ids.next.1 = none := by
  cases hget : w.state.questionnaires.get? w.ids.next.1 with
  | none => rfl
  | some q => exact absurd rfl (Ids.next_ne_of_issued h.injective (h.questionnaires _ q hget).2)

theorem putJudged (h : Sound w) {a : AssigneeId} {kind : EntryKind} {e e' : Examination}
    {v : Verdict} (he : w.state.latestExamination? id a kind = some e) (hj : e.judge v = .ok e') :
    Sound { w with state := w.state.putExamination e' } := by
  obtain ⟨o, ho, _, hid, hc, ha, hk⟩ := Tables.judged_row he hj
  exact h.putExamination ho hid hc ha hk

/-- An assignee in a stage that calls for no submission may be put anywhere. -/
theorem putAssignee_unneeded (h : Sound w) {a : Assignee}
    (ha : Store.neededSubmission a.stage = none) :
    Sound { w with state := w.state.putAssignee a } :=
  h.putAssignee fun kind hk => by rw [ha] at hk; cases hk

theorem advancing (h : Sound w) (hs : Advancing now id w w') : Sound w' := by
  cases hs with
  | moves hc ha hid hm hs => exact h.putAssignee_unneeded (by simpa using hm.unneeded)
  | answers hq ha hid hs hsheet => exact h.saveAnswers _
  | declines ha hid hd =>
    obtain ⟨_, _, rfl⟩ := Assignee.decline_ok.mp hd
    exact h.putAssignee_unneeded rfl
  | finishes hc ha hid => exact h.putAssignee_unneeded rfl
  | closes hc => exact h.putCampaign _
  | @submits c a kind entry e hc ha hid hs he =>
    obtain ⟨_, rfl⟩ := Examination.submit_ok.mp he
    have hc' : w.ids.Issued id := h.campaign?_issued hc
    have ha' : w.ids.Issued a.id := h.assignees.issued _ (List.mem_map_of_mem ha)
    refine (h.addExamination rfl hc' ha' (.refl _)).putAssignee fun kind' hk => ?_
    rw [Assignee.after_stage] at hk
    rw [Assignee.after_campaign, Assignee.after_id, neededSubmission_submission hk]
    exact ⟨_, List.mem_append_right _ (List.mem_singleton.mpr rfl), hid.symm, rfl, rfl⟩
  | @judges a kind e e' v ha hid hs he hj =>
    refine (h.putJudged he hj).putAssignee_unneeded ?_
    rw [Assignee.after_stage]
    exact neededSubmission_judgement kind v.passed
  | deletes => exact h.deleteCampaign id

theorem saving (h : Sound w) (hs : Saving now r id w w') : Sound w' := by
  cases hs with
  | @opens item variant c ids hr hopen hid =>
    obtain ⟨schedules, hschedules, hc⟩ := SaveRequest.opening_ok hopen
    obtain ⟨_, _, _, _, _, _, rfl⟩ := Campaign.create_ok.mp hc
    have hl := (Minting.orderly_mapM ScheduleInput.orderly_schedule r.schedules).later
      (w.ids.next : CampaignId × Ids).2
    rw [hschedules] at hl
    exact h.addCampaign rfl hl
  | revises hr hc hrev => exact h.putCampaign _
  | @poses c q made ids hq hc hmade =>
    obtain ⟨questions, hcreate, _⟩ := QuestionnaireInput.renewal_ok
      (fun o ho => (h.questionnaires _ o ho).1) hmade
    obtain ⟨_, _, rfl⟩ := Questionnaire.create_ok.mp hcreate
    have hl := (q.orderly_renewal id (w.state.questionnaires.get? id)).later w.ids
    rw [hmade] at hl
    exact (h.later hl).putQuestionnaire ((h.campaign?_issued hc).later hl)
  | withdraws hq hc => exact h.removeQuestionnaire id
  | enrols hi hkept hc hfree henrol =>
    obtain ⟨hnew, hcreate, rfl⟩ := AssigneeInput.enrolment_ok henrol
    obtain ⟨_, _, rfl⟩ := Assignee.create_ok.mp hcreate
    exact h.addAssignee rfl (checkNewAssignee_ok.mp hnew) (.refl _)
  | expels hi hgone hb ha hid hs => exact h.removeAssignee _
  | places hi hkept hb ha hid hneed hfee =>
    obtain ⟨_, rfl⟩ := Assignee.setFee_ok.mp hfee
    refine h.putAssignee fun kind hk => ?_
    have := Tables.latestExamination?_isSome.mp (hneed kind hk)
    rw [← hid] at this
    exact this

end Sound

end Sponsorship
