import Sponsorship.Proofs.Numbered

/-!
# Sponsorship.Proofs.Ownership

Which rows belong to which.

* `Participant`: whose a row is. No change of an assignee touches it
  (`Advancing.participants`, `Saving.participants`).
* `Answer.sheet_ok`, `Tables.mem_saveAnswers`: whose the answers are that are stored.
* `Owned`: every row has the rows it belongs to, and no two are for the same thing. One lemma for
  each way of writing.
* `Tables.Consistent`, `consistent_after`: keys differ and rows have their owners after every
  history.
-/

namespace Sponsorship

open Time

/-- Whose a row is. -/
structure Participant where
  assignee : AssigneeId
  campaign : CampaignId
  blogger : BloggerId
  deriving DecidableEq

def Assignee.participant (a : Assignee) : Participant := ⟨a.id, a.campaign, a.blogger⟩

def Examination.participant (e : Examination) : Participant := ⟨e.assignee, e.campaign, e.blogger⟩

/-- What an answer is to, and whose it is. -/
def Answer.place (x : Answer) : CampaignId × AssigneeId × QuestionId :=
  (x.campaign, x.assignee, x.question)

namespace Tables

def campaignIds (t : Tables) : List CampaignId := t.campaigns.map Campaign.id

def participants (t : Tables) : List Participant := t.assignees.map Assignee.participant

end Tables

/-! ## Participants -/

namespace Assignee

@[simp] theorem after_participant (a : Assignee) (m : Move) :
    (a.after m).participant = a.participant := by
  unfold after; split
  · split <;> rfl
  · rfl

theorem participant_decline {a a' : Assignee} {reason : String} (h : a.decline reason = .ok a') :
    a'.participant = a.participant := by
  obtain ⟨_, _, rfl⟩ := decline_ok.mp h
  rfl

theorem participant_place {a a' : Assignee} {fee : Int} (stage : Stage)
    (h : a.setFee fee = .ok a') : (a'.override stage).participant = a.participant := by
  obtain ⟨_, rfl⟩ := setFee_ok.mp h
  rfl

end Assignee

namespace Tables

variable {t : Tables} {id : CampaignId}

theorem participants_putAssignee (hd : (t.assignees.map Assignee.id).Nodup) {a a' : Assignee}
    (ha : a ∈ t.assignees) (h : a'.participant = a.participant) :
    (t.putAssignee a').participants = t.participants := by
  have hid : a'.id = a.id := congrArg Participant.assignee h
  refine map_amend fun x hx hxid => ?_
  have : x = a := List.inj_on_of_nodup_map hd hx ha (hxid.trans hid)
  rw [h, this]

theorem participants_addAssignee (t : Tables) (a : Assignee) :
    (t.addAssignee a).participants = t.participants ++ [a.participant] :=
  List.map_append

theorem participants_deleteCampaign (t : Tables) (id : CampaignId) :
    (t.deleteCampaign id).participants = t.participants.filter fun p => p.campaign ≠ id := by
  unfold participants
  rw [List.filter_map]
  rfl

theorem participants_removeAssignee (t : Tables) (a : AssigneeId) :
    (t.removeAssignee a).participants = t.participants.filter fun p => p.assignee ≠ a := by
  unfold participants
  rw [List.filter_map]
  rfl

theorem campaign?_campaignIds {c : Campaign} (h : t.campaign? id = some c) : id ∈ t.campaignIds := by
  obtain ⟨hc, rfl⟩ := campaign?_mem h
  exact List.mem_map_of_mem hc

theorem campaignIds_putCampaign (c : Campaign) : (t.putCampaign c).campaignIds = t.campaignIds :=
  map_amend fun _ _ h => h.symm

theorem campaignIds_deleteCampaign (t : Tables) (id : CampaignId) :
    (t.deleteCampaign id).campaignIds = t.campaignIds.filter fun c => c ≠ id := by
  unfold campaignIds
  rw [List.filter_map]
  rfl

end Tables

/-- On its way a campaign keeps its participants. -/
theorem Advancing.participants {now : Instant} {id : CampaignId} {w w' : World Tables}
    (h : Sound w) (hs : Advancing now id w w') :
    w'.state.participants = w.state.participants ∨ w'.state = w.state.deleteCampaign id := by
  have hd := h.assignees.nodup
  cases hs with
  | moves hc ha hid hm hs => exact .inl (Tables.participants_putAssignee hd ha (by simp))
  | answers hq ha hid hs hsheet => rw [Tables.saveAnswers_eq]; exact .inl rfl
  | declines ha hid hdecline =>
    exact .inl (Tables.participants_putAssignee hd ha (Assignee.participant_decline hdecline))
  | finishes hc ha hid => exact .inl (Tables.participants_putAssignee hd ha rfl)
  | closes hc => exact .inl rfl
  | @submits c a kind entry e hc ha hid hs he =>
    exact .inl (Tables.participants_putAssignee (t := w.state.addExamination e) hd ha (by simp))
  | @judges a kind e e' v ha hid hs he hj =>
    exact .inl (Tables.participants_putAssignee (t := w.state.putExamination e') hd ha (by simp))
  | deletes => exact .inr rfl

/-- A save adds participants and takes away those that it names as deleted. -/
theorem Saving.participants {now : Instant} {r : SaveRequest} {id : CampaignId}
    {w w' : World Tables} (h : Sound w) (hs : Saving now r id w w') :
    w'.state.participants = w.state.participants ∨
      (∃ a, w'.state = w.state.addAssignee a ∧ a.id = w.ids.next.1 ∧ a.campaign = id) ∨
      ∃ i ∈ r.assignees, i.deleted = true ∧ ∃ a ∈ w.state.assignees, a.campaign = id ∧
        a.blogger = i.blogger ∧ w'.state = w.state.removeAssignee a.id := by
  cases hs with
  | opens hr hopen hid => exact .inl rfl
  | revises hr hc hrev => exact .inl rfl
  | poses hq hc hmade => exact .inl rfl
  | withdraws hq hc => exact .inl rfl
  | @enrols c i a ids hi hkept hc hfree henrol =>
    obtain ⟨_, hcreate, _⟩ := AssigneeInput.enrolment_ok henrol
    obtain ⟨_, _, rfl⟩ := Assignee.create_ok.mp hcreate
    exact .inr (.inl ⟨_, rfl, rfl, rfl⟩)
  | @expels i a hi hgone hb ha hid hs => exact .inr (.inr ⟨i, hi, hgone, a, ha, hid, hb, rfl⟩)
  | places hi hkept hb ha hid hneed hfee =>
    exact .inl (Tables.participants_putAssignee h.assignees.nodup ha
      (Assignee.participant_place _ hfee))

/-! ## Answers -/

/-- A sheet has the answers of one assignee to questions of the questionnaire. -/
theorem Answer.sheet_ok {q : Questionnaire} {a : AssigneeId} {given : Keyed QuestionId String}
    {sheet : List Answer} (h : Answer.sheet q a given = .ok sheet) : ∀ x ∈ sheet,
      x.campaign = q.campaign ∧ x.assignee = a ∧ x.question ∈ q.questionIds := by
  obtain ⟨_, hfind⟩ := Except.check_ok.mp h
  intro x hx
  obtain ⟨question, hquestion, hx⟩ := Except.mapM_ok hfind x hx
  unfold Answer.find at hx
  split at hx
  · cases hx
  · split at hx
    · cases hx
    · cases hx
      exact ⟨rfl, rfl, List.mem_map_of_mem hquestion⟩

theorem Tables.mem_saveAnswers {t : Tables} {answers : List Answer} {x : Answer}
    (h : x ∈ (t.saveAnswers answers).answers) : x ∈ t.answers ∨ x ∈ answers := by
  unfold saveAnswers at h
  induction answers generalizing t with
  | nil => exact .inl h
  | cons a rest ih =>
    rcases ih h with h | h
    · rcases List.mem_append.mp h with h | h
      · exact .inl (List.mem_filter.mp h).1
      · rw [List.mem_singleton.mp h]
        exact .inr List.mem_cons_self
    · exact .inr (List.mem_cons_of_mem a h)

/-! ## Owners -/

/-- Every row has the rows it belongs to, nobody takes part in a campaign twice, and no assignee has
two answers to one question. -/
structure Owned (t : Tables) : Prop where
  participations : (t.participants.map fun p => (p.campaign, p.blogger)).Nodup
  participants : ∀ p ∈ t.participants, p.campaign ∈ t.campaignIds
  examinations : ∀ e ∈ t.examinations, e.campaign ∈ t.campaignIds
  questionnaires : ∀ id q, t.questionnaires.get? id = some q → id ∈ t.campaignIds
  places : (t.answers.map Answer.place).Nodup
  answers : ∀ x ∈ t.answers, ∃ p ∈ t.participants, p.assignee = x.assignee ∧ p.campaign = x.campaign
  asked : ∀ x ∈ t.answers, (t.questionnaires.get? x.campaign).isSome

namespace Owned

variable {t : Tables} {id : CampaignId}

theorem addCampaign (h : Owned t) (c : Campaign) : Owned (t.addCampaign c) := by
  have hmem : ∀ {id}, id ∈ t.campaignIds → id ∈ (t.addCampaign c).campaignIds := by
    intro id hid
    change id ∈ (t.campaigns ++ [c]).map Campaign.id
    rw [List.map_append]
    exact List.mem_append_left _ hid
  exact { h with
    participants := fun p hp => hmem (h.participants p hp)
    examinations := fun e he => hmem (h.examinations e he)
    questionnaires := fun id q hq => hmem (h.questionnaires id q hq) }

theorem putCampaign (h : Owned t) (c : Campaign) : Owned (t.putCampaign c) := by
  have hids : (t.putCampaign c).campaignIds = t.campaignIds := Tables.campaignIds_putCampaign c
  exact { h with
    participants := by rw [hids]; exact h.participants
    examinations := by rw [hids]; exact h.examinations
    questionnaires := by rw [hids]; exact h.questionnaires }

theorem deleteCampaign (h : Owned t) (id : CampaignId) : Owned (t.deleteCampaign id) := by
  have hmem : ∀ {c}, c ∈ (t.deleteCampaign id).campaignIds ↔ c ∈ t.campaignIds ∧ c ≠ id := by
    intro c
    rw [Tables.campaignIds_deleteCampaign, List.mem_filter, decide_eq_true_iff]
  have hparticipants := t.participants_deleteCampaign id
  refine ⟨?_, ?_, ?_, ?_, ?_, ?_, ?_⟩
  · rw [hparticipants]
    exact h.participations.sublist (List.filter_sublist.map _)
  · intro p hp
    rw [hparticipants, List.mem_filter, decide_eq_true_iff] at hp
    exact hmem.mpr ⟨h.participants p hp.1, hp.2⟩
  · intro e he
    obtain ⟨he, hne⟩ := List.mem_filter.mp he
    exact hmem.mpr ⟨h.examinations e he, by simpa using hne⟩
  · intro c q hq
    obtain ⟨hq, hne⟩ := Keyed.get?_erase_some.mp hq
    exact hmem.mpr ⟨h.questionnaires c q hq, hne⟩
  · exact h.places.sublist (List.filter_sublist.map _)
  · intro x hx
    obtain ⟨hx, hne⟩ := List.mem_filter.mp hx
    obtain ⟨p, hp, hpx, hpc⟩ := h.answers x hx
    refine ⟨p, ?_, hpx, hpc⟩
    rw [hparticipants, List.mem_filter, hpc]
    exact ⟨hp, hne⟩
  · intro x hx
    obtain ⟨hx, hne⟩ := List.mem_filter.mp hx
    change (Keyed.get? (t.questionnaires.erase id) x.campaign).isSome
    rw [Keyed.get?_erase, if_neg (by simpa using hne)]
    exact h.asked x hx

/-- Assignees in the place of others who are the same participants. -/
theorem frame (h : Owned t) {assignees : List Assignee}
    (hp : assignees.map Assignee.participant = t.participants) : Owned { t with assignees } := by
  have hparticipants : Tables.participants { t with assignees } = t.participants := hp
  exact { h with
    participations := by rw [hparticipants]; exact h.participations
    participants := by rw [hparticipants]; exact h.participants
    answers := by rw [hparticipants]; exact h.answers }

theorem addAssignee (h : Owned t) {a : Assignee} (hc : a.campaign ∈ t.campaignIds)
    (hfree : t.participation? a.campaign a.blogger = none) : Owned (t.addAssignee a) := by
  have hparticipants := t.participants_addAssignee a
  refine { h with participations := ?_, participants := ?_, answers := ?_ }
  · rw [hparticipants, List.map_append, List.nodup_append]
    refine ⟨h.participations, List.nodup_singleton _, fun x hx y hy hxy => ?_⟩
    rw [List.mem_singleton.mp hy] at hxy
    obtain ⟨p, hp, rfl⟩ := List.mem_map.mp hx
    obtain ⟨o, ho, rfl⟩ := List.mem_map.mp hp
    obtain ⟨hcampaign, hblogger⟩ := Prod.mk.inj hxy
    exact Tables.participation?_eq_none.mp hfree o ho ⟨hcampaign, hblogger⟩
  · intro p hp
    rw [hparticipants] at hp
    rcases List.mem_append.mp hp with hp | hp
    · exact h.participants p hp
    · rw [List.mem_singleton.mp hp]
      exact hc
  · intro x hx
    obtain ⟨p, hp, hpx⟩ := h.answers x hx
    exact ⟨p, hparticipants ▸ List.mem_append_left _ hp, hpx⟩

theorem removeAssignee (h : Owned t) (a : AssigneeId) : Owned (t.removeAssignee a) := by
  have hparticipants := t.participants_removeAssignee a
  refine { h with participations := ?_, participants := ?_, places := ?_, answers := ?_, asked := ?_ }
  · rw [hparticipants]
    exact h.participations.sublist (List.filter_sublist.map _)
  · intro p hp
    rw [hparticipants] at hp
    exact h.participants p (List.mem_filter.mp hp).1
  · exact h.places.sublist (List.filter_sublist.map _)
  · intro x hx
    obtain ⟨hx, hne⟩ := List.mem_filter.mp hx
    obtain ⟨p, hp, hpx, hpc⟩ := h.answers x hx
    refine ⟨p, ?_, hpx, hpc⟩
    rw [hparticipants, List.mem_filter, hpx]
    exact ⟨hp, hne⟩
  · intro x hx
    exact h.asked x (List.mem_filter.mp hx).1

theorem addExamination (h : Owned t) {e : Examination} (hc : e.campaign ∈ t.campaignIds) :
    Owned (t.addExamination e) := by
  refine { h with examinations := fun x hx => ?_ }
  rcases List.mem_append.mp hx with hx | hx
  · exact h.examinations x hx
  · rw [List.mem_singleton.mp hx]
    exact hc

theorem putExamination (h : Owned t) {e : Examination} (hc : e.campaign ∈ t.campaignIds) :
    Owned (t.putExamination e) := by
  refine { h with examinations := fun x hx => ?_ }
  rcases mem_amend.mp hx with ⟨hx, _⟩ | ⟨_, _, _, rfl⟩
  · exact h.examinations x hx
  · exact hc

theorem putQuestionnaire (h : Owned t) {q : Questionnaire} (hc : q.campaign ∈ t.campaignIds) :
    Owned (t.putQuestionnaire q) := by
  refine { h with questionnaires := fun id x hx => ?_, asked := fun x hx => ?_ }
  · change (t.questionnaires.insert q.campaign q).get? id = some x at hx
    rw [Keyed.get?_insert] at hx
    split at hx
    · rename_i hid
      rw [hid]
      exact hc
    · exact h.questionnaires id x hx
  · change ((t.questionnaires.insert q.campaign q).get? x.campaign).isSome
    rw [Keyed.get?_insert]
    split
    · rfl
    · exact h.asked x hx

theorem removeQuestionnaire (h : Owned t) (id : CampaignId) : Owned (t.removeQuestionnaire id) := by
  refine { h with questionnaires := ?_, places := ?_, answers := ?_, asked := ?_ }
  · intro c q hq
    exact h.questionnaires c q (Keyed.get?_erase_some.mp hq).1
  · exact h.places.sublist (List.filter_sublist.map _)
  · intro x hx
    exact h.answers x (List.mem_filter.mp hx).1
  · intro x hx
    obtain ⟨hx, hne⟩ := List.mem_filter.mp hx
    change (Keyed.get? (t.questionnaires.erase id) x.campaign).isSome
    rw [Keyed.get?_erase, if_neg (by simpa using hne)]
    exact h.asked x hx

theorem saveAnswer (h : Owned t) {x : Answer}
    (hp : ∃ p ∈ t.participants, p.assignee = x.assignee ∧ p.campaign = x.campaign)
    (hq : (t.questionnaires.get? x.campaign).isSome) : Owned (t.saveAnswer x) := by
  refine { h with places := ?_, answers := fun y hy => ?_, asked := fun y hy => ?_ }
  · change ((t.answers.filter _ ++ [x]).map Answer.place).Nodup
    rw [List.map_append, List.nodup_append]
    refine ⟨h.places.sublist (List.filter_sublist.map _), List.nodup_singleton _, ?_⟩
    intro p hp q hq hpq
    obtain ⟨y, hy, rfl⟩ := List.mem_map.mp hp
    obtain ⟨_, hne⟩ := List.mem_filter.mp hy
    rw [List.mem_singleton.mp hq] at hpq
    obtain ⟨hcampaign, hrest⟩ := Prod.mk.inj hpq
    obtain ⟨hassignee, hquestion⟩ := Prod.mk.inj hrest
    simp only [decide_eq_true_iff] at hne
    exact hne ⟨hcampaign, hassignee, hquestion⟩
  · rcases List.mem_append.mp hy with hy | hy
    · exact h.answers y (List.mem_filter.mp hy).1
    · rw [List.mem_singleton.mp hy]
      exact hp
  · rcases List.mem_append.mp hy with hy | hy
    · exact h.asked y (List.mem_filter.mp hy).1
    · rw [List.mem_singleton.mp hy]
      exact hq

theorem saveAnswers (h : Owned t) {answers : List Answer}
    (hp : ∀ x ∈ answers, ∃ p ∈ t.participants, p.assignee = x.assignee ∧ p.campaign = x.campaign)
    (hq : ∀ x ∈ answers, (t.questionnaires.get? x.campaign).isSome) : Owned (t.saveAnswers answers) := by
  induction answers generalizing t with
  | nil => exact h
  | cons x rest ih =>
    exact ih (h.saveAnswer (hp x List.mem_cons_self) (hq x List.mem_cons_self))
      (fun y hy => hp y (List.mem_cons_of_mem x hy)) fun y hy => hq y (List.mem_cons_of_mem x hy)

/-- Answers were given in campaigns that were opened. -/
theorem answered_issued {w : World Tables} (h : Owned w.state) (hw : Sound w) {x : Answer}
    (hx : x ∈ w.state.answers) : w.ids.Issued x.campaign := by
  obtain ⟨p, hp, _, hcampaign⟩ := h.answers x hx
  exact hcampaign ▸ hw.campaigns.issued _ (h.participants p hp)

theorem advancing {now : Instant} {w w' : World Tables} (hw : Sound w) (h : Owned w.state)
    (hs : Advancing now id w w') : Owned w'.state := by
  have hd := hw.assignees.nodup
  cases hs with
  | moves hc ha hid hm hs => exact h.frame (Tables.participants_putAssignee hd ha (by simp))
  | answers hq ha hid hs hsheet =>
    have hcampaign := (hw.questionnaires _ _ hq).1
    refine h.saveAnswers (fun x hx => ?_) fun x hx => ?_
    · obtain ⟨hxc, hxa, _⟩ := Answer.sheet_ok hsheet x hx
      exact ⟨_, List.mem_map_of_mem ha, hxa.symm, hid.trans (hcampaign.symm.trans hxc.symm)⟩
    · obtain ⟨hxc, _, _⟩ := Answer.sheet_ok hsheet x hx
      rw [hxc, hcampaign, hq]
      rfl
  | declines ha hid hdecline =>
    exact h.frame (Tables.participants_putAssignee hd ha (Assignee.participant_decline hdecline))
  | finishes hc ha hid => exact h.frame (Tables.participants_putAssignee hd ha rfl)
  | closes hc => exact h.putCampaign _
  | @submits c a kind entry e hc ha hid hs he =>
    obtain ⟨_, rfl⟩ := Examination.submit_ok.mp he
    have hthere : id ∈ w.state.campaignIds := Tables.campaign?_campaignIds hc
    exact (h.addExamination hthere).frame (Tables.participants_putAssignee hd ha (by simp))
  | @judges a kind e e' v ha hid hs he hj =>
    obtain ⟨o, ho, _, _, hcampaign, _⟩ := Tables.judged_row he hj
    have hthere : e'.campaign ∈ w.state.campaignIds := hcampaign ▸ h.examinations o ho
    exact (h.putExamination hthere).frame (Tables.participants_putAssignee hd ha (by simp))
  | deletes => exact h.deleteCampaign id

theorem saving {now : Instant} {r : SaveRequest} {w w' : World Tables} (hw : Sound w)
    (h : Owned w.state) (hs : Saving now r id w w') : Owned w'.state := by
  cases hs with
  | opens hr hopen hid => exact h.addCampaign _
  | revises hr hc hrev => exact h.putCampaign _
  | poses hq hc hmade =>
    have hthere : id ∈ w.state.campaignIds := Tables.campaign?_campaignIds hc
    exact h.putQuestionnaire (hw.renewal_campaign hmade ▸ hthere)
  | withdraws hq hc => exact h.removeQuestionnaire id
  | enrols hi hkept hc hfree henrol =>
    obtain ⟨_, hcreate, _⟩ := AssigneeInput.enrolment_ok henrol
    obtain ⟨_, _, rfl⟩ := Assignee.create_ok.mp hcreate
    exact h.addAssignee (Tables.campaign?_campaignIds hc) hfree
  | expels hi hgone hb ha hid hs => exact h.removeAssignee _
  | places hi hkept hb ha hid hneed hfee =>
    exact h.frame (Tables.participants_putAssignee hw.assignees.nodup ha
      (Assignee.participant_place _ hfee))

end Owned

theorem kept_owned : Kept Owned :=
  ⟨fun hw h hs => h.advancing hw hs, fun hw h hs => h.saving hw hs⟩

theorem owned_after (history : List Visit) : Owned (World.start.after history).state.tables := by
  have hempty : Owned {} :=
    { participations := .nil
      participants := fun _ h => by cases h
      examinations := fun _ h => by cases h
      questionnaires := fun _ _ h => by cases h
      places := .nil
      answers := fun _ h => by cases h
      asked := fun _ h => by cases h }
  exact kept_owned.after hempty history

/-! ## All tables -/

/-- Keys differ, and every row has the rows it belongs to. -/
structure Tables.Consistent (t : Tables) : Prop where
  campaigns : (t.campaigns.map Campaign.id).Nodup
  assignees : (t.assignees.map Assignee.id).Nodup
  participations : (t.assignees.map fun a => (a.campaign, a.blogger)).Nodup
  examinations : (t.examinations.map Examination.id).Nodup
  schedules : (t.campaigns.flatMap fun c => c.schedules.map Schedule.id).Nodup
  questions : (t.questionnaires.entries.flatMap fun e => e.2.questions.map Question.id).Nodup
  answers : (t.answers.map fun x => (x.campaign, x.assignee, x.question)).Nodup
  assigneeCampaign : ∀ a ∈ t.assignees, ∃ c ∈ t.campaigns, c.id = a.campaign
  examinationCampaign : ∀ e ∈ t.examinations, ∃ c ∈ t.campaigns, c.id = e.campaign
  questionnaireCampaign : ∀ id q, t.questionnaires.get? id = some q →
    q.campaign = id ∧ ∃ c ∈ t.campaigns, c.id = id
  answerCampaign : ∀ x ∈ t.answers, ∃ c ∈ t.campaigns, c.id = x.campaign
  answerAssignee : ∀ x ∈ t.answers, ∃ a ∈ t.assignees, a.id = x.assignee ∧ a.campaign = x.campaign
  unasked : ∀ id, t.questionnaires.get? id = none → ∀ x ∈ t.answers, x.campaign ≠ id

/-- Whatever was commanded, keys differ and every row has the rows it belongs to. -/
theorem consistent_after (history : List Visit) :
    (World.start.after history).state.tables.Consistent := by
  have hs := sound_after history
  have hn := numbered_after history
  have ho := owned_after history
  have hassignees : ∀ a ∈ (World.start.after history).state.tables.assignees,
      a.campaign ∈ (World.start.after history).state.tables.campaignIds :=
    fun a ha => ho.participants _ (List.mem_map_of_mem ha)
  have hanswers : ∀ x ∈ (World.start.after history).state.tables.answers,
      ∃ a ∈ (World.start.after history).state.tables.assignees,
        a.id = x.assignee ∧ a.campaign = x.campaign := by
    intro x hx
    obtain ⟨p, hp, hpx⟩ := ho.answers x hx
    obtain ⟨a, ha, rfl⟩ := List.mem_map.mp hp
    exact ⟨a, ha, hpx⟩
  refine ⟨hs.campaigns.nodup, hs.assignees.nodup, ?_, hs.examinations.nodup, hn.schedules.nodup,
    hn.questions.nodup, ho.places, ?_, ?_, ?_, ?_, hanswers, ?_⟩
  · have hpairs := ho.participations
    rw [Tables.participants, List.map_map] at hpairs
    exact hpairs
  · exact fun a ha => List.mem_map.mp (hassignees a ha)
  · exact fun e he => List.mem_map.mp (ho.examinations e he)
  · exact fun id q hq => ⟨(hs.questionnaires id q hq).1, List.mem_map.mp (ho.questionnaires id q hq)⟩
  · intro x hx
    obtain ⟨a, ha, _, hcampaign⟩ := hanswers x hx
    exact hcampaign ▸ List.mem_map.mp (hassignees a ha)
  · intro id hnone x hx hid
    have := ho.asked x hx
    rw [hid, hnone] at this
    cases this

end Sponsorship
