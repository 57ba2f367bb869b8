import Mathlib.Data.List.Induction
import Sponsorship.Proofs.Ownership
import Sponsorship.Query

/-!
# Sponsorship.Proofs.Leftovers

Rows that stay behind when what they refer to is gone.

* `Removes p`: a request deletes participant `p`. What `p` submitted stays in the store in memory.
* `orphan_iff_removed`: a submission is an orphan exactly if some request deleted who made it.
* `Drops x`: a request drops the question that `x` answers. The answer stays.
* `answers_fit`: an answer is to a question that its campaign asks, or some request dropped it.
-/

namespace Sponsorship

open Time

variable {now : Instant} {id : CampaignId} {r : SaveRequest} {u u' : World Tables}

/-! ## Submissions of assignees who were deleted -/

/-- A request for the campaign of a participant lists it as deleted. -/
def SaveRequest.Deletes (r : SaveRequest) (p : Participant) : Prop :=
  r.id = some p.campaign ∧ ∃ i ∈ r.assignees, i.blogger = p.blogger ∧ i.deleted = true

/-- A request that takes a participant from its campaign. -/
structure Removes (p : Participant) (w : World Memory) (v : Visit) : Prop where
  listed : ∃ r, v.command = .save r ∧ r.Deletes p
  there : p ∈ w.state.tables.participants
  gone : p ∉ (v.apply w).state.tables.participants

/-- Whoever submits takes part, and a verdict leaves a submission with who made it. -/
theorem Advancing.author (hs : Advancing now id u u') {e : Examination}
    (he : e ∈ u'.state.examinations) : e.participant ∈ u.state.participants ∨
      ∃ o ∈ u.state.examinations, o.participant = e.participant := by
  cases hs with
  | moves hc ha hid hm hs => exact .inr ⟨e, he, rfl⟩
  | answers hq ha hid hs hsheet =>
    rw [Tables.saveAnswers_eq] at he
    exact .inr ⟨e, he, rfl⟩
  | declines ha hid hdecline => exact .inr ⟨e, he, rfl⟩
  | finishes hc ha hid => exact .inr ⟨e, he, rfl⟩
  | closes hc => exact .inr ⟨e, he, rfl⟩
  | @submits c a kind entry made hc ha hid hs hmade =>
    rcases List.mem_append.mp he with he | he
    · exact .inr ⟨e, he, rfl⟩
    · obtain ⟨_, rfl⟩ := Examination.submit_ok.mp hmade
      rw [List.mem_singleton.mp he]
      refine .inl (List.mem_map.mpr ⟨a, ha, ?_⟩)
      simp [Assignee.participant, Examination.participant, hid]
  | @judges a kind latest judged v ha hid hs hlatest hj =>
    rcases mem_amend.mp he with ⟨he, _⟩ | ⟨_, _, _, rfl⟩
    · exact .inr ⟨e, he, rfl⟩
    · obtain ⟨o, n, ho, rfl⟩ := Tables.latestExamination?_mem hlatest
      obtain ⟨_, rfl⟩ := Examination.judge_ok.mp hj
      exact .inr ⟨o, (Tables.mem_submissions.mp (Tables.latest?_mem ho)).1, rfl⟩
  | deletes => exact .inr ⟨e, (List.mem_filter.mp he).1, rfl⟩

/-- Submissions of participants and of those whom `Gone` names. -/
def Attributed (Gone : Participant → Prop) (t : Tables) : Prop :=
  ∀ e ∈ t.examinations, e.participant ∈ t.participants ∨ Gone e.participant

theorem Attributed.advancing {Gone : Participant → Prop} (hu : Sound u)
    (h : Attributed Gone u.state) (hs : Advancing now id u u') : Attributed Gone u'.state := by
  intro e he
  rcases hs.participants hu with hsame | hdeleted
  · rw [hsame]
    rcases hs.author he with hnew | ⟨o, ho, hoe⟩
    · exact .inl hnew
    · rw [← hoe]
      exact h o ho
  · rw [hdeleted] at he ⊢
    obtain ⟨he, hne⟩ := List.mem_filter.mp he
    rw [Tables.participants_deleteCampaign, List.mem_filter]
    exact (h e he).imp_left fun hp => ⟨hp, hne⟩

/-- A save keeps every participant that it does not list as deleted. -/
theorem Saves.participant {p : Participant} (hu : Sound u) (hp : p ∈ u.state.participants)
    (hs : Saves now r id u u') : p ∈ u'.state.participants ∨
      p.campaign = id ∧ ∃ i ∈ r.assignees, i.blogger = p.blogger ∧ i.deleted = true := by
  refine hs.keeps (P := fun u => p ∈ u.state.participants ∨ _) ?_ hu (.inl hp)
  intro w w' hw h hs
  rcases h with h | h
  · rcases hs.participants hw with hsame | ⟨a, hadd, _⟩ | ⟨i, hi, hgone, a, ha, hid, hb, hremove⟩
    · exact .inl (hsame ▸ h)
    · rw [hadd, Tables.participants_addAssignee]
      exact .inl (List.mem_append_left _ h)
    · rw [hremove, Tables.participants_removeAssignee, List.mem_filter]
      by_cases hpa : p.assignee = a.id
      · -- no two assignees have this identifier
        obtain ⟨b, hb', rfl⟩ := List.mem_map.mp h
        have : b = a := List.inj_on_of_nodup_map hw.assignees.nodup hb' ha hpa
        subst this
        exact .inr ⟨hid, i, hi, hb.symm, hgone⟩
      · exact .inl ⟨h, by simpa using hpa⟩
  · exact .inr h

/-- Every submission is by a participant, or by one whom a request has deleted. -/
theorem attributed_after (history : List Visit) :
    Attributed (fun p => Sometime (Removes p) history)
      (World.start.after history).state.tables := by
  induction history using List.reverseRecOn with
  | nil => intro e he; cases he
  | append_singleton history v ih =>
    have hw := sound_after history
    have hlater : Attributed (fun p => Sometime (Removes p) (history ++ [v]))
        (World.start.after history).state.tables := fun e he => (ih e he).imp_right .concat
    rw [World.after_concat]
    rcases v.steps hw with ⟨hstate, _⟩ | ⟨r, id, hv, hid, steps⟩ | ⟨id, steps⟩
    · rw [hstate]
      exact hlater
    · intro e he
      have he : e ∈ (World.start.after history).state.tables.examinations :=
        steps.examinations_eq ▸ he
      rcases hlater e he with hp | hgone
      · by_cases hp' : e.participant ∈ (v.apply (World.start.after history)).state.tables.participants
        · exact .inl hp'
        · obtain ⟨hcampaign, hlisted⟩ := (steps.participant hw hp).resolve_left hp'
          rcases hid with hid | hnew
          · exact .inr (.last ⟨⟨r, hv, by rw [hid, hcampaign], hlisted⟩, hp, hp'⟩)
          · -- nobody submitted anything to a campaign that was not there
            exact absurd (hcampaign ▸ (hw.owners e he).1) hnew
      · exact .inr hgone
    · exact steps.keeps (P := fun u => Attributed _ u.state) (fun hu h hs => h.advancing hu hs)
        hw hlater

/-- Participants who are gone do not come back: a new one has an identifier of its own. -/
theorem lasting_gone (p : Participant) :
    Lasting fun u => u.ids.Issued p.assignee ∧ p ∉ u.state.participants := by
  refine ⟨fun h hl => ⟨h.1.later hl, h.2⟩, ?_, ?_⟩
  · rintro now id u u' hu ⟨hissued, hgone⟩ hs
    refine ⟨hissued.later hs.later, ?_⟩
    rcases hs.participants hu with hsame | hdeleted
    · rw [hsame]
      exact hgone
    · rw [hdeleted, Tables.participants_deleteCampaign]
      exact fun hp => hgone (List.mem_filter.mp hp).1
  · rintro now r id u u' hu ⟨hissued, hgone⟩ hs
    refine ⟨hissued.later hs.later, ?_⟩
    rcases hs.participants hu with hsame | ⟨a, hadd, hid, _⟩ | ⟨_, _, _, a, _, _, _, hremove⟩
    · rw [hsame]
      exact hgone
    · rw [hadd, Tables.participants_addAssignee]
      intro hp
      rcases List.mem_append.mp hp with hp | hp
      · exact hgone hp
      · have hpa : p.assignee = a.id := congrArg Participant.assignee (List.mem_singleton.mp hp)
        exact Ids.next_ne_of_issued hu.injective hissued (hid.symm.trans hpa.symm)
    · rw [hremove, Tables.participants_removeAssignee]
      exact fun hp => hgone (List.mem_filter.mp hp).1

theorem gone_after {p : Participant} {history : List Visit}
    (h : Sometime (Removes p) history) :
    p ∉ (World.start.after history).state.tables.participants := by
  refine ((lasting_gone p).since (fun past v hv => ?_) h).2
  obtain ⟨a, ha, rfl⟩ := List.mem_map.mp hv.there
  have hw := sound_after past
  have hissued := hw.assignees.issued a.id (List.mem_map_of_mem ha)
  exact ⟨(lasting_issued a.id).apply hw hissued v, hv.gone⟩

/-- A submission has lost its assignee exactly if some request deleted the assignee. -/
theorem orphan_iff_removed (history : List Visit) :
    ∀ e ∈ (World.start.after history).state.tables.examinations,
      e.participant ∉ (World.start.after history).state.tables.participants ↔
        Sometime (Removes e.participant) history := by
  intro e he
  constructor
  · exact fun hgone => (attributed_after history e he).resolve_left hgone
  · exact gone_after

/-- An update of the campaign that was saved first, where the rest is as it was. -/
def laterRequest (assignees : List AssigneeInput) (questionnaire : Option QuestionnaireInput) :
    SaveRequest :=
  { reviewingRequest with
    id := some ⟨"id-0001"⟩, assignees, questionnaire
    schedules := [⟨some ⟨"id-0002"⟩, .invitation, some ⟨0, 0⟩, some ⟨1, 0⟩⟩,
      ⟨some ⟨"id-0003"⟩, .articlePosting, some ⟨0, 0⟩, some ⟨1, 0⟩⟩,
      ⟨some ⟨"id-0004"⟩, .payment, none, some ⟨1, 0⟩⟩] }

/-- An assignee submits an article, is put back before the invitations and is deleted. -/
def deletingCourse : List Visit :=
  [visitAt 0 (.save { reviewingRequest with
      assignees := [{ blogger := ⟨"blogger"⟩, stage := .articlePosting }] }),
    visitAt 1 (.submit ⟨"id-0001"⟩ ⟨"blogger"⟩ .entry (some ⟨"entry"⟩)),
    visitAt 2 (.save (laterRequest [{ blogger := ⟨"blogger"⟩, stage := .beforeInvitation }] none)),
    visitAt 3 (.save (laterRequest
      [{ blogger := ⟨"blogger"⟩, stage := .beforeInvitation, deleted := true }] none))]

theorem orphan_iff_removed_of_deletingCourse :
    ∃ e ∈ (World.start.after deletingCourse).state.tables.examinations,
      e.participant ∉ (World.start.after deletingCourse).state.tables.participants ∧
        Sometime (Removes e.participant) deletingCourse := by
  have horphan : ∃ e ∈ (World.start.after deletingCourse).state.tables.examinations,
      e.participant ∉ (World.start.after deletingCourse).state.tables.participants := by
    decide +kernel
  obtain ⟨e, he, hgone⟩ := horphan
  exact ⟨e, he, hgone, (orphan_iff_removed deletingCourse e he).mp hgone⟩

def reader : Service Memory Tables :=
  { store := .memory, catalog := .shelf {}, now := ⟨4, 0⟩ }

/-- The submission is there without its assignee, and a query still answers with it. -/
theorem orphaned_submission :
    (∃ e ∈ (World.start.after deletingCourse).state.tables.examinations,
      ∀ a ∈ (World.start.after deletingCourse).state.tables.assignees,
        ¬ (a.id = e.assignee ∧ a.campaign = e.campaign ∧ a.blogger = e.blogger)) ∧
    ∃ answered, (reader.ask (.examination ⟨"id-0001"⟩ ⟨"id-0005"⟩ .entry)
      (World.start.after deletingCourse)).1 = .ok answered := by
  refine ⟨by decide +kernel, ?_⟩
  have hok : (reader.ask (.examination ⟨"id-0001"⟩ ⟨"id-0005"⟩ .entry)
      (World.start.after deletingCourse)).1.isOk = true := by decide +kernel
  cases hask : (reader.ask (.examination ⟨"id-0001"⟩ ⟨"id-0005"⟩ .entry)
      (World.start.after deletingCourse)).1 with
  | ok answered => exact ⟨answered, rfl⟩
  | error f => rw [hask] at hok; cases hok

/-! ## Answers to questions that were dropped -/

/-- A request for a campaign gives a questionnaire in which no input names the question. -/
def SaveRequest.Omits (r : SaveRequest) (question : QuestionId) : Prop :=
  ∃ q, r.questionnaire = some q ∧ ∀ i ∈ q.questions, Id.given? i.id ≠ some question

/-- A request that drops the question of an answer which is stored. -/
structure Drops (x : Answer) (w : World Memory) (v : Visit) : Prop where
  request : ∃ r, v.command = .save r ∧ r.id = some x.campaign ∧ r.Omits x.question
  stored : x ∈ w.state.tables.answers
  asked : x.question ∈ w.state.tables.asked x.campaign
  dropped : x.question ∉ (v.apply w).state.tables.asked x.campaign

/-- Every question that an input names is among the questions. -/
theorem Reconciles.named {old : Keyed QuestionId Question} {claimed : List QuestionId}
    {inputs : List QuestionInput} {ids ids' : Ids} {qs : List Question}
    (h : Reconciles old claimed inputs ids qs ids')
    (hold : ∀ id o, old.get? id = some o → o.id = id) : ∀ i ∈ inputs, ∀ k,
      Id.given? i.id = some k → k ∈ claimed ∨ k ∈ qs.map Question.id := by
  induction h with
  | nil => intro i hi; cases hi
  | posed hclaimed hq hqs ih =>
    intro i hi k hk
    rw [List.map_cons, List.mem_cons]
    rcases List.mem_cons.mp hi with rfl | hi
    · exact .inl (hclaimed k hk)
    · exact (ih i hi k hk).imp_right .inr
  | @kept claimed i rest ids ids' id o q qs hid hnew ho hq hqs ih =>
    have hqid : q.id = id := by
      obtain ⟨_, _, rfl⟩ := Question.revise_ok.mp hq
      exact hold id o ho
    intro i' hi k hk
    rw [List.map_cons, List.mem_cons, hqid]
    rcases List.mem_cons.mp hi with rfl | hi
    · rw [hid] at hk
      cases hk
      exact .inr (.inl rfl)
    · rcases ih i' hi k hk with hclaimed | hmem
      · rcases List.mem_cons.mp hclaimed with rfl | hclaimed
        · exact .inr (.inl rfl)
        · exact .inl hclaimed
      · exact .inr (.inr hmem)

/-- A question of the old questionnaire stays if an input names it. -/
theorem QuestionnaireInput.renewal_keeps {q : QuestionnaireInput} {o made : Questionnaire}
    {ids ids' : Ids} (h : q.renewal id (some o) ids = (.ok made, ids')) {i : QuestionInput}
    (hi : i ∈ q.questions) {k : QuestionId} (hk : Id.given? i.id = some k) :
    k ∈ made.questionIds := by
  obtain ⟨questions, _, hq, hmade⟩ := Minting.bind_ok.mp h
  obtain ⟨hcreate, rfl⟩ := Minting.obey_ok.mp hmade
  obtain ⟨_, _, rfl⟩ := Questionnaire.create_ok.mp hcreate
  rcases (Questionnaire.reconciled_ok hq).named (fun _ _ ho => (Questionnaire.byId_ok ho).1)
    i hi k hk with hnone | hmem
  · cases hnone
  · exact hmem

namespace Tables

variable {t : Tables} {c : CampaignId}

theorem asked_deleteCampaign :
    (t.deleteCampaign id).asked c = if c = id then [] else t.asked c := by
  unfold asked deleteCampaign
  rw [Keyed.get?_erase]
  split <;> rfl

theorem asked_removeQuestionnaire :
    (t.removeQuestionnaire id).asked c = if c = id then [] else t.asked c := by
  unfold asked removeQuestionnaire
  rw [Keyed.get?_erase]
  split <;> rfl

theorem asked_putQuestionnaire (q : Questionnaire) :
    (t.putQuestionnaire q).asked c = if c = q.campaign then q.questionIds else t.asked c := by
  unfold asked putQuestionnaire
  rw [Keyed.get?_insert]
  split <;> rfl

theorem asked_eq {q : Questionnaire} (h : t.questionnaires.get? c = some q) :
    t.asked c = q.questionIds := by
  unfold asked
  rw [h]
  rfl

end Tables

/-- Answers to questions that are asked and answers that `Dropped` names. -/
def Fitting (Dropped : Answer → Prop) (t : Tables) : Prop :=
  ∀ x ∈ t.answers, x.question ∈ t.asked x.campaign ∨ Dropped x

theorem Fitting.advancing {Dropped : Answer → Prop} (hu : Sound u) (h : Fitting Dropped u.state)
    (hs : Advancing now id u u') : Fitting Dropped u'.state := by
  cases hs with
  | moves hc ha hid hm hs => exact h
  | answers hq ha hid hs hsheet =>
    intro x hx
    rw [Tables.saveAnswers_eq]
    rcases Tables.mem_saveAnswers hx with hx | hx
    · exact h x hx
    · obtain ⟨hcampaign, _, hquestion⟩ := Answer.sheet_ok hsheet x hx
      have hget := hq
      rw [← (hu.questionnaires _ _ hq).1, ← hcampaign] at hget
      exact .inl (Tables.asked_eq hget ▸ hquestion)
  | declines ha hid hdecline => exact h
  | finishes hc ha hid => exact h
  | closes hc => exact h
  | submits hc ha hid hs he => exact h
  | judges ha hid hs he hj => exact h
  | deletes =>
    intro x hx
    obtain ⟨hx, hne⟩ := List.mem_filter.mp hx
    rw [Tables.asked_deleteCampaign, if_neg (by simpa using hne)]
    exact h x hx

/-- A save makes no answers, and it drops questions only by leaving them out. -/
theorem Saving.answer {x : Answer} (hu : Sound u) (hs : Saving now r id u u')
    (hx : x ∈ u'.state.answers) : x ∈ u.state.answers ∧
      (x.question ∈ u.state.asked x.campaign →
        x.question ∈ u'.state.asked x.campaign ∨ x.campaign = id ∧ r.Omits x.question) := by
  cases hs with
  | opens hr hopen hid => exact ⟨hx, .inl⟩
  | revises hr hc hrev => exact ⟨hx, .inl⟩
  | @poses c q made ids hq hc hmade =>
    refine ⟨hx, fun hasked => ?_⟩
    rw [Tables.asked_putQuestionnaire, hu.renewal_campaign hmade]
    by_cases hid : x.campaign = id
    · rw [if_pos hid]
      by_cases hnamed : ∃ i ∈ q.questions, Id.given? i.id = some x.question
      · obtain ⟨i, hi, hk⟩ := hnamed
        cases hget : u.state.questionnaires.get? id with
        | none =>
          rw [hid] at hasked
          unfold Tables.asked at hasked
          rw [hget] at hasked
          cases hasked
        | some o =>
          rw [hget] at hmade
          exact .inl (QuestionnaireInput.renewal_keeps hmade hi hk)
      · exact .inr ⟨hid, q, hq, fun i hi hk => hnamed ⟨i, hi, hk⟩⟩
    · rw [if_neg hid]
      exact .inl hasked
  | withdraws hq hc =>
    obtain ⟨hx, hne⟩ := List.mem_filter.mp hx
    refine ⟨hx, fun hasked => .inl ?_⟩
    rw [Tables.asked_removeQuestionnaire, if_neg (by simpa using hne)]
    exact hasked
  | enrols hi hkept hc hfree henrol => exact ⟨hx, .inl⟩
  | expels hi hgone hb ha hid hs => exact ⟨(List.mem_filter.mp hx).1, .inl⟩
  | places hi hkept hb ha hid hneed hfee => exact ⟨hx, .inl⟩

theorem Saves.answer {x : Answer} (hu : Sound u) (hs : Saves now r id u u')
    (hx : x ∈ u'.state.answers) : x ∈ u.state.answers ∧
      (x.question ∈ u.state.asked x.campaign →
        x.question ∈ u'.state.asked x.campaign ∨ x.campaign = id ∧ r.Omits x.question) := by
  refine hs.keeps (P := fun w => x ∈ w.state.answers → x ∈ u.state.answers ∧
    (x.question ∈ u.state.asked x.campaign →
      x.question ∈ w.state.asked x.campaign ∨ x.campaign = id ∧ r.Omits x.question)) ?_ hu
    (fun hx => ⟨hx, .inl⟩) hx
  intro w w' hw h hs hx
  obtain ⟨hx, hstep⟩ := hs.answer hw hx
  obtain ⟨hx, hbefore⟩ := h hx
  refine ⟨hx, fun hasked => ?_⟩
  rcases hbefore hasked with hasked | homits
  · exact hstep hasked
  · exact .inr homits

theorem fitting_after (history : List Visit) :
    Fitting (fun x => Sometime (Drops x) history) (World.start.after history).state.tables := by
  induction history using List.reverseRecOn with
  | nil => intro x hx; cases hx
  | append_singleton history v ih =>
    have hw := sound_after history
    have hlater : Fitting (fun x => Sometime (Drops x) (history ++ [v]))
        (World.start.after history).state.tables := fun x hx => (ih x hx).imp_right .concat
    rw [World.after_concat]
    rcases v.steps hw with ⟨hstate, _⟩ | ⟨r, id, hv, hid, steps⟩ | ⟨id, steps⟩
    · rw [hstate]
      exact hlater
    · intro x hx
      obtain ⟨hstored, hasked⟩ := Saves.answer hw steps hx
      rcases hlater x hstored with hfits | hdropped
      · by_cases hfits' :
          x.question ∈ (v.apply (World.start.after history)).state.tables.asked x.campaign
        · exact .inl hfits'
        · obtain ⟨hcampaign, homits⟩ := (hasked hfits).resolve_left hfits'
          rcases hid with hid | hnew
          · exact .inr (.last ⟨⟨r, hv, by rw [hid, hcampaign], homits⟩, hstored, hfits, hfits'⟩)
          · -- nobody answered anything in a campaign that was not there
            exact absurd (hcampaign ▸ (owned_after history).answered_issued hw hstored) hnew
      · exact .inr hdropped
    · exact steps.keeps (P := fun u => Fitting _ u.state) (fun hu h hs => h.advancing hu hs)
        hw hlater

/-- Questions that are gone do not come back: a new one has an identifier of its own. -/
theorem lasting_unasked (c : CampaignId) (k : QuestionId) :
    Lasting fun u => Numbered u ∧ u.ids.Issued k ∧ k ∉ u.state.asked c := by
  refine ⟨fun h hl => ⟨h.1.later hl, h.2.1.later hl, h.2.2⟩, ?_, ?_⟩
  · rintro now id u u' hu ⟨hn, hissued, hgone⟩ hs
    refine ⟨hn.advancing hu hs, hissued.later hs.later, ?_⟩
    cases hs with
    | answers hq ha hid hs hsheet =>
      rw [Tables.saveAnswers_eq]
      exact hgone
    | deletes =>
      rw [Tables.asked_deleteCampaign]
      split
      · exact List.not_mem_nil
      · exact hgone
    | moves hc ha hid hm hs => exact hgone
    | declines ha hid hdecline => exact hgone
    | finishes hc ha hid => exact hgone
    | closes hc => exact hgone
    | submits hc ha hid hs he => exact hgone
    | judges ha hid hs he hj => exact hgone
  · rintro now r id u u' hu ⟨hn, hissued, hgone⟩ hs
    refine ⟨hn.saving hu hs, hissued.later hs.later, ?_⟩
    cases hs with
    | @poses c' q made ids hq hc' hmade =>
      have hdrawn := QuestionnaireInput.renewal_drawn hu.injective (hn.asked_issued id) hmade
      rw [Tables.asked_putQuestionnaire, hu.renewal_campaign hmade]
      split
      · rename_i hc
        intro hk
        rcases hdrawn.origin k hk with hold | htaken
        · exact hgone (hc ▸ hold)
        · exact htaken.not_issued hu.injective hissued
      · exact hgone
    | withdraws hq hc' =>
      rw [Tables.asked_removeQuestionnaire]
      split
      · exact List.not_mem_nil
      · exact hgone
    | opens hr hopen hid => exact hgone
    | revises hr hc hrev => exact hgone
    | enrols hi hkept hc hfree henrol => exact hgone
    | expels hi hkept hb ha hid hs => exact hgone
    | places hi hkept hb ha hid hneed hfee => exact hgone

theorem unasked_after {x : Answer} {history : List Visit} (h : Sometime (Drops x) history) :
    x.question ∉ (World.start.after history).state.tables.asked x.campaign := by
  refine ((lasting_unasked x.campaign x.question).since (fun past v hv => ?_) h).2.2
  have hw := sound_after past
  have hn := numbered_after past
  have hissued := hn.asked_issued x.campaign x.question hv.asked
  exact ⟨lasting_numbered.apply hw hn v, (lasting_issued x.question).apply hw hissued v, hv.dropped⟩

/-- Whoever has answered a campaign was asked by it, and an answer is to no question that the
campaign asks exactly if some request dropped the question from its questionnaire. -/
theorem answers_fit (history : List Visit) :
    ∀ x ∈ (World.start.after history).state.tables.answers, ∃ q,
      (World.start.after history).state.tables.questionnaires.get? x.campaign = some q ∧
        (x.question ∉ q.questions.map Question.id ↔ Sometime (Drops x) history) := by
  intro x hx
  obtain ⟨q, hq⟩ := Option.isSome_iff_exists.mp ((owned_after history).asked x hx)
  refine ⟨q, hq, ?_⟩
  have hasked : q.questions.map Question.id =
      (World.start.after history).state.tables.asked x.campaign := (Tables.asked_eq hq).symm
  rw [hasked]
  constructor
  · exact fun hgone => (fitting_after history x hx).resolve_left hgone
  · exact unasked_after

/-- Two questions are asked and answered, and then one of them is dropped. -/
def droppingCourse : List Visit :=
  [visitAt 0 (.save { reviewingRequest with
      questionnaire := some { description := "about", questions :=
        [⟨none, .text, "first", "", []⟩, ⟨none, .text, "second", "", []⟩] } }),
    visitAt 1 (.invite ⟨"id-0001"⟩),
    visitAt 2 (.answerInvitation ⟨"id-0001"⟩ ⟨"blogger"⟩ true
      (Keyed.ofList [(⟨"id-0005"⟩, "one"), (⟨"id-0006"⟩, "two")])),
    visitAt 3 (.save (laterRequest [] (some { description := "about", questions :=
      [⟨some ⟨"id-0005"⟩, .text, "first", "", []⟩] })))]

theorem stale_question : ∃ x ∈ (World.start.after droppingCourse).state.tables.answers,
    x.question ∉ (World.start.after droppingCourse).state.tables.asked x.campaign := by
  decide +kernel

theorem answers_fit_of_droppingCourse :
    ∃ x ∈ (World.start.after droppingCourse).state.tables.answers,
      Sometime (Drops x) droppingCourse := by
  obtain ⟨x, hx, hstale⟩ := stale_question
  obtain ⟨q, hq, hfits⟩ := answers_fit droppingCourse x hx
  rw [Tables.asked_eq hq] at hstale
  exact ⟨x, hx, hfits.mp hstale⟩

theorem stale_answer : ¬ ∀ x ∈ (World.start.after droppingCourse).state.tables.answers, ∃ q,
    (World.start.after droppingCourse).state.tables.questionnaires.get? x.campaign = some q ∧
      x.question ∈ q.questions.map Question.id := by
  intro h
  obtain ⟨x, hx, hstale⟩ := stale_question
  obtain ⟨q, hq, hasked⟩ := h x hx
  rw [Tables.asked_eq hq] at hstale
  exact hstale hasked

end Sponsorship
