import Sponsorship.Proofs.Advance

/-!
# Sponsorship.Proofs.Save

What a request to save a campaign does to the tables: a run that succeeds is a series of changes
(`Saves`).

* `Saves.keeps`: what every change keeps.
* `createCampaign_saves`: a new campaign takes the next identifier.
* `Reconciling`: within the loop over the listed assignees, the rows of those that are left are still
  as they were read.
* `updateCampaign_saves`: a campaign that is there.
-/

namespace Sponsorship

open Time Relation

/-- A series of changes that a request makes. -/
abbrev Saves (now : Instant) (r : SaveRequest) (id : CampaignId) :
    World Tables → World Tables → Prop :=
  ReflTransGen (Saving now r id)

variable {now : Instant} {r : SaveRequest} {id : CampaignId} {w w' w'' : World Tables}

theorem Sound.saves (h : Sound w) (hs : Saves now r id w w') : Sound w' := by
  induction hs with
  | refl => exact h
  | tail _ hs ih => exact ih.saving hs

/-- What every change of sound tables keeps, a series of them keeps. -/
theorem Saves.keeps {P : World Tables → Prop}
    (hstep : ∀ {w w'}, Sound w → P w → Saving now r id w w' → P w') (h : Sound w) (hp : P w)
    (hs : Saves now r id w w') : P w' := by
  induction hs with
  | refl => exact hp
  | tail hs hlast ih => exact hstep (h.saves hs) ih hlast

/-! ## What a request leaves and writes -/

theorem Saving.examinations_eq (h : Saving now r id w w') :
    w'.state.examinations = w.state.examinations := by
  cases h <;> rfl

theorem Saves.examinations_eq (h : Saves now r id w w') :
    w'.state.examinations = w.state.examinations := by
  induction h with
  | refl => rfl
  | tail _ hs ih => exact hs.examinations_eq.trans ih

/-- Whenever a request writes its campaign, it writes its own flags. -/
theorem Saving.writes_flags (h : Saving now r id w w')
    (hf : ∀ c ∈ w.state.campaigns, c.id = id → c.flags = r.flags) :
    ∀ c ∈ w'.state.campaigns, c.id = id → c.flags = r.flags := by
  intro c hc hid
  cases h with
  | opens hr hopen hcid =>
    obtain ⟨_, _, hcreate⟩ := SaveRequest.opening_ok hopen
    obtain ⟨_, _, _, _, _, _, rfl⟩ := Campaign.create_ok.mp hcreate
    rcases List.mem_append.mp hc with hc | hc
    · exact hf c hc hid
    · rw [List.mem_singleton.mp hc]; rfl
  | revises hr hfound hrev =>
    obtain ⟨_, _, hcreate⟩ := SaveRequest.revision_ok hrev
    obtain ⟨_, _, _, _, _, _, rfl⟩ := Campaign.create_ok.mp hcreate
    rcases mem_amend.mp hc with ⟨hc, _⟩ | ⟨_, _, _, rfl⟩
    · exact hf c hc hid
    · rfl
  | poses hq hfound hmade => exact hf c hc hid
  | withdraws hq hfound => exact hf c hc hid
  | enrols hi hkept hfound hfree henrol => exact hf c hc hid
  | expels hi hgone hb ha haid hs => exact hf c hc hid
  | places hi hkept hb ha haid hneed hfee => exact hf c hc hid

theorem Saves.writes_flags (h : Saves now r id w w')
    (hf : ∀ c ∈ w.state.campaigns, c.id = id → c.flags = r.flags) :
    ∀ c ∈ w'.state.campaigns, c.id = id → c.flags = r.flags := by
  induction h with
  | refl => exact hf
  | tail _ hs ih => exact hs.writes_flags ih

/-! ## New campaigns -/

theorem SaveRequest.opening_id {item : Item} {variant : Option Variant} {ids ids' : Ids}
    {c : Campaign} (h : r.opening now item variant ids = (.ok c, ids')) : c.id = ids.next.1 := by
  obtain ⟨_, _, hcreate⟩ := opening_ok h
  obtain ⟨_, _, _, _, _, _, rfl⟩ := Campaign.create_ok.mp hcreate
  rfl

theorem enrol_saves {c : Campaign} {i : AssigneeInput} (h : Sound w)
    (hc : w.state.campaign? id = some c) (hi : i ∈ r.assignees) (hkept : i.deleted = false) :
    Ends (Store.memory.enrol now id i) w
      (fun _ w' => Saving now r id w w' ∧ Sound w' ∧ w'.state.campaign? id = some c ∧
        ∀ a ∈ w.state.assignees, a ∈ w'.state.assignees) fun _ => True := by
  refine .bind (Task.ofMinting_ends (fun a ids ha => ?_) fun _ _ _ => trivial)
  refine Call.createAssignee_ends (fun hfree => ?_) trivial
  obtain ⟨_, hcreate, _⟩ := AssigneeInput.enrolment_ok ha
  obtain ⟨_, _, rfl⟩ := Assignee.create_ok.mp hcreate
  have hs := Saving.enrols hi hkept hc hfree ha
  exact ⟨hs, h.saving hs, hc, fun _ hb => List.mem_append_left _ hb⟩

theorem poseQuestionnaire_saves (now : Instant) (r : SaveRequest) {c : Campaign} (h : Sound w)
    (hc : w.state.campaign? id = some c) (hnew : w.state.questionnaires.get? id = none) :
    Ends (Store.memory.poseQuestionnaire id r.questionnaire) w
      (fun _ w' => Saves now r id w w' ∧ Sound w' ∧ w'.state.campaign? id = some c)
      fun _ => True := by
  cases hq : r.questionnaire with
  | none => exact .pure ⟨.refl, h, hc⟩
  | some q =>
    refine .bind (Task.ofMinting_ends (fun made ids hmade => ?_) fun _ _ _ => trivial)
    rw [← hnew] at hmade
    have hs : Saving now r id w _ := .poses hq hc hmade
    exact Call.saveQuestionnaire_ends ⟨.single hs, h.saving hs, hc⟩

theorem createCampaign_saves (h : Sound w) (hr : r.drafted.check = .ok ()) (item : Item)
    (variant : Option Variant) :
    Ends (Store.memory.createCampaign now r item variant) w
      (fun id w' => id = w.ids.next.1 ∧ Saves now r id w w' ∧ (w'.state.campaign? id).isSome)
      fun _ => True := by
  refine .bind (Task.ofMinting_ends (fun c ids hopen => ?_) fun _ _ _ => trivial)
  have hid := SaveRequest.opening_id hopen
  have hfresh : c.id ∉ w.state.campaigns.map Campaign.id := by
    rw [hid]; exact h.campaigns.next_notMem h.injective
  have hs : Saving now r c.id w _ := .opens hr hopen rfl
  refine .bind (Call.createCampaign_ends hfresh ?_)
  have hw := h.saving hs
  have hnew : w.state.questionnaires.get? c.id = none := by rw [hid]; exact h.questionnaire_next
  refine .bind ((poseQuestionnaire_saves now r hw (Tables.campaign?_add hfresh) hnew).imp
    fun _ w₁ h₁ => ?_)
  obtain ⟨hs₁, hw₁, hc₁⟩ := h₁
  let I : List AssigneeInput → World Tables → Prop := fun rest w' =>
    Saves now r c.id w w' ∧ Sound w' ∧ w'.state.campaign? c.id = some c ∧
      ∀ i ∈ rest, i ∈ r.assignees ∧ i.deleted = false
  refine .bind ((eachOf_ends (I := I) (fun i rest w' hI => ?_) _ w₁
    ⟨.head hs hs₁, hw₁, hc₁, fun i hi => ?_⟩).imp fun _ w' hI => ?_)
  · obtain ⟨hsteps, hsound, hfound, hrest⟩ := hI
    obtain ⟨hi, hkept⟩ := hrest i List.mem_cons_self
    refine (enrol_saves hsound hfound hi hkept).imp fun _ w'' h => ?_
    obtain ⟨hs, hsound', hfound', _⟩ := h
    exact ⟨hsteps.tail hs, hsound', hfound', fun j hj => hrest j (List.mem_cons_of_mem i hj)⟩
  · simpa using List.mem_filter.mp hi
  · exact .pure ⟨hid, hI.1, by rw [hI.2.2.1]; rfl⟩

/-! ## Campaigns that are there -/

theorem reconcileQuestionnaire_saves (now : Instant) (r : SaveRequest) {c : Campaign} (h : Sound w)
    (hc : w.state.campaign? id = some c) :
    Ends (Store.memory.reconcileQuestionnaire id r.questionnaire) w
      (fun _ w' => Saves now r id w w' ∧ Sound w' ∧ w'.state.campaign? id = some c)
      fun _ => True := by
  cases hq : r.questionnaire with
  | none =>
    have hs : Saving now r id w _ := .withdraws hq hc
    exact .bind (Call.ends (Call.ends ⟨.single hs, h.saving hs, hc⟩))
  | some q =>
    refine .bind (Call.findQuestionnaire_ends ?_)
    refine .bind (Task.ofMinting_ends (fun made ids hmade => ?_) fun _ _ _ => trivial)
    have hs : Saving now r id w _ := .poses hq hc hmade
    exact Call.saveQuestionnaire_ends ⟨.single hs, h.saving hs, hc⟩

/-- A look for a required submission changes nothing, and fails exactly if it is not there. -/
theorem checkSubmission_saves (a : Assignee) (i : AssigneeInput) :
    Ends (Store.memory.checkSubmission id a i) w
      (fun _ w' => w' = w ∧ ∀ kind, Store.neededSubmission i.stage = some kind →
        (w.state.latestExamination? id a.id kind).isSome)
      fun _ => ∃ kind, Store.neededSubmission i.stage = some kind ∧
        w.state.latestExamination? id a.id kind = none := by
  unfold Store.checkSubmission
  cases hk : Store.neededSubmission i.stage with
  | none => exact .pure ⟨rfl, fun _ h => by cases h⟩
  | some kind =>
    refine .tryCatch (.bind (Call.latestExamination_ends (fun e he => .pure ⟨rfl, ?_⟩)
      fun hnone w' => .throw ⟨kind, rfl, hnone⟩))
    intro kind' hk'
    cases hk'
    rw [he]; rfl

/-- Where the loop over the listed assignees stands: `rest` is left, and `there` says which rows the
assignees in it had when the loop began. -/
structure Reconciling (now : Instant) (r : SaveRequest) (id : CampaignId)
    (there : Keyed BloggerId Assignee) (w : World Tables) (rest : List AssigneeInput)
    (w' : World Tables) : Prop where
  sound : Sound w'
  steps : Saves now r id w w'
  listed : ∀ i ∈ rest, i ∈ r.assignees
  campaign : (w'.state.campaign? id).isSome
  rows : ∀ i ∈ rest, ∀ a, there.get? i.blogger = some a →
    a ∈ w'.state.assignees ∧ a.campaign = id ∧ a.blogger = i.blogger
  distinct : (rest.map AssigneeInput.blogger).Nodup

namespace Reconciling

variable {there : Keyed BloggerId Assignee} {i : AssigneeInput} {rest : List AssigneeInput}

/-- The loop begins with the rows of those whom the request lists. -/
theorem start {c : Campaign} (h : Sound w) (hc : w.state.campaign? id = some c)
    (hd : (r.assignees.map AssigneeInput.blogger).Nodup) :
    Reconciling now r id (Keyed.ofList ((w.state.among id (r.assignees.map AssigneeInput.blogger)
      none).map fun a => (a.blogger, a))) w r.assignees w where
  sound := h
  steps := .refl
  listed _ hi := hi
  campaign := by rw [hc]; rfl
  rows i _ a ha := by
    obtain ⟨b, hb, heq⟩ := List.mem_map.mp (Keyed.mem_of_get?_ofList ha)
    obtain ⟨hblogger, rfl⟩ := Prod.mk.inj heq
    obtain ⟨hmem, hid, _⟩ := Tables.mem_among.mp hb
    exact ⟨hmem, hid, hblogger⟩
  distinct := hd

/-- A change that leaves the rows of other bloggers alone. -/
theorem step (h : Reconciling now r id there w (i :: rest) w') (hs : Saving now r id w' w'')
    (hcs : w''.state.campaigns = w'.state.campaigns)
    (has : ∀ a ∈ w'.state.assignees, a.blogger ≠ i.blogger → a ∈ w''.state.assignees) :
    Reconciling now r id there w rest w'' where
  sound := h.sound.saving hs
  steps := h.steps.tail hs
  listed j hj := h.listed j (List.mem_cons_of_mem i hj)
  campaign := by unfold Tables.campaign?; rw [hcs]; exact h.campaign
  rows j hj a ha := by
    obtain ⟨hmem, hid, hb⟩ := h.rows j (List.mem_cons_of_mem i hj) a ha
    refine ⟨has a hmem ?_, hid, hb⟩
    rw [hb]
    intro hji
    exact (List.nodup_cons.mp h.distinct).1 (List.mem_map.mpr ⟨j, hj, hji⟩)
  distinct := (List.nodup_cons.mp h.distinct).2

theorem skip (h : Reconciling now r id there w (i :: rest) w') :
    Reconciling now r id there w rest w' where
  sound := h.sound
  steps := h.steps
  listed j hj := h.listed j (List.mem_cons_of_mem i hj)
  campaign := h.campaign
  rows j hj := h.rows j (List.mem_cons_of_mem i hj)
  distinct := (List.nodup_cons.mp h.distinct).2

/-- The rows of other bloggers have other identifiers. -/
theorem id_ne (h : Reconciling now r id there w (i :: rest) w') {a b : Assignee}
    (ha : there.get? i.blogger = some a) (hb : b ∈ w'.state.assignees)
    (hne : b.blogger ≠ i.blogger) : b.id ≠ a.id := by
  obtain ⟨hmem, _, hblogger⟩ := h.rows i List.mem_cons_self a ha
  intro hid
  have : b = a := List.inj_on_of_nodup_map h.sound.assignees.nodup hb hmem hid
  exact hne (this ▸ hblogger)

end Reconciling

section Listed

variable {there : Keyed BloggerId Assignee} {i : AssigneeInput} {rest : List AssigneeInput}

theorem reconcileAbsent_saves (h : Reconciling now r id there w (i :: rest) w') :
    Ends (Store.memory.reconcileAssignee now id none i) w'
      (fun _ w'' => Reconciling now r id there w rest w'') fun _ => True := by
  obtain ⟨c, hc⟩ := Option.isSome_iff_exists.mp h.campaign
  have hi := h.listed i List.mem_cons_self
  simp only [Store.reconcileAssignee]
  cases hkept : i.deleted with
  | true => exact .pure h.skip
  | false =>
    refine (enrol_saves h.sound hc hi hkept).imp fun _ w'' hw => ?_
    obtain ⟨hs, hsound, hc'', has⟩ := hw
    exact { h.skip with
      sound := hsound
      steps := h.steps.tail hs
      campaign := by rw [hc'']; rfl
      rows := fun j hj a hja =>
        ⟨has a (h.skip.rows j hj a hja).1, (h.skip.rows j hj a hja).2⟩ }

theorem reconcilePresent_saves (h : Reconciling now r id there w (i :: rest) w') {a : Assignee}
    (ha : there.get? i.blogger = some a) :
    Ends (Store.memory.reconcileAssignee now id (some a) i) w'
      (fun _ w'' => Reconciling now r id there w rest w'') fun _ => True := by
  obtain ⟨hmem, hid, hb⟩ := h.rows i List.mem_cons_self a ha
  have hi := h.listed i List.mem_cons_self
  simp only [Store.reconcileAssignee]
  cases hgone : i.deleted with
  | true =>
    refine .bind (Task.obey_ends (fun _ hstage => ?_) fun _ _ => trivial)
    have hs : a.stage = .beforeInvitation := of_decide_eq_true (demand_ok.mp hstage)
    refine Call.deleteAssignee_ends (h.step (.expels hi hgone hb hmem hid hs) rfl fun x hx hne => ?_)
    exact List.mem_filter.mpr ⟨hx, by simpa using h.id_ne ha hx hne⟩
  | false =>
    refine .bind ((checkSubmission_saves a i).mono (fun _ w₁ hw => ?_) fun _ _ => trivial)
    obtain ⟨rfl, hneed⟩ := hw
    refine .bind (Task.obey_ends (fun a' hfee => ?_) fun _ _ => trivial)
    have hkey : a'.id = a.id := by obtain ⟨_, rfl⟩ := Assignee.setFee_ok.mp hfee; rfl
    refine Call.updateAssignee_ends h.sound (List.mem_map.mpr ⟨a, hmem, hkey.symm⟩) ?_
    refine h.step (.places hi hgone hb hmem hid hneed hfee) rfl fun x hx hne => ?_
    exact mem_amend.mpr (.inl ⟨hx, fun heq => h.id_ne ha hx hne (heq.trans hkey)⟩)

theorem reconcileAssignee_saves (h : Reconciling now r id there w (i :: rest) w') :
    Ends (Store.memory.reconcileAssignee now id (there.get? i.blogger) i) w'
      (fun _ w'' => Reconciling now r id there w rest w'') fun _ => True := by
  cases ha : there.get? i.blogger with
  | none => exact reconcileAbsent_saves h
  | some a => exact reconcilePresent_saves h ha

end Listed

theorem reconcileAssignees_saves {c : Campaign} (h : Sound w) (hc : w.state.campaign? id = some c)
    (hd : (r.assignees.map AssigneeInput.blogger).Nodup) :
    Ends (Store.memory.reconcileAssignees now id r.assignees) w (fun _ w' => Saves now r id w w')
      fun _ => True := by
  refine .bind (Call.assigneesAmong_ends ?_)
  exact (eachOf_ends (I := Reconciling now r id _ w) (fun _ _ _ hI => reconcileAssignee_saves hI) _ w
    (.start h hc hd)).imp fun _ _ hI => hI.steps

theorem updateCampaign_saves (h : Sound w) (hr : r.drafted.check = .ok ())
    (hd : (r.assignees.map AssigneeInput.blogger).Nodup) (item : Item) (variant : Option Variant) :
    Ends (Store.memory.updateCampaign now id r item variant) w (fun _ w' => Saves now r id w w')
      fun _ => True := by
  refine .bind (Task.obey_ends (fun _ _ => ?_) fun _ _ => trivial)
  refine .bind (Call.getCampaign_ends (fun c hc => ?_) fun _ => trivial)
  refine .bind (Task.ofExcept_ends (fun c' hrev => ?_) fun _ _ => trivial)
  obtain ⟨hmem, hid⟩ := Tables.campaign?_mem hc
  have hid' := SaveRequest.revision_id hrev
  have hs : Saving now r id w _ := .revises hr hc hrev
  refine .bind (Call.updateCampaign_ends h (List.mem_map.mpr ⟨c, hmem, hid'.symm⟩) ?_)
  have hc' : (w.state.putCampaign c').campaign? id = some c' :=
    Tables.campaign?_put hc (hid'.trans hid)
  refine .bind ((reconcileQuestionnaire_saves now r (h.saving hs) hc').imp fun _ w₁ h₁ => ?_)
  obtain ⟨hs₁, hw₁, hc₁⟩ := h₁
  refine (reconcileAssignees_saves hw₁ hc₁ hd).imp fun _ w₂ hs₂ => ?_
  exact .head hs (hs₁.trans hs₂)

end Sponsorship
