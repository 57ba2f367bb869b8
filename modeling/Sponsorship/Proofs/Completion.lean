import Sponsorship.Proofs.Isolation
import Sponsorship.Proofs.Resave

/-!
# Sponsorship.Proofs.Completion

A campaign that is completed rests until it is saved or deleted.

* `Finished id t`: campaign `id` is closed and all its assignees are done.
* `complete_finishes`, `Finished.idle_complete`: completing a campaign makes it so, and doing it once
  more changes nothing.
* `Finished.invite` and its kin: no command finds anyone in a stage that it moves, so the rows of the
  campaign stay as they are; only `Finished.decline` writes a reason.
* `others_createCampaign`: a new campaign is made beside the others.
* `Finished.visit`: what one command does to the rows, whichever campaign it is for.
* `completion_final`: what a history does to them.
-/

namespace Sponsorship

open Time

variable {id : CampaignId} {u : World Tables}

/-- The campaign is closed, and all its assignees are done. -/
structure Finished (id : CampaignId) (t : Tables) : Prop where
  closed : ∃ c, t.campaign? id = some c ∧ c.isClosed = true
  done : ∀ a ∈ t.assignees, a.campaign = id → a.stage = .done

/-! ## Completing -/

/-- A row of the same campaign takes the place of one of its assignees. -/
theorem Sound.assigneesOf_put (h : Sound u) {a a' : Assignee} (ha : a ∈ u.state.assignees)
    (hkey : a'.id = a.id) (hc : a'.campaign = a.campaign) :
    (u.state.putAssignee a').assigneesOf id none =
      amend Assignee.id a'.id (fun _ => a') (u.state.assigneesOf id none) := by
  refine filter_amend fun x hx hxa => ?_
  have hsame : x = a := List.inj_on_of_nodup_map h.assignees.nodup hx ha (hxa.trans hkey)
  rw [hsame, hc]
  rfl

theorem complete_finishes (h : Sound u) :
    Ends (Store.memory.complete id) u
      (fun n u' => Sound u' ∧ Finished id u'.state ∧
        n = (u'.state.assigneesOf id none).length) fun _ => True := by
  refine .bind (Call.getCampaign_ends (fun c hc => ?_) fun _ => trivial)
  refine .bind (Call.listAssignees_ends ?_)
  have hstart : Pending ⟨0, 0⟩ id (fun _ => True) u (u.state.assigneesOf id none) u :=
    .start h List.filter_sublist fun _ ha => ⟨(Tables.mem_assigneesOf.mp ha).2.1, trivial⟩
  -- whoever is not done yet is among those that are left
  let I : List Assignee → World Tables → Prop := fun rest u' =>
    Pending ⟨0, 0⟩ id (fun _ => True) u rest u' ∧
      (∀ a ∈ u'.state.assignees, a.campaign = id → a.stage = .done ∨ a ∈ rest) ∧
      (u.state.assigneesOf id none).length = (u'.state.assigneesOf id none).length
  refine .bind ((eachOf_ends (I := I) (fun a rest u' hI => ?_) _ u ⟨hstart, ?_, rfl⟩).imp
    fun _ u' hI => ?_)
  · obtain ⟨hp, hdone, hcount⟩ := hI
    obtain ⟨ha, hid, _⟩ := hp.head
    have hkey : a.finish.id = a.id := rfl
    have hput := hp.put hkey (.finishes (hp.campaign?.trans hc) ha hid) rfl rfl
    refine Call.updateAssignee_ends hp.sound hp.head_key ⟨hput, fun x hx hxid => ?_, ?_⟩
    · rcases mem_amend.mp hx with ⟨hx, hne⟩ | ⟨_, _, _, rfl⟩
      · refine (hdone x hx hxid).imp_right fun hrest => ?_
        rcases List.mem_cons.mp hrest with rfl | hrest
        · exact absurd rfl hne
        · exact hrest
      · exact .inl rfl
    · rw [hp.sound.assigneesOf_put ha hkey rfl, amend, List.length_map]
      exact hcount
  · exact fun a ha hid => .inr (Tables.mem_assigneesOf.mpr ⟨ha, hid, fun _ h => by cases h⟩)
  · obtain ⟨hp, hdone, hcount⟩ := hI
    have hc' := hp.campaign?.trans hc
    obtain ⟨hmem, hcid⟩ := Tables.campaign?_mem hc'
    have hkey : c.id ∈ u'.state.campaigns.map Campaign.id := List.mem_map_of_mem hmem
    refine .bind (.bind (Call.updateCampaign_ends hp.sound hkey (.pure ?_)))
    refine ⟨hp.sound.putCampaign _, ⟨⟨_, Tables.campaign?_put hc' hcid, rfl⟩, fun a ha hid => ?_⟩,
      hcount⟩
    exact (hdone a ha hid).resolve_right List.not_mem_nil

/-! ## Commands for a campaign that is finished -/

theorem Move.done_notMem_sources (m : Move) : Stage.done ∉ m.sources := by
  cases m <;> simp [sources]

/-- Work that leaves the rows of a campaign as they are if it succeeds. -/
abbrev Spares {α : Type} (id : CampaignId) (t : Task Tables α) (u : World Tables) : Prop :=
  Ends t u (fun _ u' => u'.state.of id = u.state.of id) fun _ => True

namespace Finished

theorem nobody_in (hf : Finished id u.state) {stage : Stage} (hs : stage ≠ .done) :
    u.state.assigneesOf id (some stage) = [] := by
  refine List.eq_nil_iff_forall_not_mem.mpr fun a ha => ?_
  obtain ⟨hmem, hid, hstage⟩ := Tables.mem_assigneesOf.mp ha
  exact hs ((hstage stage rfl).symm.trans (hf.done a hmem hid))

theorem stuck (hf : Finished id u.state) {a : Assignee} (ha : a ∈ u.state.assignees)
    (hid : a.campaign = id) (m : Move) : ∀ a', a.move m ≠ .ok a' := by
  intro a' ha'
  have hsource := (Assignee.move_ok.mp ha').1
  rw [hf.done a ha hid] at hsource
  exact m.done_notMem_sources hsource

/-- Those who are done are done once more, and the campaign is closed once more. -/
theorem idle_complete (hf : Finished id u.state) (h : Sound u) :
    Idle (Store.memory.complete id) u (u.state.assigneesOf id none).length := by
  obtain ⟨c, hc, hclosed⟩ := hf.closed
  obtain ⟨hmem, hid⟩ := Tables.campaign?_mem hc
  have hread : Idle (Store.memory.call (.getCampaign id true)) u c := Call.idle_getCampaign hc
  have hlist : Idle (Store.memory.call (.listAssignees id none true)) u _ := Call.idle rfl
  have heach : Idle (eachOf (fun a => Store.memory.call (.updateAssignee a.finish))
      (u.state.assigneesOf id none)) u () := by
    refine idle_eachOf fun a ha => Call.idle ?_
    obtain ⟨ha, hac, _⟩ := Tables.mem_assigneesOf.mp ha
    have hsame : a.finish = a := by unfold Assignee.finish; rw [← hf.done a ha hac]
    have hnodup := h.assignees.nodup
    simp only [Tables.answer, hsame, replaceFirst?_key hnodup (List.mem_map_of_mem ha),
      amend_self hnodup ha, Option.map_some, Tables.changed]
  have hwrite : Idle (Store.memory.call (.updateCampaign c)) u () := by
    refine Call.idle ?_
    have hnodup := h.campaigns.nodup
    simp only [Tables.answer, replaceFirst?_key hnodup (List.mem_map_of_mem hmem),
      amend_self hnodup hmem, Option.map_some, Tables.changed]
  have hedit : c.edit (.closed true) = .ok c := by
    refine Campaign.edit_ok.mpr ⟨rfl, ?_⟩
    unfold Campaign.changed
    rw [← hclosed]
  exact .bind hread (.bind hlist (.bind heach (.bind (Task.idle_obey hedit) (.bind hwrite .pure))))

theorem complete (hf : Finished id u.state) (h : Sound u) : Spares id (Store.memory.complete id) u :=
  .of_ok (hf.idle_complete h) rfl

theorem invite (hf : Finished id u.state) : Spares id (Store.memory.invite id) u := by
  refine .bind (Call.getCampaign_ends (fun c hc => .bind (Call.listAssignees_ends ?_)) fun _ => trivial)
  rw [hf.nobody_in (by decide)]
  exact .pure rfl

theorem applyLottery (hf : Finished id u.state) (results : Keyed BloggerId LotteryResult) :
    Spares id (Store.memory.applyLottery id results) u := by
  refine .bind (Call.getCampaign_ends (fun c hc => .bind (Call.listAssignees_ends ?_)) fun _ => trivial)
  rw [hf.nobody_in (by decide)]
  exact .pure rfl

theorem finishShipment (hf : Finished id u.state) : Spares id (Store.memory.finishShipment id) u := by
  refine .bind (Call.getCampaign_ends (fun c hc => .bind (Call.listAssignees_ends ?_)) fun _ => trivial)
  rw [hf.nobody_in (by decide)]
  exact .pure rfl

theorem completePayment (hf : Finished id u.state) (bloggers : List BloggerId) :
    Spares id (Store.memory.completePayment id bloggers) u := by
  refine .bind (Call.getCampaign_ends (fun c hc => .bind (Call.assigneesAmong_ends ?_)) fun _ => trivial)
  rw [Tables.among, hf.nobody_in (by decide)]
  exact .bind (.pure (.pure rfl))

theorem applyVerdicts (hf : Finished id u.state) (kind : EntryKind)
    (verdicts : Keyed BloggerId Verdict) :
    Spares id (Store.memory.applyVerdicts id kind verdicts) u := by
  refine .bind (Call.listAssignees_ends ?_)
  rw [hf.nobody_in (by cases kind <;> decide)]
  exact .pure rfl

/-- Whoever answers has been done for long. -/
theorem answerInvitation (hf : Finished id u.state) (blogger : BloggerId) (accepted : Bool)
    (answers : Keyed QuestionId String) :
    Spares id (Store.memory.answerInvitation id blogger accepted answers) u := by
  refine .bind (Call.getCampaign_ends (fun c hc => ?_) fun _ => trivial)
  refine .bind (Call.findQuestionnaire_ends ?_)
  refine .bind (Call.getAssignee_ends (fun a ha hid _ => ?_) fun _ => trivial)
  exact .bind (Task.obey_ends (fun a' ha' => absurd ha' (hf.stuck ha hid _ a')) fun _ _ => trivial)

theorem submit (hf : Finished id u.state) (now : Instant) (blogger : BloggerId) (kind : EntryKind)
    (entry : Option EntryId) : Spares id (Store.memory.submit now id blogger kind entry) u := by
  refine .bind (Call.getAssignee_ends (fun a ha hid _ => ?_) fun _ => trivial)
  refine .bind (Call.getCampaign_ends (fun c hc => ?_) fun _ => trivial)
  refine .bind (Task.ofMinting_ends (fun eid ids _ => ?_) fun _ _ _ => trivial)
  refine .bind (Task.obey_ends (fun e _ => ?_) fun _ _ => trivial)
  exact .bind (Task.obey_ends (fun a' ha' => absurd ha' (hf.stuck ha hid _ a')) fun _ _ => trivial)

end Finished

/-- The tables with the reason that a blogger gave for declining. -/
def Tables.giveReason (t : Tables) (blogger : BloggerId) (reason : String) : Tables :=
  { t with
    assignees := t.assignees.map fun a =>
      if a.blogger = blogger then { a with declineReason := some reason } else a }

/-- Whoever declines is done already, and nobody else in the campaign goes by that name. -/
theorem Finished.decline (hf : Finished id u.state) (h : Stored u) (blogger : BloggerId)
    (reason : String) : Ends (Store.memory.decline id blogger reason) u
      (fun _ u' => u'.state.of id = (u.state.of id).giveReason blogger reason) fun _ => True := by
  refine .bind (Call.getAssignee_ends (fun a ha hid hb => ?_) fun _ => trivial)
  refine .bind (Task.obey_ends (fun a' ha' => ?_) fun _ _ => trivial)
  have hmade : a' = { a with declineReason := some reason } := by
    obtain ⟨_, _, rfl⟩ := Assignee.decline_ok.mp ha'
    rw [← hf.done a ha hid]
  have hkey : a'.id = a.id := by rw [hmade]
  refine .bind (Call.updateAssignee_ends h.sound (List.mem_map.mpr ⟨a, ha, hkey.symm⟩) (.pure ?_))
  have hunique : ∀ x ∈ u.state.assignees, x.id = a'.id → x = a := fun x hx hxa =>
    List.inj_on_of_nodup_map h.sound.assignees.nodup hx ha (hxa.trans hkey)
  have hrows : (amend Assignee.id a'.id (fun _ => a') u.state.assignees).filter
        (fun x => decide (x.campaign = id)) =
      (u.state.assignees.filter fun x => decide (x.campaign = id)).map fun x =>
        if x.blogger = blogger then { x with declineReason := some reason } else x := by
    rw [filter_amend fun x hx hxa => by rw [hunique x hx hxa, hmade]]
    refine List.map_congr_left fun x hx => ?_
    obtain ⟨hx, hxid⟩ := List.mem_filter.mp hx
    have hlisted : ∀ y ∈ u.state.assignees, y.campaign = id → y ∈ u.state.assigneesOf id none :=
      fun y hy hyid => Tables.mem_assigneesOf.mpr ⟨hy, hyid, fun _ h => by cases h⟩
    by_cases hxb : x.blogger = blogger
    · have hsame : x = a := List.inj_on_of_nodup_map (h.bloggers id)
        (hlisted x hx (of_decide_eq_true hxid)) (hlisted a ha hid) (hxb.trans hb.symm)
      rw [if_pos hxb, hsame, if_pos hkey.symm, hmade]
    · have hne : x.id ≠ a'.id := fun hxa => hxb (hunique x hx hxa ▸ hb)
      rw [if_neg hxb, if_neg hne]
  exact congrArg (fun assignees => ({ u.state.of id with assignees } : Tables)) hrows

/-! ## Commands for other campaigns -/

section Others

variable {t t' : Tables} {other : CampaignId}

theorem Tables.of_others (hne : id ≠ other) : (t.others other).of id = t.of id := by
  have hboth : ∀ c : CampaignId, (decide (c = id) && decide (c ≠ other)) = decide (c = id) := by
    intro c
    by_cases hc : c = id
    · simp [hc, hne]
    · simp [hc]
  have hasked : (t.questionnaires.restrict fun c => c ≠ other).restrict (fun c => decide (c = id)) =
      t.questionnaires.restrict fun c => c = id :=
    Keyed.ext_entries (by simp only [Keyed.restrict, List.filter_filter, hboth])
  simp only [others, of, restrict, List.filter_filter, hboth, hasked]

theorem Tables.of_eq_of_others_eq (hne : id ≠ other) (h : t'.others other = t.others other) :
    t'.of id = t.of id := by
  rw [← of_others hne, h, of_others hne]

theorem others_enrol (now : Instant) (i : AssigneeInput) :
    Preserves (Tables.others other) (Store.memory.enrol now other i) := by
  refine .bindMinting fun a ids ids' hmade => .call fun t => ?_
  have ha : a.campaign = other := by
    obtain ⟨_, hcreate, _⟩ := AssigneeInput.enrolment_ok hmade
    obtain ⟨_, _, rfl⟩ := Assignee.create_ok.mp hcreate
    rfl
  exact (Tables.Local.createAssignee ha).rest

theorem others_poseQuestionnaire (q : Option QuestionnaireInput) :
    Preserves (Tables.others other) (Store.memory.poseQuestionnaire other q) := by
  cases q with
  | none => exact .ofExcept _
  | some q =>
    refine .bindMinting fun made ids ids' hmade => .call fun t => ?_
    have hq : made.campaign = other := by
      obtain ⟨_, hcreate, _⟩ := QuestionnaireInput.renewal_ok (fun _ ho => by cases ho) hmade
      obtain ⟨_, _, rfl⟩ := Questionnaire.create_ok.mp hcreate
      rfl
    exact (Tables.Local.saveQuestionnaire hq).rest

theorem others_createCampaign (h : Sound u) (now : Instant) (r : SaveRequest) (item : Item)
    (variant : Option Variant) : Ends (Store.memory.createCampaign now r item variant) u
      (fun made u' => ¬ u.ids.Issued made ∧ u'.state.others made = u.state.others made)
      fun _ => True := by
  refine .bind (Task.ofMinting_ends (fun c ids hopen => ?_) fun _ _ _ => trivial)
  have hcid := SaveRequest.opening_id hopen
  have hfresh : c.id ∉ u.state.campaigns.map Campaign.id := by
    rw [hcid]
    exact h.campaigns.next_notMem h.injective
  have hnew : ¬ u.ids.Issued c.id := fun hissued =>
    Ids.next_ne_of_issued h.injective hissued hcid.symm
  have hadd : (u.state.addCampaign c).others c.id = u.state.others c.id := by
    simp [Tables.addCampaign, Tables.others, Tables.restrict]
  refine .bind (Call.createCampaign_ends hfresh ?_)
  refine .bind (((others_poseQuestionnaire r.questionnaire).ends _).imp fun _ u₁ h₁ => ?_)
  refine .bind (((Preserves.eachOf (others_enrol now) _).ends u₁).imp fun _ u₂ h₂ => .pure ?_)
  exact ⟨hnew, h₂.trans (h₁.trans hadd)⟩

end Others

/-! ## Histories -/

/-- Commands that may write a campaign whatever state it is in: a save of it, and its deletion. -/
def Command.Unsettles (id : CampaignId) : Command → Prop
  | .save r => r.id = some id
  | .delete target => target = id
  | _ => False

theorem transact_tables {α : Type} {body : Task Tables α} {w : World Memory} {P : Tables → Prop}
    (g : α → Outcome) (h : P w.state.tables)
    (hb : Ends body w.unit (fun _ u' => P u'.state) fun _ => True) :
    P ((g <$> Store.memory.transact body : Task Memory Outcome) w).2.state.tables := by
  rw [run_map, transact_memory]
  rcases hr : body w.unit with ⟨r, u'⟩
  cases r with
  | ok a => exact hb.ok hr
  | error f => exact h

variable {w : World Memory} {v : Visit}

/-- A command leaves the rows of a campaign as they are, or somebody declines. -/
def Undisturbed (id : CampaignId) (v : Visit) (t t' : Tables) : Prop :=
  t'.of id = t.of id ∨ ∃ blogger reason, v.command = .decline id blogger reason ∧
    t'.of id = (t.of id).giveReason blogger reason

namespace Finished

theorem visit_own (hf : Finished id w.state.tables) (h : Stored w.unit)
    (hown : v.command.target? = some id) (hv : ¬ v.command.Unsettles id) :
    Undisturbed id v w.state.tables (v.apply w).state.tables := by
  have hspares : ∀ {α : Type} {body : Task Tables α} (g : α → Outcome), Spares id body w.unit →
      Undisturbed id v w.state.tables
        ((g <$> Store.memory.transact body : Task Memory Outcome) w).2.state.tables :=
    fun g hb => transact_tables g (.inl rfl) (hb.imp fun _ _ h => .inl h)
  have hu : Finished id w.unit.state := hf
  unfold Visit.apply
  cases hc : v.command with
  | save r => rw [hc] at hown hv; exact absurd hown hv
  | delete target => rw [hc] at hown hv; cases hown; exact absurd rfl hv
  | complete target => rw [hc] at hown; cases hown; exact hspares _ (hu.complete h.sound)
  | invite target => rw [hc] at hown; cases hown; exact hspares _ hu.invite
  | answerInvitation target b accepted answers =>
    rw [hc] at hown; cases hown
    exact hspares _ (hu.answerInvitation b accepted answers)
  | decline target b reason =>
    rw [hc] at hown; cases hown
    exact transact_tables _ (.inl rfl) ((hu.decline h b reason).imp fun _ _ hrows =>
      .inr ⟨b, reason, hc, hrows⟩)
  | applyLottery target results =>
    rw [hc] at hown; cases hown
    exact hspares _ (hu.applyLottery results)
  | finishShipment target => rw [hc] at hown; cases hown; exact hspares _ hu.finishShipment
  | completePayment target bs =>
    rw [hc] at hown; cases hown
    cases hrepeat : firstRepeat? [] bs with
    | some blogger => simp only [Service.run, hrepeat]; exact .inl rfl
    | none => simp only [Service.run, hrepeat]; exact hspares _ (hu.completePayment bs)
  | submit target b kind entry =>
    rw [hc] at hown; cases hown
    exact hspares _ (hu.submit v.now b kind entry)
  | applyVerdicts target kind verdicts =>
    rw [hc] at hown; cases hown
    exact hspares _ (hu.applyVerdicts kind verdicts)

end Finished

/-- A command for another campaign, or one that makes a campaign. -/
theorem visit_other (h : Stored w.unit) (hid : w.ids.Issued id)
    (hother : v.command.target? ≠ some id) :
    (v.apply w).state.tables.of id = w.state.tables.of id := by
  unfold Visit.apply
  cases htarget : v.command.target? with
  | some other =>
    have hne : id ≠ other := fun heq => hother (heq ▸ htarget)
    have hapart := h.sound.apart h.owned (h.sound.fresh (.refl _)) other
    have hisolated := Visit.isolated htarget ⟨⟨rfl, rfl⟩, hapart, hapart⟩ fun _ => rfl
    exact Tables.of_eq_of_others_eq hne hisolated.others₁
  | none =>
    cases hc : v.command with
    | save r =>
      rw [hc] at htarget
      have hrows : Leaves (.saved <$> v.service.save r : Task Memory Outcome) w fun _ w' =>
          w'.state.tables.of id = w.state.tables.of id := by
        refine .map ((leaves_creation htarget fun _ item variant =>
          others_createCampaign h.sound v.now r item variant).mono fun made w' hmade => ?_)
        have hne : id ≠ made := by
          rintro rfl
          exact hmade.1 hid
        exact Tables.of_eq_of_others_eq hne hmade.2
      exact Leaves.state (P := fun m => m.tables.of id = w.state.tables.of id) hrows rfl
    | _ => rw [hc] at htarget; cases htarget

theorem Finished.visit (hf : Finished id w.state.tables) (h : Stored w.unit)
    (hv : ¬ v.command.Unsettles id) :
    Undisturbed id v w.state.tables (v.apply w).state.tables := by
  obtain ⟨c, hc, _⟩ := hf.closed
  by_cases hown : v.command.target? = some id
  · exact hf.visit_own h hown hv
  · exact .inl (visit_other h (h.sound.campaign?_issued hc) hown)

/-- The rows of a campaign are what they were, but for the reasons that some gave for declining. -/
structure Rests (id : CampaignId) (future : List Visit) (t t' : Tables) : Prop where
  campaigns : (t'.of id).campaigns = (t.of id).campaigns
  examinations : (t'.of id).examinations = (t.of id).examinations
  questionnaires : (t'.of id).questionnaires = (t.of id).questionnaires
  answers : (t'.of id).answers = (t.of id).answers
  assignees : List.Forall₂ (fun a a' => a' = a ∨ ∃ v ∈ future, ∃ reason,
      v.command = .decline id a.blogger reason ∧ a' = { a with declineReason := some reason })
    (t.of id).assignees (t'.of id).assignees

namespace Rests

variable {future : List Visit} {t t' t'' : Tables}

theorem refl (id : CampaignId) (future : List Visit) (t : Tables) : Rests id future t t :=
  ⟨rfl, rfl, rfl, rfl, List.forall₂_same.mpr fun _ _ => .inl rfl⟩

theorem finished (h : Rests id future t t') (hf : Finished id t) : Finished id t' := by
  obtain ⟨c, hc, hclosed⟩ := hf.closed
  refine ⟨⟨c, ?_, hclosed⟩, fun a' ha' hid => ?_⟩
  · rw [← Tables.campaign?_of] at hc ⊢
    unfold Tables.campaign? at hc ⊢
    rw [h.campaigns]
    exact hc
  · have hown : a' ∈ (t'.of id).assignees := List.mem_filter.mpr ⟨ha', decide_eq_true hid⟩
    obtain ⟨a, ha, hsame⟩ := exists_left_of_forall₂ h.assignees hown
    obtain ⟨ha, hac⟩ := List.mem_filter.mp ha
    have hdone := hf.done a ha (of_decide_eq_true hac)
    rcases hsame with rfl | ⟨_, _, _, _, rfl⟩
    · exact hdone
    · exact hdone

/-- One more command. -/
theorem step (h : Rests id future t t') (hv : Undisturbed id v t' t'') :
    Rests id (future ++ [v]) t t'' := by
  have hlater : List.Forall₂ (fun a a' => a' = a ∨ ∃ v' ∈ future ++ [v], ∃ reason,
      v'.command = .decline id a.blogger reason ∧ a' = { a with declineReason := some reason })
      (t.of id).assignees (t'.of id).assignees :=
    h.assignees.imp fun a a' hsame => hsame.imp_right fun ⟨v', hmem, hreason⟩ =>
      ⟨v', List.mem_append_left _ hmem, hreason⟩
  rcases hv with hsame | ⟨blogger, reason, hc, hreason⟩
  · rw [← hsame] at hlater
    exact ⟨hsame ▸ h.campaigns, hsame ▸ h.examinations, hsame ▸ h.questionnaires,
      hsame ▸ h.answers, hlater⟩
  · refine ⟨hreason ▸ h.campaigns, hreason ▸ h.examinations, hreason ▸ h.questionnaires,
      hreason ▸ h.answers, ?_⟩
    rw [hreason]
    refine List.forall₂_map_right_iff.mpr (hlater.imp fun a a' hsame => ?_)
    have hblogger : a'.blogger = a.blogger := by
      rcases hsame with rfl | ⟨_, _, _, _, rfl⟩ <;> rfl
    by_cases hb : a'.blogger = blogger
    · rw [if_pos hb]
      refine .inr ⟨v, List.mem_append_right _ (List.mem_singleton.mpr rfl), reason, ?_, ?_⟩
      · rw [hc, ← hb, hblogger]
      · rcases hsame with rfl | ⟨_, _, _, _, rfl⟩ <;> rfl
    · rw [if_neg hb]
      exact hsame

end Rests

theorem Finished.rests {past future : List Visit}
    (hf : Finished id (World.start.after past).state.tables)
    (hfuture : ∀ v ∈ future, ¬ v.command.Unsettles id) :
    Rests id future (World.start.after past).state.tables
      (World.start.after (past ++ future)).state.tables := by
  induction future using List.reverseRecOn with
  | nil => rw [List.append_nil]; exact .refl id [] _
  | append_singleton future v ih =>
    have hrest := ih fun x hx => hfuture x (List.mem_append_left _ hx)
    have hlast := hfuture v (List.mem_append_right _ (List.mem_singleton.mpr rfl))
    rw [← List.append_assoc, World.after_concat]
    exact hrest.step ((hrest.finished hf).visit (stored_after _) hlast)

/-- Once a campaign is completed, and until it is saved or deleted, it is closed, its assignees are
done, and its rows are what they were but for the reasons that some gave for declining. -/
theorem completion_final {past future : List Visit} {v : Visit} {outcome : Outcome}
    (hv : v.command = .complete id)
    (hrun : (v.service.run v.command (World.start.after past)).1 = .ok outcome)
    (hfuture : ∀ x ∈ future, ¬ x.command.Unsettles id) :
    Finished id (World.start.after (past ++ [v] ++ future)).state.tables ∧
      Rests id future (World.start.after (past ++ [v])).state.tables
        (World.start.after (past ++ [v] ++ future)).state.tables := by
  have hf : Finished id (World.start.after (past ++ [v])).state.tables := by
    have hends : Ends (v.service.run (.complete id)) (World.start.after past)
        (fun _ w' => Finished id w'.state.tables) fun _ => True :=
      .map ((complete_finishes (sound_after past)).transact.imp fun _ _ h => h.2.1)
    rw [World.after_concat]
    unfold Visit.apply
    rw [hv] at hrun ⊢
    exact hends.ok (Prod.ext hrun rfl)
  have hrests := hf.rests hfuture
  exact ⟨hrests.finished hf, hrests⟩

/-- One declines when the campaign is over, and another campaign is made. -/
def aftermath : List Visit :=
  [visitAt 5 (.decline ⟨"id-0001"⟩ ⟨"other"⟩ "no time"), visitAt 6 (.invite ⟨"id-0001"⟩),
    visitAt 7 (.save reviewingRequest)]

theorem completion_final_of_examinedCourse :
    ((visitAt 4 (.complete ⟨"id-0001"⟩)).service.run (.complete ⟨"id-0001"⟩)
        (World.start.after examinedCourse)).1 = .ok (.completed 2) ∧
      Finished ⟨"id-0001"⟩ (World.start.after
        (examinedCourse ++ [visitAt 4 (.complete ⟨"id-0001"⟩)] ++ aftermath)).state.tables ∧
      Rests ⟨"id-0001"⟩ aftermath
        (World.start.after (examinedCourse ++ [visitAt 4 (.complete ⟨"id-0001"⟩)])).state.tables
        (World.start.after
          (examinedCourse ++ [visitAt 4 (.complete ⟨"id-0001"⟩)] ++ aftermath)).state.tables := by
  have hrun : ((visitAt 4 (.complete ⟨"id-0001"⟩)).service.run (.complete ⟨"id-0001"⟩)
      (World.start.after examinedCourse)).1 = .ok (.completed 2) := by decide +kernel
  have hquiet : ∀ x ∈ aftermath, ¬ x.command.Unsettles ⟨"id-0001"⟩ := by
    simp [aftermath, visitAt, Command.Unsettles, reviewingRequest]
  exact ⟨hrun, completion_final rfl hrun hquiet⟩

end Sponsorship
