import Sponsorship.Proofs.Resave

/-!
# Sponsorship.Proofs.Schedules

The schedules of a campaign, from its creation to its end.

* `Redates olds is news`: each input names an old schedule and gives it its dates, and no old schedule
  is named twice. The kind that an input says does not count.
* `Misnamed c is`: an input names no schedule of the campaign, or two name one, or none names one that
  is obligatory.
* `preserves_reconcileQuestionnaire`, `preserves_reconcileAssignees`: after its campaign, a request
  writes no campaign.
* `ScheduleIdentity`: an update redates, so that no identifier gets a new kind and no kind that is
  obligatory a new identifier; misnamed schedules are refused.
* `schedule_identity`: that is so after every history.
-/

namespace Sponsorship

open Time

/-! ## New dates for old schedules -/

/-- The schedule with the dates of an input; its identifier and its kind stay. -/
def Schedule.dated (s : Schedule) (i : ScheduleInput) : Schedule :=
  { s with opens := i.opens, closes := i.closes }

/-- Each input names an old schedule and gives it its dates, and no schedule is named twice. -/
structure Redates (olds : List Schedule) (is : List ScheduleInput) (news : List Schedule) :
    Prop where
  each : List.Forall₂ (fun i s => ∃ o ∈ olds, i.id = some o.id ∧ s = o.dated i) is news
  once : (news.map Schedule.id).Nodup

/-- Which schedule is which: the identifiers with the kinds. -/
def Campaign.marks (c : Campaign) : List (ScheduleId × ScheduleKind) :=
  c.schedules.map fun s => (s.id, s.kind)

/-- What is wrong with inputs that are to redate the schedules of a campaign. -/
inductive Misnamed (c : Campaign) (is : List ScheduleInput) : Prop
  | missing {i : ScheduleInput} (hi : i ∈ is) (hid : i.id = none)
  | blank {i : ScheduleInput} {id : ScheduleId} (hi : i ∈ is) (hid : i.id = some id)
      (htext : id.text = "")
  | unknown {i : ScheduleInput} {id : ScheduleId} (hi : i ∈ is) (hid : i.id = some id)
      (habsent : ∀ s ∈ c.schedules, s.id ≠ id)
  | repeated (h : ¬ (is.map ScheduleInput.id).Nodup)
  | lacking {s : Schedule} (hs : s ∈ c.schedules)
      (hk : s.kind ∈ [ScheduleKind.invitation, .articlePosting, .payment])
      (h : ∀ i ∈ is, i.id ≠ some s.id)

theorem Id.eq_of_given? {kind : Named} {x : Option (Id kind)} {id : Id kind}
    (h : given? x = some id) : x = some id :=
  (Option.filter_eq_some_iff.mp h).1

theorem redate_dated {old : List Schedule} {i : ScheduleInput} {s : Schedule}
    (h : redate old i = .ok s) : ∃ o ∈ old, i.id = some o.id ∧ s = o.dated i := by
  unfold redate at h
  split at h
  · cases h
  · rename_i id hid
    split at h
    · cases h
    · rename_i o ho
      obtain ⟨_, rfl⟩ := Schedule.setDates_ok.mp (Except.mapError_ok.mp h)
      have hoid : o.id = id := by simpa using List.find?_some ho
      exact ⟨o, List.mem_of_find?_eq_some ho, hoid ▸ Id.eq_of_given? hid, rfl⟩

theorem redates_of_revision {r : SaveRequest} {item : Item} {variant : Option Variant}
    {c c' : Campaign} (h : r.revision item variant c = .ok c') :
    Redates c.schedules r.schedules c'.schedules := by
  refine ⟨?_, (SaveRequest.revision_drawn h .counting).nodup⟩
  obtain ⟨schedules, hredate, hcreate⟩ := SaveRequest.revision_ok h
  obtain ⟨_, _, _, _, _, _, rfl⟩ := Campaign.create_ok.mp hcreate
  exact (Except.mapM_forall₂ hredate).imp fun _ _ => redate_dated

namespace Redates

variable {c c' : Campaign} {is : List ScheduleInput}

theorem marks_subset (h : Redates c.schedules is c'.schedules) : c'.marks ⊆ c.marks := by
  intro mark hmark
  obtain ⟨s, hs, rfl⟩ := List.mem_map.mp hmark
  obtain ⟨i, _, o, ho, _, rfl⟩ := exists_left_of_forall₂ h.each hs
  exact List.mem_map.mpr ⟨o, ho, rfl⟩

/-- The inputs name what the new schedules are. -/
theorem named (h : Redates c.schedules is c'.schedules) :
    is.map ScheduleInput.id = (c'.schedules.map Schedule.id).map some := by
  rw [List.map_map, ← List.forall₂_eq_eq_eq, List.forall₂_map_left_iff, List.forall₂_map_right_iff]
  refine h.each.imp fun i s hs => ?_
  obtain ⟨o, _, hid, rfl⟩ := hs
  exact hid

/-- Where identifiers are not blank and each kind is there once, inputs that redate the schedules name
them properly. -/
theorem not_misnamed (h : Redates c.schedules is c'.schedules)
    (hnames : ∀ s ∈ c.schedules, s.id.text ≠ "") (hc : c.Valid) (hc' : c'.Valid) :
    ¬ Misnamed c is := by
  intro hwrong
  cases hwrong with
  | missing hi hnone =>
    obtain ⟨_, _, o, _, hid, _⟩ := exists_right_of_forall₂ h.each hi
    rw [hnone] at hid
    cases hid
  | blank hi hsome htext =>
    obtain ⟨_, _, o, ho, hid, _⟩ := exists_right_of_forall₂ h.each hi
    rw [hsome] at hid
    cases hid
    exact hnames o ho htext
  | unknown hi hsome habsent =>
    obtain ⟨_, _, o, ho, hid, _⟩ := exists_right_of_forall₂ h.each hi
    rw [hsome] at hid
    cases hid
    exact habsent o ho rfl
  | repeated htwice =>
    refine htwice ?_
    rw [h.named]
    exact h.once.map fun _ _ => Option.some.inj
  | @lacking s hs hk hnone =>
    -- the obligatory kind is there after the update, so some input named its schedule
    obtain ⟨s', hs', hkind⟩ := hc'.obligatory s.kind hk
    obtain ⟨i, hi, o, ho, hid, rfl⟩ := exists_left_of_forall₂ h.each hs'
    have hsame : o = s := List.inj_on_of_nodup_map hc.kinds ho hs hkind
    exact hnone i hi (hsame ▸ hid)

end Redates

/-! ## What an update does to its campaign -/

theorem Tables.changed_campaigns {t : Tables} {change : Option Tables} {missing : Absent}
    (h : ∀ t', change = some t' → t'.campaigns = t.campaigns) :
    (t.changed change missing).2.campaigns = t.campaigns := by
  cases change with
  | none => rfl
  | some t' => exact h t' rfl

section Campaigns

variable (now : Instant) (id : CampaignId)

theorem preserves_enrol (i : AssigneeInput) :
    Preserves Tables.campaigns (Store.memory.enrol now id i) := by
  refine .bind (.ofMinting _) fun a => .call fun t => ?_
  simp only [Tables.answer]
  split <;> rfl

theorem preserves_checkSubmission (a : Assignee) (i : AssigneeInput) :
    Preserves Tables.campaigns (Store.memory.checkSubmission id a i) := by
  unfold Store.checkSubmission
  cases Store.neededSubmission i.stage with
  | none => exact .ofExcept _
  | some kind =>
    refine .tryCatch (.bind (.call fun _ => rfl) fun _ => .ofExcept _) fun f => ?_
    cases f <;> exact .ofExcept _

theorem preserves_reconcileAssignee (a : Option Assignee) (i : AssigneeInput) :
    Preserves Tables.campaigns (Store.memory.reconcileAssignee now id a i) := by
  unfold Store.reconcileAssignee
  cases a with
  | none =>
    simp only
    split
    · exact .ofExcept _
    · exact preserves_enrol now id i
  | some a =>
    simp only
    split
    · exact .bind (.ofExcept _) fun _ => .call fun _ => rfl
    · refine .bind (preserves_checkSubmission id a i) fun _ => .bind (.ofExcept _) fun a' => ?_
      refine .call fun t => Tables.changed_campaigns fun t' ht => ?_
      obtain ⟨_, _, rfl⟩ := Option.map_eq_some_iff.mp ht
      rfl

theorem preserves_reconcileAssignees (inputs : List AssigneeInput) :
    Preserves Tables.campaigns (Store.memory.reconcileAssignees now id inputs) :=
  .bind (.call fun _ => rfl) fun _ => .eachOf (fun i => preserves_reconcileAssignee now id _ i) _

theorem preserves_reconcileQuestionnaire (q : Option QuestionnaireInput) :
    Preserves Tables.campaigns (Store.memory.reconcileQuestionnaire id q) := by
  cases q with
  | none => exact .bind (.call fun _ => rfl) fun _ => .call fun _ => rfl
  | some q =>
    exact .bind (.call fun _ => rfl) fun _ => .bind (.ofMinting _) fun _ => .call fun _ => rfl

end Campaigns

/-- The campaign is found, brought in line with the request, and not written again. -/
theorem updateCampaign_redates {w : World Tables} (h : Sound w) (now : Instant) (id : CampaignId)
    (r : SaveRequest) (item : Item) (variant : Option Variant) :
    Ends (Store.memory.updateCampaign now id r item variant) w
      (fun _ w' => ∃ c c', w.state.campaign? id = some c ∧ w'.state.campaign? id = some c' ∧
        Redates c.schedules r.schedules c'.schedules) fun _ => True := by
  refine .bind (Task.obey_ends (fun _ _ => ?_) fun _ _ => trivial)
  refine .bind (Call.getCampaign_ends (fun c hc => ?_) fun _ => trivial)
  refine .bind (Task.ofExcept_ends (fun c' hrev => ?_) fun _ _ => trivial)
  obtain ⟨hmem, hid⟩ := Tables.campaign?_mem hc
  have hid' := SaveRequest.revision_id hrev
  refine .bind (Call.updateCampaign_ends h (List.mem_map.mpr ⟨c, hmem, hid'.symm⟩) ?_)
  refine .bind (((preserves_reconcileQuestionnaire id r.questionnaire).ends _).imp fun _ w₁ h₁ => ?_)
  refine ((preserves_reconcileAssignees now id r.assignees).ends w₁).imp fun _ w₂ h₂ => ?_
  refine ⟨c, c', hc, ?_, redates_of_revision hrev⟩
  have hput := Tables.campaign?_put hc (hid'.trans hid)
  unfold Tables.campaign? at hput ⊢
  rw [h₂, h₁]
  exact hput

/-! ## Identity -/

/-- What is not among the marks of a campaign never comes to be: other campaigns take other
identifiers. -/
theorem lasting_marks (id : CampaignId) (marks : List (ScheduleId × ScheduleKind)) :
    Lasting fun u => u.ids.Issued id ∧
      ∀ c ∈ u.state.campaigns, c.id = id → c.marks ⊆ marks := by
  refine ⟨fun h hl => ⟨h.1.later hl, h.2⟩, ?_, ?_⟩
  · rintro now id' u u' hu ⟨hissued, hmarks⟩ hs
    refine ⟨hissued.later hs.later, fun c hc hid => ?_⟩
    cases hs with
    | answers hq ha hcampaign hstage hsheet =>
      rw [Tables.saveAnswers_eq] at hc
      exact hmarks c hc hid
    | @closes o ho =>
      rcases mem_amend.mp hc with ⟨hc, _⟩ | ⟨_, _, _, rfl⟩
      · exact hmarks c hc hid
      · exact hmarks o (Tables.campaign?_mem ho).1 hid
    | deletes => exact hmarks c (List.mem_filter.mp hc).1 hid
    | _ => exact hmarks c hc hid
  · rintro now r id' u u' hu ⟨hissued, hmarks⟩ hs
    refine ⟨hissued.later hs.later, fun c hc hid => ?_⟩
    cases hs with
    | opens hr hopen hnew =>
      rcases List.mem_append.mp hc with hc | hc
      · exact hmarks c hc hid
      · rw [List.mem_singleton.mp hc, SaveRequest.opening_id hopen] at hid
        exact absurd hid (Ids.next_ne_of_issued hu.injective hissued)
    | @revises item variant o o' hr ho hrev =>
      rcases mem_amend.mp hc with ⟨hc, _⟩ | ⟨_, _, _, rfl⟩
      · exact hmarks c hc hid
      · have hold := hmarks o (Tables.campaign?_mem ho).1 ((SaveRequest.revision_id hrev).symm.trans hid)
        exact List.Subset.trans (redates_of_revision hrev).marks_subset hold
    | _ => exact hmarks c hc hid

/-- How the schedules of campaigns keep their identity from a world on. -/
structure ScheduleIdentity (w : World Memory) : Prop where
  updated : ∀ (v : Visit) r id outcome, v.command = .save r → r.id = some id →
    (v.service.run v.command w).1 = .ok outcome →
    ∃ c c', w.state.tables.campaign? id = some c ∧
      (v.apply w).state.tables.campaign? id = some c' ∧
      Redates c.schedules r.schedules c'.schedules
  kept : ∀ future id c c', w.state.tables.campaign? id = some c →
    (w.after future).state.tables.campaign? id = some c' → c'.marks ⊆ c.marks
  obligatory : ∀ future id c c', w.state.tables.campaign? id = some c →
    (w.after future).state.tables.campaign? id = some c' → ∀ s ∈ c.schedules,
    s.kind ∈ [ScheduleKind.invitation, .articlePosting, .payment] → (s.id, s.kind) ∈ c'.marks
  refused : ∀ (v : Visit) r id, v.command = .save r → r.id = some id →
    (∀ c, w.state.tables.campaign? id = some c → Misnamed c r.schedules) →
    (∃ f, (v.service.run v.command w).1 = .error f) ∧ (v.apply w).state = w.state

theorem updated_schedules {w : World Memory} (h : Sound w.unit) {v : Visit} {r : SaveRequest}
    {id : CampaignId} {outcome : Outcome} (hv : v.command = .save r) (hr : r.id = some id)
    (hrun : (v.service.run v.command w).1 = .ok outcome) :
    ∃ c c', w.state.tables.campaign? id = some c ∧
      (v.apply w).state.tables.campaign? id = some c' ∧
      Redates c.schedules r.schedules c'.schedules := by
  have hleaves : Leaves (.saved <$> v.service.save r : Task Memory Outcome) w fun _ w' =>
      ∃ c c', w.state.tables.campaign? id = some c ∧ w'.state.tables.campaign? id = some c' ∧
        Redates c.schedules r.schedules c'.schedules :=
    .map ((leaves_update hr fun _ item variant =>
      updateCampaign_redates h v.now id r item variant).mono fun _ _ hq => hq.2)
  unfold Visit.apply
  rw [hv] at hrun ⊢
  exact hleaves.ok hrun

theorem marks_after {history future : List Visit} {id : CampaignId} {c c' : Campaign}
    (hc : (World.start.after history).state.tables.campaign? id = some c)
    (hc' : ((World.start.after history).after future).state.tables.campaign? id = some c') :
    c'.marks ⊆ c.marks := by
  have hnow := sound_after history
  have honly : ∀ o ∈ (World.start.after history).state.tables.campaigns, o.id = id →
      o.marks ⊆ c.marks := by
    intro o ho hid
    obtain ⟨hmem, hcid⟩ := Tables.campaign?_mem hc
    rw [List.inj_on_of_nodup_map hnow.campaigns.nodup ho hmem (hid.trans hcid.symm)]
    exact List.Subset.refl _
  obtain ⟨hmem', hid'⟩ := Tables.campaign?_mem hc'
  exact ((lasting_marks id c.marks).onward hnow ⟨hnow.campaign?_issued hc, honly⟩ future).2
    c' hmem' hid'

/-- A kind that is obligatory is there at both times, and before it is there once. -/
theorem obligatory_mark_after {history future : List Visit} {id : CampaignId} {c c' : Campaign}
    (hc : (World.start.after history).state.tables.campaign? id = some c)
    (hc' : ((World.start.after history).after future).state.tables.campaign? id = some c')
    {s : Schedule} (hs : s ∈ c.schedules)
    (hk : s.kind ∈ [ScheduleKind.invitation, .articlePosting, .payment]) :
    (s.id, s.kind) ∈ c'.marks := by
  have hvalid := (committed_rows_valid history).campaigns c (Tables.campaign?_mem hc).1
  have hvalid' : c'.Valid := by
    have hrows := committed_rows_valid (history ++ future)
    rw [World.after_append] at hrows
    exact hrows.campaigns c' (Tables.campaign?_mem hc').1
  obtain ⟨s', hs', hkind⟩ := hvalid'.obligatory s.kind hk
  have hmark : (s'.id, s'.kind) ∈ c'.marks := List.mem_map_of_mem hs'
  obtain ⟨o, ho, hmarks⟩ := List.mem_map.mp (marks_after hc hc' hmark)
  obtain ⟨hoid, hokind⟩ := Prod.mk.inj hmarks
  have hsame : o = s := List.inj_on_of_nodup_map hvalid.kinds ho hs (hokind.trans hkind)
  rw [← hoid, ← hokind, hsame] at hmark
  exact hmark

theorem misnamed_refused (history : List Visit) {v : Visit} {r : SaveRequest} {id : CampaignId}
    (hv : v.command = .save r) (hr : r.id = some id)
    (hwrong : ∀ c, (World.start.after history).state.tables.campaign? id = some c →
      Misnamed c r.schedules) :
    (∃ f, (v.service.run v.command (World.start.after history)).1 = .error f) ∧
      (v.apply (World.start.after history)).state = (World.start.after history).state := by
  have hnow := stored_after history
  cases hrun : (v.service.run v.command (World.start.after history)).1 with
  | error f => exact ⟨⟨f, rfl⟩, (v.undone hnow.sound hrun).1⟩
  | ok outcome =>
    obtain ⟨c, c', hc, hc', hredates⟩ := updated_schedules hnow.sound hv hr hrun
    rw [← World.after_concat] at hc'
    have hmem := (Tables.campaign?_mem hc).1
    have hnames : ∀ s ∈ c.schedules, s.id.text ≠ "" := by
      intro s hs
      obtain ⟨n, _, htext⟩ := (hnow.scheduleIds hmem).issued s.id (List.mem_map_of_mem hs)
      rw [htext]
      exact hnow.named n
    have hvalid' := (committed_rows_valid (history ++ [v])).campaigns c' (Tables.campaign?_mem hc').1
    exact absurd (hwrong c hc)
      (hredates.not_misnamed hnames (hnow.valid.campaigns c hmem) hvalid')

/-- After every history campaigns keep the identity of their schedules. -/
theorem schedule_identity (history : List Visit) :
    ScheduleIdentity (World.start.after history) where
  updated _ _ _ _ hv hr hrun := updated_schedules (sound_after history) hv hr hrun
  kept _ _ _ _ hc hc' := marks_after hc hc'
  obligatory _ _ _ _ hc hc' _ hs hk := obligatory_mark_after hc hc' hs hk
  refused _ _ _ hv hr hwrong := misnamed_refused history hv hr hwrong

/-- An input that says another kind dates the schedule that it names. -/
example : redate [⟨⟨"id-0002"⟩, .invitation, some ⟨0, 0⟩, some ⟨1, 0⟩⟩]
      ⟨some ⟨"id-0002"⟩, .payment, some ⟨2, 0⟩, some ⟨3, 0⟩⟩ =
    .ok ⟨⟨"id-0002"⟩, .invitation, some ⟨2, 0⟩, some ⟨3, 0⟩⟩ := rfl

end Sponsorship
