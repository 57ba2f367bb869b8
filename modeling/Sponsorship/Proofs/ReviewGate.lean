import Sponsorship.Proofs.Submissions
import Sponsorship.Proofs.Validity

/-!
# Sponsorship.Proofs.ReviewGate

No assignee is paid before the reviews that the campaign asks for.

* `Stands flags stage subs`: the submissions that an assignee has made on its way to a stage, in a
  campaign with these flags. Every step of an assignee keeps it.
* `Tracked`: one assignee of a campaign in the tables stands so.
* `ReviewGate`: what this says about its stage and its latest submissions.
* `review_gate`: an assignee who begins before the invitations is behind the gate for as long as no
  request changes its campaign.
-/

namespace Sponsorship

open Time

/-! ## On the way to a stage -/

/-- All submissions but the last were rejected. -/
def EarlierRejected (es : List Examination) : Prop := ∀ e ∈ es.dropLast, e.passed = some false

/-- There is a last submission, and this is the verdict on it. -/
def LastVerdict (es : List Examination) (verdict : Option Bool) : Prop :=
  ∃ e, es.getLast? = some e ∧ e.passed = verdict

/-- A draft has passed if the campaign reviews drafts. -/
def Cleared (flags : WorkflowFlags) (drafts : List Examination) : Prop :=
  flags.needsPreliminaryReview = true → LastVerdict drafts (some true)

/-- The submissions of an assignee in a stage. -/
def Place (flags : WorkflowFlags) (subs : EntryKind → List Examination) : Stage → Prop
  | .beforeInvitation | .invitation | .lottery | .lotteryLost | .shipment | .draftSubmission =>
    ∀ kind, subs kind = []
  | .preExamination => LastVerdict (subs .draft) none ∧ subs .entry = []
  | .preReexamination => LastVerdict (subs .draft) (some false) ∧ subs .entry = []
  | .articlePosting => Cleared flags (subs .draft) ∧ subs .entry = []
  | .examination => Cleared flags (subs .draft) ∧ LastVerdict (subs .entry) none
  | .reexamination => Cleared flags (subs .draft) ∧ LastVerdict (subs .entry) (some false)
  | .paying | .paymentCompleted => Cleared flags (subs .draft) ∧ subs .entry ≠ [] ∧
    (flags.needsAfterReview = true → LastVerdict (subs .entry) (some true))
  | .done => True

/-- The submissions of an assignee who has come to a stage by the steps of the workflow. -/
structure Stands (flags : WorkflowFlags) (stage : Stage) (subs : EntryKind → List Examination) :
    Prop where
  earlier : ∀ kind, EarlierRejected (subs kind)
  place : Place flags subs stage

theorem EarlierRejected.nil : EarlierRejected [] := fun _ h => by cases h

/-- Where the last submission was rejected, all were. -/
theorem EarlierRejected.all {es : List Examination} (h : EarlierRejected es)
    (hl : LastVerdict es (some false)) : ∀ e ∈ es, e.passed = some false := by
  obtain ⟨last, hlast, hpassed⟩ := hl
  obtain ⟨others, rfl⟩ := List.getLast?_eq_some_iff.mp hlast
  rw [EarlierRejected, List.dropLast_concat] at h
  intro e he
  rcases List.mem_append.mp he with he | he
  · exact h e he
  · rw [List.mem_singleton.mp he]; exact hpassed

theorem lastVerdict_concat {es : List Examination} {e : Examination} {verdict : Option Bool}
    (h : e.passed = verdict) : LastVerdict (es ++ [e]) verdict :=
  ⟨e, List.getLast?_concat, h⟩

namespace Stands

variable {flags : WorkflowFlags} {stage : Stage} {subs subs' : EntryKind → List Examination}

theorem of_empty (h : ∀ kind, subs kind = []) (hp : Place flags subs stage) :
    Stands flags stage subs :=
  ⟨fun kind => by rw [h kind]; exact .nil, hp⟩

theorem finished (h : Stands flags stage subs) : Stands flags .done subs := ⟨h.earlier, trivial⟩

/-- Writing starts with an article where drafts are not reviewed. -/
theorem writing (h : ∀ kind, subs kind = []) :
    Stands flags (Move.writing flags.needsPreliminaryReview) subs := by
  refine .of_empty h ?_
  cases hp : flags.needsPreliminaryReview with
  | true => exact h
  | false =>
    refine ⟨fun hn => ?_, h .entry⟩
    rw [hp] at hn; cases hn

theorem plain (h : Stands flags stage subs) {m : Move} (hm : m.Plain flags)
    (hs : stage ∈ m.sources) : Stands flags m.target subs := by
  cases m with
  | invite => obtain rfl := List.mem_singleton.mp hs; exact ⟨h.earlier, h.place⟩
  | accept f =>
    obtain rfl := List.mem_singleton.mp hs
    obtain rfl : f = flags := hm
    simp only [Move.target]
    split
    · exact ⟨h.earlier, h.place⟩
    · split
      · exact ⟨h.earlier, h.place⟩
      · exact .writing h.place
  | refuse => exact h.finished
  | winLottery f _ _ =>
    obtain rfl := List.mem_singleton.mp hs
    obtain rfl : f = flags := hm
    simp only [Move.target]
    split
    · exact ⟨h.earlier, h.place⟩
    · exact .writing h.place
  | loseLottery => obtain rfl := List.mem_singleton.mp hs; exact ⟨h.earlier, h.place⟩
  | finishShipment b =>
    obtain rfl := List.mem_singleton.mp hs
    obtain rfl : b = flags.needsPreliminaryReview := hm
    exact .writing h.place
  | completePayment => obtain rfl := List.mem_singleton.mp hs; exact ⟨h.earlier, h.place⟩
  | submitDraft => cases hm
  | judgeDraft passed => cases hm
  | submitEntry b => cases hm
  | judgeEntry passed => cases hm

/-- Before a submission everything of its kind was rejected. -/
theorem all_rejected (h : Stands flags stage subs) {kind : EntryKind}
    (hs : stage ∈ (Store.submission kind flags).sources) : ∀ e ∈ subs kind, e.passed = some false := by
  have hnil : subs kind = [] → ∀ e ∈ subs kind, e.passed = some false := by
    intro hn e he; rw [hn] at he; cases he
  cases kind with
  | draft =>
    rcases List.mem_pair.mp hs with rfl | rfl
    · exact hnil (h.place .draft)
    · exact (h.earlier .draft).all h.place.1
  | entry =>
    rcases List.mem_pair.mp hs with rfl | rfl
    · exact hnil h.place.2
    · exact (h.earlier .entry).all h.place.2

theorem submitted (h : Stands flags stage subs) {kind : EntryKind} {e : Examination}
    (hs : stage ∈ (Store.submission kind flags).sources) (he : e.passed = none)
    (hsame : subs' kind = subs kind ++ [e]) (hother : ∀ k, k ≠ kind → subs' k = subs k) :
    Stands flags (Store.submission kind flags).target subs' := by
  have hearlier : ∀ k, EarlierRejected (subs' k) := by
    intro k
    by_cases hk : k = kind
    · subst hk
      rw [EarlierRejected, hsame, List.dropLast_concat]
      exact h.all_rejected hs
    · rw [hother k hk]; exact h.earlier k
  refine ⟨hearlier, ?_⟩
  cases kind with
  | draft =>
    have hentry : subs' .entry = [] := by
      rw [hother .entry (by simp)]
      rcases List.mem_pair.mp hs with rfl | rfl
      · exact h.place .entry
      · exact h.place.2
    exact ⟨hsame ▸ lastVerdict_concat he, hentry⟩
  | entry =>
    have hcleared : Cleared flags (subs' .draft) := by
      rw [hother .draft (by simp)]
      rcases List.mem_pair.mp hs with rfl | rfl
      · exact h.place.1
      · exact h.place.1
    cases hreview : flags.needsAfterReview with
    | true =>
      rw [Store.submission, hreview]
      exact ⟨hcleared, hsame ▸ lastVerdict_concat he⟩
    | false =>
      rw [Store.submission, hreview]
      refine ⟨hcleared, by simp [hsame], fun hn => ?_⟩
      rw [hreview] at hn; cases hn

theorem judged {kind : EntryKind} (h : Stands flags (Store.examinedStage kind) subs)
    {o : Examination} {passed : Bool} (ho : o.passed = some passed)
    (hsame : subs' kind = (subs kind).dropLast ++ [o]) (hother : ∀ k, k ≠ kind → subs' k = subs k) :
    Stands flags (Store.judgement kind passed).target subs' := by
  have hearlier : ∀ k, EarlierRejected (subs' k) := by
    intro k
    by_cases hk : k = kind
    · subst hk
      rw [EarlierRejected, hsame, List.dropLast_concat]
      exact h.earlier k
    · rw [hother k hk]; exact h.earlier k
  have hlast : LastVerdict (subs' kind) (some passed) := hsame ▸ lastVerdict_concat ho
  refine ⟨hearlier, ?_⟩
  cases kind with
  | draft =>
    have hentry : subs' .entry = [] := by rw [hother .entry (by simp)]; exact h.place.2
    cases passed with
    | true => exact ⟨fun _ => hlast, hentry⟩
    | false => exact ⟨hlast, hentry⟩
  | entry =>
    have hcleared : Cleared flags (subs' .draft) := by
      rw [hother .draft (by simp)]; exact h.place.1
    cases passed with
    | true => exact ⟨hcleared, by simp [hsame], fun _ => hlast⟩
    | false => exact ⟨hcleared, hlast⟩

end Stands

/-! ## One assignee in the tables -/

/-- Assignee `x` of campaign `id`, who came to its stage by the steps of the workflow. Nothing that it
submitted is dated after `clock`. -/
structure Tracked (id : CampaignId) (flags : WorkflowFlags) (x : AssigneeId) (clock : Instant)
    (w : World Tables) : Prop where
  campaign_issued : w.ids.Issued id
  issued : w.ids.Issued x
  campaign : ∀ c ∈ w.state.campaigns, c.id = id → c.flags = flags
  ordered : ∀ kind, Chronological (w.state.dates id x kind)
  bounded : ∀ kind, ∀ t ∈ w.state.dates id x kind, clock.before t = false
  stands : ∀ a ∈ w.state.assignees, a.id = x →
    a.campaign = id ∧ Stands flags a.stage (w.state.submissions id x)

namespace Tracked

variable {id id' : CampaignId} {flags : WorkflowFlags} {x : AssigneeId} {clock now : Instant}
  {w w' : World Tables}

/-- Time passes. -/
theorem tick (h : Tracked id flags x clock w) (hnow : now.before clock = false) :
    Tracked id flags x now w :=
  { h with bounded := fun kind t ht => Instant.before_trans (h.bounded kind t ht) hnow }

/-- A change that leaves alone the assignee, what it submitted and the flags of its campaign. -/
theorem frame (h : Tracked id flags x clock w) (hl : w.ids.Later w'.ids)
    (hcs : ∀ c ∈ w'.state.campaigns, c.id = id →
      ∃ c₀ ∈ w.state.campaigns, c₀.id = id ∧ c₀.flags = c.flags)
    (has : ∀ a ∈ w'.state.assignees, a.id = x → a ∈ w.state.assignees)
    (hsubs : w'.state.submissions id x = w.state.submissions id x) :
    Tracked id flags x clock w' where
  campaign_issued := h.campaign_issued.later hl
  issued := h.issued.later hl
  campaign c hc hid := by
    obtain ⟨c₀, hc₀, hid₀, hflags⟩ := hcs c hc hid
    rw [← hflags]; exact h.campaign c₀ hc₀ hid₀
  ordered kind := by unfold Tables.dates; rw [hsubs]; exact h.ordered kind
  bounded kind := by unfold Tables.dates; rw [hsubs]; exact h.bounded kind
  stands a ha hax := by rw [hsubs]; exact h.stands a (has a ha hax) hax

/-- A change of other tables. -/
theorem keep (h : Tracked id flags x clock w) (hl : w.ids.Later w'.ids)
    (hcs : w'.state.campaigns = w.state.campaigns) (has : w'.state.assignees = w.state.assignees)
    (hes : w'.state.examinations = w.state.examinations) : Tracked id flags x clock w' := by
  refine h.frame hl (fun c hc hid => ⟨c, hcs ▸ hc, hid, rfl⟩) (fun a ha _ => has ▸ ha) ?_
  funext kind
  unfold Tables.submissions
  rw [hes]

/-- A row in the place of an assignee's, perhaps with a change of what this assignee submitted. It
matters if the assignee is the tracked one. -/
theorem put (h : Tracked id flags x clock w) {a a' : Assignee} (ha : a ∈ w.state.assignees)
    (hid : a'.id = a.id) (hc : a'.campaign = a.campaign) (hl : w.ids.Later w'.ids)
    (hcs : w'.state.campaigns = w.state.campaigns)
    (has : w'.state.assignees = (w.state.putAssignee a').assignees)
    (hother : a.id ≠ x → w'.state.submissions id x = w.state.submissions id x)
    (hself : a.id = x → a.campaign = id → Stands flags a.stage (w.state.submissions id x) →
      (∀ kind, Chronological (w'.state.dates id x kind)) ∧
      (∀ kind, ∀ t ∈ w'.state.dates id x kind, clock.before t = false) ∧
      Stands flags a'.stage (w'.state.submissions id x)) : Tracked id flags x clock w' := by
  by_cases hax : a.id = x
  · obtain ⟨hcampaign, hstands⟩ := h.stands a ha hax
    obtain ⟨hordered, hbounded, hstands'⟩ := hself hax hcampaign hstands
    refine ⟨h.campaign_issued.later hl, h.issued.later hl, by rw [hcs]; exact h.campaign, hordered,
      hbounded, fun b hb hbx => ?_⟩
    rw [has] at hb
    rcases mem_amend.mp hb with ⟨_, hne⟩ | ⟨_, _, _, rfl⟩
    · exact absurd (hbx.trans (hid.trans hax).symm) hne
    · exact ⟨hc.trans hcampaign, hstands'⟩
  · refine h.frame hl (fun c hc hcid => ⟨c, hcs ▸ hc, hcid, rfl⟩) (fun b hb hbx => ?_) (hother hax)
    rw [has] at hb
    rcases mem_amend.mp hb with ⟨hb, _⟩ | ⟨_, _, _, rfl⟩
    · exact hb
    · exact absurd (hid.symm.trans hbx) hax

/-- A row in the place of an assignee's, who has submitted nothing new. -/
theorem putAssignee (h : Tracked id flags x clock w) {a a' : Assignee}
    (ha : a ∈ w.state.assignees) (hid : a'.id = a.id) (hc : a'.campaign = a.campaign)
    (hst : ∀ subs, a.campaign = id → Stands flags a.stage subs → Stands flags a'.stage subs) :
    Tracked id flags x clock { w with state := w.state.putAssignee a' } :=
  h.put ha hid hc (.refl _) rfl rfl (fun _ => rfl) fun _ hcampaign hstands =>
    ⟨h.ordered, h.bounded, hst _ hcampaign hstands⟩

theorem flags_eq (h : Tracked id flags x clock w) {c : Campaign} {a : Assignee}
    (hc : w.state.campaign? id' = some c) (hid : a.campaign = id') (hcampaign : a.campaign = id) :
    c.flags = flags := by
  obtain ⟨hmem, hcid⟩ := Tables.campaign?_mem hc
  exact h.campaign c hmem (hcid.trans (hid.symm.trans hcampaign))

theorem submits (h : Tracked id flags x now w) {c : Campaign} {a : Assignee} {kind : EntryKind}
    {entry : Option EntryId} {e : Examination} (hc : w.state.campaign? id' = some c)
    (ha : a ∈ w.state.assignees) (hid : a.campaign = id')
    (hs : a.stage ∈ (Store.submission kind c.flags).sources)
    (he : Examination.submit w.ids.next.1 id' a.id a.blogger kind entry now = .ok e) :
    Tracked id flags x now ⟨(w.ids.next : ExaminationId × Ids).2,
      (w.state.addExamination e).putAssignee (a.after (Store.submission kind c.flags))⟩ := by
  obtain ⟨hecampaign, heassignee, hekind, hepassed, hedate⟩ : e.campaign = id' ∧ e.assignee = a.id ∧
      e.kind = kind ∧ e.passed = none ∧ e.createdAt = now := by
    obtain ⟨_, rfl⟩ := Examination.submit_ok.mp he
    exact ⟨rfl, rfl, rfl, rfl, rfl⟩
  refine h.put ha (a.after_id _) (a.after_campaign _) (Ids.later_next .examination _) rfl rfl
    (fun hax => ?_) fun hax hcampaign hstands => ?_
  · funext k
    refine (w.state.submissions_addExamination e).trans ?_
    rw [if_neg fun hk => hax (heassignee.symm.trans hk.2.1), List.append_nil]
  · obtain rfl := h.flags_eq hc hid hcampaign
    have hsame : (w.state.addExamination e).submissions id x kind =
        w.state.submissions id x kind ++ [e] := by
      have he : e.campaign = id := hecampaign.trans (hid.symm.trans hcampaign)
      rw [w.state.submissions_addExamination e, if_pos ⟨he, heassignee.trans hax, hekind⟩]
    have hother : ∀ k, k ≠ kind →
        (w.state.addExamination e).submissions id x k = w.state.submissions id x k := by
      intro k hk
      rw [w.state.submissions_addExamination e,
        if_neg fun hek => hk (hek.2.2.symm.trans hekind), List.append_nil]
    refine ⟨fun k => ?_, fun k => ?_, ?_⟩
    · change Chronological ((w.state.addExamination e).dates id x k)
      rw [w.state.dates_addExamination e, hedate]
      split
      · exact (h.ordered k).concat (h.bounded k)
      · rw [List.append_nil]; exact h.ordered k
    · change ∀ t ∈ (w.state.addExamination e).dates id x k, now.before t = false
      rw [w.state.dates_addExamination e, hedate]
      intro t ht
      rcases List.mem_append.mp ht with ht | ht
      · exact h.bounded k t ht
      · split at ht
        · rw [List.mem_singleton.mp ht]; simp [Instant.before]
        · cases ht
    · rw [Assignee.after_stage]
      exact hstands.submitted hs hepassed hsame hother

theorem judges (h : Tracked id flags x now w) (hw : Sound w) {a : Assignee} {kind : EntryKind}
    {e e' : Examination} {v : Verdict} (ha : a ∈ w.state.assignees) (hid : a.campaign = id')
    (hs : a.stage = Store.examinedStage kind)
    (he : w.state.latestExamination? id' a.id kind = some e) (hj : e.judge v = .ok e') :
    Tracked id flags x now ⟨w.ids,
      (w.state.putExamination e').putAssignee (a.after (Store.judgement kind v.passed))⟩ := by
  refine h.put ha (a.after_id _) (a.after_campaign _) (.refl _) rfl rfl (fun hax => ?_)
    fun hax hcampaign hstands => ?_
  · funext k
    exact hw.submissions_judged_other he hj fun hk => hax hk.1.symm
  · subst hax
    obtain rfl : id' = id := hid.symm.trans hcampaign
    have hdates : ∀ k, (w.state.putExamination e').dates id' a.id k = w.state.dates id' a.id k :=
      hw.dates_judged he hj id' a.id
    obtain ⟨o, hsame, hpassed⟩ := hw.submissions_judged (h.ordered kind) he hj
    refine ⟨fun k => ?_, fun k => ?_, ?_⟩
    · exact (hdates k).symm ▸ h.ordered k
    · exact (hdates k).symm ▸ h.bounded k
    · rw [Assignee.after_stage]
      rw [hs] at hstands
      exact hstands.judged hpassed hsame fun k hk =>
        hw.submissions_judged_other he hj fun hboth => hk hboth.2

theorem deletes (h : Tracked id flags x clock w) (id' : CampaignId) :
    Tracked id flags x clock { w with state := w.state.deleteCampaign id' } := by
  have hsub : ∀ kind, ((w.state.deleteCampaign id').submissions id x kind).Sublist
      (w.state.submissions id x kind) := fun kind => List.filter_sublist.filter _
  refine ⟨h.campaign_issued, h.issued, fun c hc hid => ?_, fun kind => ?_, fun kind t ht => ?_,
    fun a ha hax => ?_⟩
  · exact h.campaign c (List.mem_filter.mp hc).1 hid
  · exact (h.ordered kind).sublist ((hsub kind).map _)
  · exact h.bounded kind t (((hsub kind).map _).subset ht)
  · obtain ⟨ha, hne⟩ := List.mem_filter.mp ha
    obtain ⟨hcampaign, hstands⟩ := h.stands a ha hax
    have hne : id ≠ id' := by rw [← hcampaign]; simpa using hne
    have hsubs : (w.state.deleteCampaign id').submissions id x = w.state.submissions id x := by
      funext kind
      unfold Tables.submissions Tables.deleteCampaign
      rw [List.filter_filter]
      refine List.filter_congr fun e _ => ?_
      by_cases he : e.campaign = id
      · simp [he, hne]
      · simp [he]
    exact ⟨hcampaign, hsubs ▸ hstands⟩

theorem advancing (h : Tracked id flags x now w) (hw : Sound w) (hs : Advancing now id' w w') :
    Tracked id flags x now w' := by
  cases hs with
  | @moves c a m hc ha hid hm hs =>
    refine h.putAssignee ha (a.after_id m) (a.after_campaign m) fun subs hcampaign hst => ?_
    obtain rfl := h.flags_eq hc hid hcampaign
    rw [Assignee.after_stage]
    exact hst.plain hm hs
  | answers hq ha hid hs hsheet =>
    rw [Tables.saveAnswers_eq]
    exact h.keep (.refl _) rfl rfl rfl
  | declines ha hid hd =>
    obtain ⟨_, _, rfl⟩ := Assignee.decline_ok.mp hd
    exact h.putAssignee ha rfl rfl fun subs _ hst => hst.finished
  | @finishes c a hc ha hid =>
    have hkept : a.finish.id = a.id ∧ a.finish.campaign = a.campaign := ⟨rfl, rfl⟩
    exact h.putAssignee ha hkept.1 hkept.2 fun subs _ hst => hst.finished
  | @closes c hc =>
    refine h.frame (.refl _) (fun c' hc' hid => ?_) (fun a ha _ => ha) rfl
    rcases mem_amend.mp hc' with ⟨hc', _⟩ | ⟨o, _, _, rfl⟩
    · exact ⟨c', hc', hid, rfl⟩
    · exact ⟨c, (Tables.campaign?_mem hc).1, hid, rfl⟩
  | submits hc ha hid hs he => exact h.submits hc ha hid hs he
  | judges ha hid hs he hj => exact h.judges hw ha hid hs he hj
  | deletes => exact h.deletes id'

/-- A request for another campaign. -/
theorem saving (h : Tracked id flags x now w) (hw : Sound w) (hne : id' ≠ id)
    (hs : Saving now r id' w w') : Tracked id flags x now w' := by
  cases hs with
  | @opens item variant c ids hr hopen hid =>
    have hl := (r.orderly_opening now item variant).later w.ids
    rw [hopen] at hl
    refine h.frame hl (fun c' hc' hid' => ?_) (fun a ha _ => ha) rfl
    rcases List.mem_append.mp hc' with hc' | hc'
    · exact ⟨c', hc', hid', rfl⟩
    · rw [List.mem_singleton.mp hc', hid] at hid'; exact absurd hid' hne
  | @revises item variant c c' hr hc hrev =>
    obtain ⟨_, _, hcreate⟩ := SaveRequest.revision_ok hrev
    obtain ⟨_, _, _, _, _, _, rfl⟩ := Campaign.create_ok.mp hcreate
    have hcid := (Tables.campaign?_mem hc).2
    refine h.frame (.refl _) (fun c' hc' hid => ?_) (fun a ha _ => ha) rfl
    rcases mem_amend.mp hc' with ⟨hc', _⟩ | ⟨o, _, _, rfl⟩
    · exact ⟨c', hc', hid, rfl⟩
    · exact absurd (hcid.symm.trans hid) hne
  | @poses c q made ids hq hc hmade =>
    have hl := (q.orderly_renewal id' (w.state.questionnaires.get? id')).later w.ids
    rw [hmade] at hl
    exact h.keep hl rfl rfl rfl
  | withdraws hq hc => exact h.keep (.refl _) rfl rfl rfl
  | enrols hi hkept hc hfree henrol =>
    obtain ⟨_, hcreate, rfl⟩ := AssigneeInput.enrolment_ok henrol
    obtain ⟨_, _, rfl⟩ := Assignee.create_ok.mp hcreate
    refine h.frame (Ids.later_next .assignee _) (fun c hc hid => ⟨c, hc, hid, rfl⟩)
      (fun a ha hax => ?_) rfl
    rcases List.mem_append.mp ha with ha | ha
    · exact ha
    · rw [List.mem_singleton.mp ha] at hax
      exact absurd hax (Ids.next_ne_of_issued hw.injective h.issued)
  | expels hi hgone hb ha hid hs =>
    exact h.frame (.refl _) (fun c hc hid => ⟨c, hc, hid, rfl⟩)
      (fun a ha _ => (List.mem_filter.mp ha).1) rfl
  | places hi hkept hb ha hid hneed hfee =>
    obtain ⟨_, rfl⟩ := Assignee.setFee_ok.mp hfee
    exact h.putAssignee ha rfl rfl fun subs hcampaign _ => absurd (hid.symm.trans hcampaign) hne

theorem advances (h : Tracked id flags x now w) (hw : Sound w) (hs : Advances now id' w w') :
    Tracked id flags x now w' := by
  induction hs with
  | refl => exact h
  | tail hs hlast ih => exact ih.advancing (hw.advances hs) hlast

theorem saves (h : Tracked id flags x now w) (hw : Sound w) (hne : id' ≠ id)
    (hs : Saves now r id' w w') : Tracked id flags x now w' := by
  induction hs with
  | refl => exact h
  | tail hs hlast ih => exact ih.saving (hw.saves hs) hne hlast

end Tracked

/-! ## Histories -/

/-- The readings of the clock do not decrease. -/
def Steady (history : List Visit) : Prop := Chronological (history.map fun v => v.now)

/-- A request to change a campaign that is there. -/
def Visit.Names (v : Visit) (id : CampaignId) : Prop := ∃ r, v.command = .save r ∧ r.id = some id

section Histories

variable {id : CampaignId} {flags : WorkflowFlags} {x : AssigneeId} {clock : Instant}
  {w : World Memory} {v : Visit}

theorem Tracked.apply (h : Tracked id flags x clock w.unit) (hw : Sound w.unit)
    (hclock : v.now.before clock = false) (hv : ¬ v.Names id) :
    Tracked id flags x v.now (v.apply w).unit := by
  have h := h.tick hclock
  rcases v.effect hw with ⟨hstate, hids⟩ | ⟨outcome, hdone⟩
  · have hstate : (v.apply w).unit.state = w.unit.state := congrArg Memory.tables hstate
    exact h.keep hids (by rw [hstate]) (by rw [hstate]) (by rw [hstate])
  · cases hdone with
    | @created r id' _ hsave hnone hid' steps there =>
      refine h.saves hw (fun hid => ?_) steps
      exact Ids.next_ne_of_issued hw.injective h.campaign_issued (hid'.symm.trans hid)
    | @updated r id' _ hsave hsome steps =>
      exact h.saves hw (fun hid => hv ⟨r, hsave, hid ▸ hsome⟩) steps
    | advanced outcome hsubject steps => exact h.advances hw steps

/-- The assignee is tracked for as long as no request changes its campaign. -/
theorem Tracked.after (h : Tracked id flags x clock w.unit) (hw : Sound w.unit)
    {future : List Visit} (hclock : Chronological (clock :: future.map fun v => v.now))
    (hfuture : ∀ v ∈ future, ¬ v.Names id) : ∃ t, Tracked id flags x t (w.after future).unit := by
  induction future generalizing w clock with
  | nil => exact ⟨clock, h⟩
  | cons v rest ih =>
    have hv : v.now.before clock = false := (List.pairwise_cons.mp hclock).1 _ (by simp)
    exact ih (h.apply hw hv (hfuture v List.mem_cons_self)) (hw.apply v)
      (List.pairwise_cons.mp hclock).2 fun u hu => hfuture u (List.mem_cons_of_mem v hu)

/-- Whoever is there when its campaign was created, and not invited yet, is tracked from then on. -/
theorem tracked_of_created (hw : Sound w.unit) {r : SaveRequest} (hsave : v.command = .save r)
    (hnew : r.id = none) (hcreated : (v.service.run v.command w).1 = .ok (.saved id))
    {a : Assignee} (ha : a ∈ (v.apply w).state.tables.assignees) (hid : a.campaign = id)
    (hs : a.stage = .beforeInvitation) : Tracked id r.flags a.id v.now (v.apply w).unit := by
  have hw' := hw.apply v
  obtain ⟨rfl, steps, there⟩ := (v.done hw hcreated).creation hsave hnew
  have hempty : ∀ kind, (v.apply w).unit.state.submissions w.ids.next.1 a.id kind = [] := by
    intro kind
    refine Eq.trans ?_ (hw.submissions_next a.id kind)
    unfold Tables.submissions
    rw [steps.examinations_eq]
    rfl
  have hdates : ∀ kind, (v.apply w).unit.state.dates w.ids.next.1 a.id kind = [] := by
    intro kind; unfold Tables.dates; rw [hempty kind]; rfl
  have hfresh : w.ids.next.1 ∉ w.unit.state.campaigns.map Campaign.id :=
    hw.campaigns.next_notMem hw.injective
  refine ⟨?_, hw'.assignees.issued _ (List.mem_map_of_mem ha), ?_, fun kind => ?_, fun kind => ?_,
    fun b hb hba => ?_⟩
  · obtain ⟨c, hc⟩ := Option.isSome_iff_exists.mp there
    exact hw'.campaign?_issued hc
  · exact Saves.writes_flags steps fun c hc hcid => absurd (List.mem_map.mpr ⟨c, hc, hcid⟩) hfresh
  · rw [hdates kind]; exact List.Pairwise.nil
  · rw [hdates kind]; intro t ht; cases ht
  · have : b = a := List.inj_on_of_nodup_map hw'.assignees.nodup hb ha hba
    subst this
    refine ⟨hid, hs ▸ Stands.of_empty hempty hempty⟩

end Histories

/-! ## The gate -/

/-- The verdict on the latest submission of one kind by an assignee, who has made one. -/
def Tables.Latest (t : Tables) (a : Assignee) (kind : EntryKind) (verdict : Option Bool) : Prop :=
  ∃ e, t.latestExamination? a.campaign a.id kind = some e ∧ e.passed = verdict

/-- What the stage of an assignee says about its submissions, in a campaign with these flags. -/
structure ReviewGate (flags : WorkflowFlags) (t : Tables) (a : Assignee) : Prop where
  draft_awaits : a.stage = .preExamination → t.Latest a .draft none
  entry_awaits : a.stage = .examination → t.Latest a .entry none
  draft_rejected : a.stage = .preReexamination → t.Latest a .draft (some false)
  entry_rejected : a.stage = .reexamination → t.Latest a .entry (some false)
  draft_passed : flags.needsPreliminaryReview = true →
    a.stage ∈ [Stage.articlePosting, .examination, .reexamination, .paying, .paymentCompleted] →
    t.Latest a .draft (some true)
  posted : a.stage ∈ [Stage.paying, .paymentCompleted] → ∃ verdict, t.Latest a .entry verdict
  entry_passed : flags.needsAfterReview = true → a.stage ∈ [Stage.paying, .paymentCompleted] →
    t.Latest a .entry (some true)
  superseded : ∀ kind, ∀ e ∈ t.submissions a.campaign a.id kind,
    ∀ l, t.latestExamination? a.campaign a.id kind = some l → e.id ≠ l.id →
    e.passed = some false ∧ ∃ reason, e.reason = some reason ∧ reason ≠ ""

theorem LastVerdict.latest {t : Tables} {a : Assignee} {kind : EntryKind} {verdict : Option Bool}
    (h : LastVerdict (t.submissions a.campaign a.id kind) verdict)
    (hd : Chronological (t.dates a.campaign a.id kind)) : t.Latest a kind verdict := by
  obtain ⟨e, he, hpassed⟩ := h
  refine ⟨{ e with submissions := (t.submissions a.campaign a.id kind).length }, ?_, hpassed⟩
  rw [Tables.latestExamination?_eq hd, he]
  rfl

theorem Tracked.reviewGate {id : CampaignId} {flags : WorkflowFlags} {clock : Instant}
    {w : World Tables} {a : Assignee} (h : Tracked id flags a.id clock w) (hv : w.state.Valid)
    (ha : a ∈ w.state.assignees) : ReviewGate flags w.state a := by
  obtain ⟨rfl, hearlier, hplace⟩ := h.stands a ha rfl
  have hdraft : Cleared flags (w.state.submissions a.campaign a.id .draft) →
      flags.needsPreliminaryReview = true → w.state.Latest a .draft (some true) :=
    fun hc hflag => (hc hflag).latest (h.ordered .draft)
  constructor
  · intro hs; rw [hs] at hplace; exact hplace.1.latest (h.ordered .draft)
  · intro hs; rw [hs] at hplace; exact hplace.2.latest (h.ordered .entry)
  · intro hs; rw [hs] at hplace; exact hplace.1.latest (h.ordered .draft)
  · intro hs; rw [hs] at hplace; exact hplace.2.latest (h.ordered .entry)
  · intro hflag hs
    simp only [List.mem_cons, List.not_mem_nil, or_false] at hs
    rcases hs with hs | hs | hs | hs | hs <;>
      exact hdraft (by rw [hs] at hplace; exact hplace.1) hflag
  · intro hs
    have hne : w.state.submissions a.campaign a.id .entry ≠ [] := by
      rcases List.mem_pair.mp hs with hs | hs <;> (rw [hs] at hplace; exact hplace.2.1)
    exact ⟨_, LastVerdict.latest ⟨_, List.getLast?_eq_some_getLast hne, rfl⟩ (h.ordered .entry)⟩
  · intro hflag hs
    have hpassed : LastVerdict (w.state.submissions a.campaign a.id .entry) (some true) := by
      rcases List.mem_pair.mp hs with hs | hs <;> (rw [hs] at hplace; exact hplace.2.2 hflag)
    exact hpassed.latest (h.ordered .entry)
  · intro kind e he l hl hne
    rw [Tables.latestExamination?_eq (h.ordered kind)] at hl
    obtain ⟨last, hlast, rfl⟩ := Option.map_eq_some_iff.mp hl
    have hrejected : e.passed = some false := by
      obtain ⟨others, hothers⟩ := List.getLast?_eq_some_iff.mp hlast
      refine hearlier kind e ?_
      rw [hothers] at he
      rw [hothers, List.dropLast_concat]
      rcases List.mem_append.mp he with he | he
      · exact he
      · rw [List.mem_singleton.mp he] at hne; exact absurd rfl hne
    exact ⟨hrejected, (hv.examinations e (Tables.mem_submissions.mp he).1).rejected hrejected⟩

/-- An assignee who was there before the invitations when its campaign was created is behind the gate
at every moment of a history that no request for the campaign is part of. -/
theorem review_gate {past future : List Visit} {creation : Visit} {r : SaveRequest}
    {id : CampaignId} {a₀ : Assignee}
    (hclock : Steady (past ++ creation :: future)) (hsave : creation.command = .save r)
    (hnew : r.id = none)
    (hcreated : (creation.service.run creation.command (World.start.after past)).1 = .ok (.saved id))
    (ha₀ : a₀ ∈ (creation.apply (World.start.after past)).state.tables.assignees)
    (hid : a₀.campaign = id) (hs : a₀.stage = .beforeInvitation)
    (hfuture : ∀ v ∈ future, ¬ v.Names id) :
    ∀ a ∈ (World.start.after (past ++ creation :: future)).state.tables.assignees, a.id = a₀.id →
      ReviewGate r.flags (World.start.after (past ++ creation :: future)).state.tables a := by
  intro a ha haid
  have hw := sound_after past
  have htracked := tracked_of_created hw hsave hnew hcreated ha₀ hid hs
  have hsteady : Chronological (creation.now :: future.map fun v => v.now) := by
    unfold Steady at hclock
    rw [List.map_append] at hclock
    exact (List.pairwise_append.mp hclock).2.1
  obtain ⟨t, ht⟩ := htracked.after (hw.apply creation) hsteady hfuture
  have hafter : (creation.apply (World.start.after past)).after future =
      World.start.after (past ++ creation :: future) := by
    rw [World.after_append]; rfl
  rw [hafter, ← haid] at ht
  exact ht.reviewGate (kept_valid.after .empty _) ha

/-- An article that is rejected, and one that passes. -/
def reviewedCourse : List Visit :=
  [visitAt 1 (.invite ⟨"id-0001"⟩),
    visitAt 2 (.answerInvitation ⟨"id-0001"⟩ ⟨"blogger"⟩ true {}),
    visitAt 3 (.submit ⟨"id-0001"⟩ ⟨"blogger"⟩ .entry (some ⟨"first"⟩)),
    visitAt 4 (.applyVerdicts ⟨"id-0001"⟩ .entry (Keyed.ofList
      [(⟨"blogger"⟩, { passed := false, examiner := "examiner", reason := some "reason" })])),
    visitAt 5 (.submit ⟨"id-0001"⟩ ⟨"blogger"⟩ .entry (some ⟨"second"⟩)),
    visitAt 6 (.applyVerdicts ⟨"id-0001"⟩ .entry (Keyed.ofList
      [(⟨"blogger"⟩, { passed := true, examiner := "examiner" })]))]

/-- What came before, an invitation to a campaign that was not there yet, has failed. -/
theorem review_gate_of_reviewedCourse :
    ∃ a ∈ (World.start.after ([visitAt 0 (.invite ⟨"id-0001"⟩)] ++
        visitAt 0 (.save reviewingRequest) :: reviewedCourse)).state.tables.assignees,
      a.stage = .paying ∧ ReviewGate reviewingRequest.flags
        (World.start.after ([visitAt 0 (.invite ⟨"id-0001"⟩)] ++
          visitAt 0 (.save reviewingRequest) :: reviewedCourse)).state.tables a := by
  have hassignee : ∃ a₀ ∈ ((visitAt 0 (.save reviewingRequest)).apply (World.start.after
      [visitAt 0 (.invite ⟨"id-0001"⟩)])).state.tables.assignees,
      a₀.campaign = ⟨"id-0001"⟩ ∧ a₀.stage = .beforeInvitation ∧ a₀.id = ⟨"id-0005"⟩ := by
    decide +kernel
  obtain ⟨a₀, ha₀, hid, hs, hkey⟩ := hassignee
  have hpaid : ∃ a ∈ (World.start.after ([visitAt 0 (.invite ⟨"id-0001"⟩)] ++
      visitAt 0 (.save reviewingRequest) :: reviewedCourse)).state.tables.assignees,
      a.id = ⟨"id-0005"⟩ ∧ a.stage = .paying := by decide +kernel
  obtain ⟨a, ha, hakey, hpaying⟩ := hpaid
  have hsteady : Steady ([visitAt 0 (.invite ⟨"id-0001"⟩)] ++
      visitAt 0 (.save reviewingRequest) :: reviewedCourse) := by
    unfold Steady Chronological; decide +kernel
  have hcreated : ((visitAt 0 (.save reviewingRequest)).service.run
      (visitAt 0 (.save reviewingRequest)).command (World.start.after
        [visitAt 0 (.invite ⟨"id-0001"⟩)])).1 = .ok (.saved ⟨"id-0001"⟩) := by decide +kernel
  have hfuture : ∀ v ∈ reviewedCourse, ¬ v.Names ⟨"id-0001"⟩ := by
    rintro v hv ⟨r, hr, _⟩
    simp only [reviewedCourse, List.mem_cons, List.not_mem_nil, or_false] at hv
    rcases hv with rfl | rfl | rfl | rfl | rfl | rfl <;> cases hr
  exact ⟨a, ha, hpaying, review_gate hsteady rfl rfl hcreated ha₀ hid hs hfuture a ha
    (hakey.trans hkey.symm)⟩

end Sponsorship
