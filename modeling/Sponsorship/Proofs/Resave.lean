import Sponsorship.Proofs.Idle
import Sponsorship.Proofs.Ownership
import Sponsorship.Proofs.Validity

/-!
# Sponsorship.Proofs.Resave

A campaign that is saved as it is stored.

* `Campaign.request`: the request that says of a campaign, its questionnaire and some of its assignees
  what is stored.
* `Stored`: what the tables are like after every history, all in one (`stored_after`).
* `Campaign.Valid.edit_shown`, `Campaign.revision_request`: the campaign passes its checks again.
* `reconciled_inputs`: each question finds itself again.
* `resave_idle`: the save succeeds, takes no identifier and leaves all rows as they were.
-/

namespace Sponsorship

open Time

/-! ## Requests that say what is stored -/

def Schedule.input (s : Schedule) : ScheduleInput :=
  { id := some s.id, kind := s.kind, opens := s.opens, closes := s.closes }

def Question.input (q : Question) : QuestionInput :=
  { id := some q.id, kind := q.kind, title := q.title, imageUrl := q.imageUrl,
    options := q.options }

def Questionnaire.input (q : Questionnaire) : QuestionnaireInput :=
  { description := q.description, questions := q.questions.map Question.input }

def Assignee.input (a : Assignee) : AssigneeInput :=
  { blogger := a.blogger, stage := a.stage, fee := a.fee }

/-- What the request says of the campaign is what the campaign says. -/
def Campaign.request (c : Campaign) (questionnaire : Option Questionnaire)
    (assignees : List Assignee) : SaveRequest :=
  { id := some c.id, name := c.name, item := c.item.id, variant := c.variant.map Variant.id,
    hasCoupon := c.hasCoupon, banner := c.banner, special := c.special, flags := c.flags,
    target := c.target, texts := c.texts, mail := c.mail, isClosed := c.isClosed,
    schedules := c.schedules.map Schedule.input, assignees := assignees.map Assignee.input,
    questionnaire := questionnaire.map Questionnaire.input, drafted := c.drafted }

/-! ## What the tables are like -/

/-- What the tables are like after every history. -/
structure Stored (w : World Tables) : Prop where
  sound : Sound w
  valid : w.state.Valid
  owned : Owned w.state
  numbered : Numbered w
  named : ∀ n, w.ids.name n ≠ ""

theorem Ids.numbered_ne_empty (n : Nat) : numbered n ≠ "" := by
  intro h
  have hlist := congrArg String.toList h
  simp [numbered] at hlist

theorem stored_after (history : List Visit) : Stored (World.start.after history).unit where
  sound := sound_after history
  valid := kept_valid.after .empty history
  owned := owned_after history
  numbered := numbered_after history
  named n := by
    change (World.start.after history).ids.name n ≠ ""
    rw [(later_after history).name]
    exact Ids.numbered_ne_empty n

namespace Stored

variable {w : World Tables}

/-- An identifier that was taken from the supply is not blank. -/
theorem given (h : Stored w) {kind : Named} {x : Id kind} (hx : w.ids.Issued x) :
    Id.given? (some x) = some x := by
  obtain ⟨n, _, htext⟩ := hx
  refine Id.given?_eq_some ?_
  rw [htext]
  exact h.named n

variable {c : Campaign} {id : CampaignId} {a : Assignee} {q : Questionnaire}

theorem campaign? (h : Stored w) (hc : c ∈ w.state.campaigns) :
    w.state.campaign? c.id = some c :=
  find?_key h.sound.campaigns.nodup hc

theorem scheduleIds (h : Stored w) (hc : c ∈ w.state.campaigns) : w.ids.Keys c.scheduleIds where
  nodup := (List.nodup_flatMap.mp h.numbered.schedules.nodup).1 c hc
  issued k hk := h.numbered.schedules.issued k (List.mem_flatMap.mpr ⟨c, hc, hk⟩)

theorem questionIds (h : Stored w) (hq : w.state.questionnaires.get? id = some q) :
    w.ids.Keys q.questionIds where
  nodup :=
    (List.nodup_flatMap.mp h.numbered.questions.nodup).1 _ (Keyed.get?_eq_some_iff.mp hq)
  issued k hk := h.numbered.questions.issued k
    (List.mem_flatMap.mpr ⟨_, Keyed.get?_eq_some_iff.mp hq, hk⟩)

/-- Nobody takes part in one campaign twice. -/
theorem bloggers (h : Stored w) (id : CampaignId) :
    ((w.state.assigneesOf id none).map Assignee.blogger).Nodup := by
  have hpairs : (w.state.assignees.map fun a => (a.campaign, a.blogger)).Nodup := by
    have := h.owned.participations
    unfold Tables.participants at this
    rwa [List.map_map] at this
  have hof : ((w.state.assigneesOf id none).map fun a => (a.campaign, a.blogger)).Nodup :=
    hpairs.sublist (List.filter_sublist.map _)
  have hsame : (w.state.assigneesOf id none).map (fun a => (a.campaign, a.blogger)) =
      ((w.state.assigneesOf id none).map Assignee.blogger).map fun b => (id, b) := by
    rw [List.map_map]
    refine List.map_congr_left fun a ha => ?_
    rw [(Tables.mem_assigneesOf.mp ha).2.1]
    rfl
  rw [hsame] at hof
  exact hof.of_map _

theorem among_bloggers (h : Stored w) (id : CampaignId) (bloggers : List BloggerId)
    (stage : Option Stage) : ((w.state.among id bloggers stage).map Assignee.blogger).Nodup :=
  (h.bloggers id).sublist ((w.state.among_sublist id bloggers stage).map _)

/-- Nobody is found twice, so no more are found than are looked for. -/
theorem length_among_le (h : Stored w) (id : CampaignId) (bloggers : List BloggerId)
    (stage : Option Stage) : (w.state.among id bloggers stage).length ≤ bloggers.length := by
  have hsub : (w.state.among id bloggers stage).map Assignee.blogger ⊆ bloggers := by
    intro x hx
    obtain ⟨a, ha, rfl⟩ := List.mem_map.mp hx
    exact (Tables.mem_among.mp ha).2.2.2
  simpa using ((h.among_bloggers id bloggers stage).subperm hsub).length_le

end Stored

/-! ## The campaign -/

theorem Schedule.Valid.checkDates {s : Schedule} (h : s.Valid) :
    checkDates s.kind s.opens s.closes = .ok () := by
  refine checkDates_ok.mpr ⟨?_, ?_⟩
  · unfold reversed
    split
    · rename_i first last hopens hcloses
      exact h.ordered first last hopens hcloses
    · rfl
  · have hsuited := h.suited
    revert hsuited
    cases s.kind <;> cases s.opens <;> cases s.closes <;> simp [suits]

namespace Campaign

/-- An edit that says what is so already. -/
def Shows (c : Campaign) : Edit → Prop
  | .name name => name = c.name
  | .item item => item = c.item
  | .variant variant => variant = c.variant
  | .special special => special = c.special
  | .coupon hasCoupon banner => hasCoupon = c.hasCoupon ∧ banner = c.banner
  | .schedules schedules => schedules = c.schedules
  | .texts texts => texts = c.texts
  | .flags flags => flags = c.flags
  | .target target => target = c.target
  | .mail mail => mail = c.mail
  | .drafted drafted => drafted = c.drafted
  | .closed isClosed => isClosed = c.isClosed

namespace Valid

variable {c : Campaign}

theorem refreshPickInfo (h : c.Valid) : c.refreshPickInfo = c := by
  unfold Campaign.refreshPickInfo
  rw [← h.pickInfo]

/-- Every part of a valid campaign passes the check of its edit once more. -/
theorem edit_shown (h : c.Valid) {e : Edit} (he : c.Shows e) :
    checkEdit c.item e = .ok () ∧ c.changed e = c := by
  cases e with
  | name name =>
    obtain rfl : name = c.name := he
    exact ⟨requireText_ok.mpr h.name, rfl⟩
  | item item =>
    obtain rfl : item = c.item := he
    exact ⟨checkItem_ok.mpr h.item, h.refreshPickInfo⟩
  | variant variant =>
    obtain rfl : variant = c.variant := he
    exact ⟨rfl, h.refreshPickInfo⟩
  | special special =>
    obtain rfl : special = c.special := he
    exact ⟨h.special, rfl⟩
  | coupon hasCoupon banner =>
    obtain ⟨rfl, rfl⟩ : hasCoupon = c.hasCoupon ∧ banner = c.banner := he
    exact ⟨checkCoupon_ok.mpr h.banner, h.refreshPickInfo⟩
  | schedules schedules =>
    obtain rfl : schedules = c.schedules := he
    have hkinds : ∀ k ∈ ScheduleKind.obligatory, k ∈ c.schedules.map Schedule.kind :=
      fun k hk => List.mem_map.mpr (h.obligatory k hk)
    exact ⟨Schedule.checkSet_of_kinds h.kinds hkinds, rfl⟩
  | texts texts =>
    obtain rfl : texts = c.texts := he
    exact ⟨OfferTexts.check_ok.mpr h.texts, rfl⟩
  | flags flags => obtain rfl : flags = c.flags := he; exact ⟨rfl, rfl⟩
  | target target => obtain rfl : target = c.target := he; exact ⟨rfl, rfl⟩
  | mail mail => obtain rfl : mail = c.mail := he; exact ⟨rfl, rfl⟩
  | drafted drafted => obtain rfl : drafted = c.drafted := he; exact ⟨rfl, rfl⟩
  | closed isClosed => obtain rfl : isClosed = c.isClosed := he; exact ⟨rfl, rfl⟩

theorem edits_shown (h : c.Valid) {es : List Edit} (hes : ∀ e ∈ es, c.Shows e) :
    c.edits es = .ok c := by
  induction es with
  | nil => exact edits_nil_ok.mpr rfl
  | cons e rest ih =>
    obtain ⟨hcheck, hsame⟩ := h.edit_shown (hes e List.mem_cons_self)
    refine edits_cons_ok.mpr ⟨hcheck, ?_⟩
    rw [hsame]
    exact ih fun x hx => hes x (List.mem_cons_of_mem e hx)

end Valid

/-- Each schedule is found by its identifier and takes its own dates. -/
theorem redate_input {w : World Tables} (h : Stored w) {c : Campaign}
    (hc : c ∈ w.state.campaigns) {s : Schedule} (hs : s ∈ c.schedules) :
    redate c.schedules s.input = .ok s := by
  have hids := h.scheduleIds hc
  have hgiven : Id.given? s.input.id = some s.id := h.given (hids.issued s.id (List.mem_map_of_mem hs))
  have hfound : c.schedules.find? (fun x => x.id = s.id) = some s := find?_key hids.nodup hs
  have hdates : s.setDates s.opens s.closes = .ok s :=
    Schedule.setDates_ok.mpr ⟨((h.valid.campaigns c hc).schedules s hs).checkDates, rfl⟩
  unfold redate
  simp only [hgiven, hfound]
  exact Except.mapError_ok.mpr hdates

theorem revision_request {w : World Tables} (h : Stored w) {c : Campaign}
    (hc : c ∈ w.state.campaigns) (q : Option Questionnaire) (as : List Assignee) :
    (c.request q as).revision c.item c.variant c = .ok c := by
  have hv := h.valid.campaigns c hc
  have hparts : c.edits [.item c.item, .variant c.variant, .name c.name, .special c.special,
      .flags c.flags, .target c.target, .coupon c.hasCoupon c.banner, .texts c.texts, .mail c.mail,
      .closed c.isClosed] = .ok c := hv.edits_shown (by simp [Shows])
  have hrest : c.edits [.schedules c.schedules, .drafted c.drafted] = .ok c :=
    hv.edits_shown (by simp [Shows])
  have hdates : (c.schedules.map Schedule.input).mapM (redate c.schedules) = .ok c.schedules :=
    Except.mapM_map_ok fun s hs => redate_input h hc hs
  refine Except.bind_ok.mpr ⟨c, Except.mapError_ok.mpr hparts, ?_⟩
  exact Except.bind_ok.mpr ⟨c.schedules, hdates, Except.mapError_ok.mpr hrest⟩

end Campaign

/-! ## The questionnaire -/

theorem Question.Valid.revise {q : Question} (h : q.Valid) : q.revise q.input = .ok q :=
  revise_ok.mpr ⟨h.title, checkOptions_ok.mpr h.options, rfl⟩

theorem Questionnaire.Valid.create {q : Questionnaire} (h : q.Valid) :
    create q.campaign q.description q.questions = .ok q :=
  create_ok.mpr ⟨h.description, checkQuestions_ok.mpr ⟨h.questions, h.titles⟩, rfl⟩

/-- Each question is found by its identifier, which no question before it has claimed. -/
theorem reconciled_inputs (ids : Ids) {old : Keyed QuestionId Question} {qs : List Question}
    (claimed : List QuestionId) (hfound : ∀ q ∈ qs, old.get? q.id = some q)
    (hgiven : ∀ q ∈ qs, Id.given? (some q.id) = some q.id) (hvalid : ∀ q ∈ qs, q.Valid)
    (hd : (qs.map Question.id).Nodup) (hclaimed : ∀ q ∈ qs, q.id ∉ claimed) :
    Idle (Questionnaire.reconciled old claimed (qs.map Question.input)) ids qs := by
  induction qs generalizing claimed with
  | nil => exact .pure
  | cons q rest ih =>
    obtain ⟨hget, hfound⟩ := List.forall_mem_cons.mp hfound
    obtain ⟨hname, hgiven⟩ := List.forall_mem_cons.mp hgiven
    obtain ⟨hq, hvalid⟩ := List.forall_mem_cons.mp hvalid
    obtain ⟨hunclaimed, hclaimed⟩ := List.forall_mem_cons.mp hclaimed
    obtain ⟨hapart, hd⟩ := List.nodup_cons.mp hd
    have hothers := ih (q.id :: claimed) hfound hgiven hvalid hd fun x hx hmem => by
      rcases List.mem_cons.mp hmem with hxq | hmem
      · exact hapart (List.mem_map.mpr ⟨x, hx, hxq⟩)
      · exact hclaimed x hx hmem
    have hid : Id.given? q.input.id = some q.id := hname
    have hfresh : claimed.contains q.id = false := by simpa using hunclaimed
    simp only [List.map_cons, Questionnaire.reconciled, hid, hfresh, hget]
    exact .bind (Minting.idle_obey hq.revise) (.bind hothers .pure)

namespace Stored

variable {w : World Tables} {id : CampaignId}

theorem idle_reconcile (h : Stored w) {q : Questionnaire}
    (hq : w.state.questionnaires.get? id = some q) :
    Idle (q.reconcile q.description (q.questions.map Question.input)) w.ids q := by
  have hv := h.valid.questionnaires _ (Keyed.get?_eq_some_iff.mp hq)
  have hids := h.questionIds hq
  have hkeys : ((q.questions.map fun x => (x.id, x)).map Prod.fst).Nodup := by
    rw [List.map_map]
    exact hids.nodup
  have hquestions := reconciled_inputs w.ids []
    (fun x hx => Keyed.get?_ofList hkeys (List.mem_map_of_mem hx))
    (fun x hx => h.given (hids.issued x.id (List.mem_map_of_mem hx)))
    hv.each hids.nodup fun _ _ => List.not_mem_nil
  exact .bind hquestions (Minting.idle_obey hv.create)

/-- The questionnaire takes its own place; where there is none, there are no answers to delete. -/
theorem idle_reconcileQuestionnaire (h : Stored w) (id : CampaignId) :
    Idle (Store.memory.reconcileQuestionnaire id
      ((w.state.questionnaires.get? id).map Questionnaire.input)) w () := by
  cases hq : w.state.questionnaires.get? id with
  | some q =>
    have hread : Idle (Store.memory.call (.findQuestionnaire id true)) w (some q) :=
      Call.idle (by rw [← hq]; rfl)
    have hwrite : Idle (Store.memory.call (.saveQuestionnaire q)) w () := by
      refine Call.idle ?_
      have hkey : w.state.questionnaires.get? q.campaign = some q := by
        rw [(h.sound.questionnaires id q hq).1]; exact hq
      simp only [Tables.answer, Keyed.insert_self hkey]
    exact .bind hread (.bind (Task.idle_ofMinting (h.idle_reconcile hq)) hwrite)
  | none =>
    have hanswers : Idle (Store.memory.call (.deleteAnswers id)) w () := by
      refine Call.idle ?_
      have hkept : (w.state.answers.filter fun x => x.campaign ≠ id) = w.state.answers := by
        refine List.filter_eq_self.mpr fun x hx => ?_
        have hasked := h.owned.asked x hx
        have hne : x.campaign ≠ id := by
          rintro rfl
          rw [hq] at hasked
          cases hasked
        simpa using hne
      simp only [Tables.answer, hkept]
    have hnone : Idle (Store.memory.call (.deleteQuestionnaire id)) w () := by
      refine Call.idle ?_
      simp only [Tables.answer, Keyed.erase_absent hq]
    exact .bind hanswers hnone

/-! ## The assignees -/

/-- An assignee that waits for a verdict has submitted something. -/
theorem idle_checkSubmission (h : Stored w) {a : Assignee} (ha : a ∈ w.state.assignees) :
    Idle (Store.memory.checkSubmission a.campaign a a.input) w () := by
  unfold Store.checkSubmission
  have hstage : a.input.stage = a.stage := rfl
  rw [hstage]
  cases hkind : Store.neededSubmission a.stage with
  | none => exact .pure
  | some kind =>
    have hsubmitted := h.sound.submitted a ha kind hkind
    obtain ⟨e, he⟩ := Option.isSome_iff_exists.mp (Tables.latestExamination?_isSome.mpr hsubmitted)
    have hread : Idle (Store.memory.call (.latestExamination a.campaign a.id kind false)) w e := by
      refine Call.idle ?_
      simp only [Tables.answer, he, Tables.found]
    exact .tryCatch (.bind hread .pure)

theorem idle_reconcileAssignee (h : Stored w) (now : Instant) {a : Assignee}
    (ha : a ∈ w.state.assignees) :
    Idle (Store.memory.reconcileAssignee now a.campaign (some a) a.input) w () := by
  have hfee : a.setFee a.input.fee = .ok a :=
    Assignee.setFee_ok.mpr ⟨(h.valid.assignees a ha).fee, rfl⟩
  have hwrite : Idle (Store.memory.call (.updateAssignee a)) w () := by
    refine Call.idle ?_
    have hids := h.sound.assignees.nodup
    simp only [Tables.answer, replaceFirst?_key hids (List.mem_map_of_mem ha), amend_self hids ha,
      Option.map_some, Tables.changed]
  exact .bind (h.idle_checkSubmission ha) (.bind (Task.idle_obey hfee) hwrite)

variable {as : List Assignee}

theorem idle_reconcileAssignees (h : Stored w) (now : Instant)
    (has : ∀ a ∈ as, a ∈ w.state.assigneesOf id none) :
    Idle (Store.memory.reconcileAssignees now id (as.map Assignee.input)) w () := by
  have hread : Idle (Store.memory.call (.assigneesAmong id
      ((as.map Assignee.input).map AssigneeInput.blogger) none true)) w
      (w.state.among id ((as.map Assignee.input).map AssigneeInput.blogger) none) := Call.idle rfl
  refine .bind hread (idle_eachOf fun i hi => ?_)
  obtain ⟨a, ha, rfl⟩ := List.mem_map.mp hi
  obtain ⟨hmem, rfl, _⟩ := Tables.mem_assigneesOf.mp (has a ha)
  have hbloggers := h.bloggers a.campaign
  have hlisted : a.input.blogger ∈ (as.map Assignee.input).map AssigneeInput.blogger :=
    List.mem_map_of_mem hi
  have hthere : w.state.participation? a.campaign a.input.blogger = some a :=
    (Tables.participation?_eq_some hbloggers).mpr ⟨hmem, rfl, rfl⟩
  rw [(Tables.get?_among hbloggers hlisted).trans hthere]
  exact h.idle_reconcileAssignee now hmem

/-! ## The whole request -/

variable {c : Campaign}

theorem request_check (h : Stored w) (hc : c ∈ w.state.campaigns)
    (has : as.Subperm (w.state.assigneesOf c.id none)) {cap : Nat} (hcap : as.length ≤ cap)
    (q : Option Questionnaire) : (c.request q as).check cap = .ok () := by
  have hv := h.valid.campaigns c hc
  have hdistinct : (as.map Assignee.blogger).Nodup := by
    obtain ⟨listed, hperm, hsub⟩ := has
    exact (hperm.map _).nodup_iff.mp ((h.bloggers c.id).sublist (hsub.map _))
  refine SaveRequest.check_ok.mpr ⟨hv.item, by simpa [Campaign.request] using hcap, ⟨fun i hi => ?_, ?_⟩,
    (Except.check_ok.mp hv.drafted).1⟩
  · obtain ⟨a, ha, rfl⟩ := List.mem_map.mp hi
    exact (h.valid.assignees a (Tables.mem_assigneesOf.mp (has.subset ha)).1).blogger
  · change ((as.map Assignee.input).map AssigneeInput.blogger).Nodup
    rw [List.map_map]
    exact hdistinct

theorem idle_updateCampaign (h : Stored w) (now : Instant) (hc : c ∈ w.state.campaigns)
    (has : as.Subperm (w.state.assigneesOf c.id none)) :
    Idle (Store.memory.updateCampaign now c.id
      (c.request (w.state.questionnaires.get? c.id) as) c.item c.variant) w () := by
  have hrevision := Campaign.revision_request h hc (w.state.questionnaires.get? c.id) as
  have hnamed := SaveRequest.revision_scheduled hrevision
  have hread : Idle (Store.memory.call (.getCampaign c.id true)) w c :=
    Call.idle_getCampaign (h.campaign? hc)
  have hwrite : Idle (Store.memory.call (.updateCampaign c)) w () := by
    refine Call.idle ?_
    have hids := h.sound.campaigns.nodup
    simp only [Tables.answer, replaceFirst?_key hids (List.mem_map_of_mem hc), amend_self hids hc,
      Option.map_some, Tables.changed]
  refine .bind (Task.idle_obey (demand_ok.mpr hnamed)) (.bind hread ?_)
  refine .bind (Task.idle_ofExcept hrevision) (.bind hwrite ?_)
  exact .bind (h.idle_reconcileQuestionnaire c.id) (h.idle_reconcileAssignees now has.subset)

theorem save_request {w : World Memory} (h : Stored w.unit) (o : Occasion)
    (hc : c ∈ w.state.tables.campaigns)
    (has : as.Subperm (w.state.tables.assigneesOf c.id none)) (hcap : as.length ≤ o.assigneeCap)
    (hcatalog : (o.catalog.get { item := c.item.id, variant := Id.given? (c.variant.map Variant.id) }
      w.state).1 = .ok (c.item, c.variant)) :
    o.service.save (c.request (w.state.tables.questionnaires.get? c.id) as) w =
      (.ok c.id, { ids := w.ids, state := ⟨w.state.tables, w.state.commits + 1⟩ }) := by
  have hcheck := h.request_check hc has hcap (w.state.tables.questionnaires.get? c.id)
  have hunit : Idle (do
      Store.memory.updateCampaign o.now c.id
        (c.request (w.state.tables.questionnaires.get? c.id) as) c.item c.variant
      return c.id) w.unit c.id :=
    .bind (h.idle_updateCampaign o.now hc has) .pure
  refine (Task.idle_obey hcheck).run_bind.trans ?_
  refine (Task.idle_ofState hcatalog (o.detached _ _)).run_bind.trans ?_
  exact transact_of_idle hunit

end Stored

/-- A campaign that is saved as it is stored, with any of its assignees, stays as it is, and so does
everything else. -/
theorem resave_idle (history : List Visit) (o : Occasion) {c : Campaign} {as : List Assignee}
    (hc : c ∈ (World.start.after history).state.tables.campaigns)
    (has : as.Subperm ((World.start.after history).state.tables.assigneesOf c.id none))
    (hcap : as.length ≤ o.assigneeCap)
    (hcatalog : (o.catalog.get { item := c.item.id, variant := Id.given? (c.variant.map Variant.id) }
      (World.start.after history).state).1 = .ok (c.item, c.variant)) :
    o.service.run (.save (c.request
        ((World.start.after history).state.tables.questionnaires.get? c.id) as))
      (World.start.after history) =
      (.ok (.saved c.id), { ids := (World.start.after history).ids
                            state := ⟨(World.start.after history).state.tables,
                              (World.start.after history).state.commits + 1⟩ }) := by
  change (Outcome.saved <$> o.service.save _ : Task Memory Outcome) _ = _
  rw [run_map, (stored_after history).save_request o hc has hcap hcatalog]
  rfl

/-- A campaign that asks two questions and has two assignees, one of whom waits for a verdict. -/
def examinedCourse : List Visit :=
  [visitAt 0 (.save { reviewingRequest with
      questionnaire := some { description := "about", questions :=
        [⟨none, .text, "first", "", []⟩, ⟨none, .radio, "second", "", ["yes", "no"]⟩] }
      assignees := [{ blogger := ⟨"blogger"⟩, stage := .beforeInvitation },
        { blogger := ⟨"other"⟩, stage := .beforeInvitation }] }),
    visitAt 1 (.invite ⟨"id-0001"⟩),
    visitAt 2 (.answerInvitation ⟨"id-0001"⟩ ⟨"blogger"⟩ true
      (Keyed.ofList [(⟨"id-0005"⟩, "one"), (⟨"id-0006"⟩, "no")])),
    visitAt 3 (.submit ⟨"id-0001"⟩ ⟨"blogger"⟩ .entry (some ⟨"entry"⟩))]

/-- Any command of another day, for its occasion. -/
def anotherDay : Occasion := (visitAt 4 (.invite ⟨"id-0001"⟩)).toOccasion

theorem resave_idle_of_examinedCourse :
    ∃ c ∈ (World.start.after examinedCourse).state.tables.campaigns, ∃ q as,
      (World.start.after examinedCourse).state.tables.questionnaires.get? c.id = some q ∧
      as.map Assignee.stage = [.examination] ∧
      anotherDay.service.run (.save (c.request (some q) as)) (World.start.after examinedCourse) =
        (.ok (.saved c.id), { ids := (World.start.after examinedCourse).ids
                              state := ⟨(World.start.after examinedCourse).state.tables, 5⟩ }) := by
  have hthere : ∃ c ∈ (World.start.after examinedCourse).state.tables.campaigns,
      c.item = .placeholder ⟨"item"⟩ ∧ c.variant = none ∧
      ((World.start.after examinedCourse).state.tables.questionnaires.get? c.id).isSome ∧
      (((World.start.after examinedCourse).state.tables.assigneesOf c.id none).filter fun a =>
        a.stage = .examination).map Assignee.stage = [.examination] := by decide +kernel
  have hcommits : (World.start.after examinedCourse).state.commits = 4 := by decide +kernel
  obtain ⟨c, hc, hitem, hvariant, hasked, hstages⟩ := hthere
  obtain ⟨q, hq⟩ := Option.isSome_iff_exists.mp hasked
  have hcount := congrArg List.length hstages
  rw [List.length_map] at hcount
  have hcap : 1 ≤ anotherDay.assigneeCap := by decide
  have hrun := resave_idle examinedCourse anotherDay hc List.filter_sublist.subperm
    (hcount.trans_le hcap) (by rw [hitem, hvariant]; rfl)
  rw [hq, hcommits] at hrun
  exact ⟨c, hc, q, _, hq, hstages, hrun⟩

end Sponsorship
