import Sponsorship.Proofs.Effect

/-!
# Sponsorship.Proofs.Validity

Every row of the tables keeps the rules for its kind.

* `Campaign.Valid`, `Questionnaire.Valid`, `Assignee.Valid`, `Examination.Valid`: the rules, in terms
  of what a row says and not of how it is checked.
* `Tables.Valid`: all rows keep them.
* `committed_rows_valid`: that is so after every history.
-/

namespace Sponsorship

open Time Text

/-! ## Rules -/

/-- The dates suit the kind, and the last does not come before the first. -/
structure Schedule.Valid (s : Schedule) : Prop where
  ordered : ∀ first last, s.opens = some first → s.closes = some last → last.before first = false
  suited : match s.kind with
    | .payment => s.opens = none ∧ s.closes ≠ none
    | .invitation | .articlePosting => s.opens ≠ none ∧ s.closes ≠ none
    | _ => s.opens = none ↔ s.closes = none

structure Campaign.Valid (c : Campaign) : Prop where
  name : c.name ≠ ""
  texts : c.texts.productFeatures ≠ "" ∧ c.texts.cautionaryPoints ≠ "" ∧
    c.texts.referenceInfo ≠ "" ∧ c.texts.otherInfo ≠ ""
  item : c.item.id.text ≠ ""
  banner : ∀ b, c.banner = some b → c.hasCoupon = true ∧ b.text ≠ ""
  special : c.special.check c.item.minimum.kind = .ok ()
  kinds : (c.schedules.map Schedule.kind).Nodup
  obligatory : ∀ k ∈ [ScheduleKind.invitation, .articlePosting, .payment],
    ∃ s ∈ c.schedules, s.kind = k
  schedules : ∀ s ∈ c.schedules, s.Valid
  drafted : c.drafted.create = .ok c.drafted
  pickInfo : c.pickInfo = .derive c.item c.variant c.banner

structure Question.Valid (q : Question) : Prop where
  title : q.title ≠ ""
  options : match q.kind with
    | .radio => q.options ≠ [] ∧ q.options.Nodup
    | .text => q.options = []

structure Questionnaire.Valid (q : Questionnaire) : Prop where
  description : q.description ≠ ""
  questions : q.questions ≠ []
  titles : (q.questions.map Question.title).Nodup
  each : ∀ x ∈ q.questions, x.Valid

structure Assignee.Valid (a : Assignee) : Prop where
  blogger : a.blogger.text ≠ ""
  fee : 0 ≤ a.fee
  reason : ∀ r, a.declineReason = some r → r ≠ "" ∧ clusterCount r ≤ maxDeclineReason

/-- There is an entry, a verdict has an examiner, and a rejection has a reason. -/
structure Examination.Valid (e : Examination) : Prop where
  entry : ∃ x, e.entry = some x ∧ x.text ≠ ""
  unjudged : e.passed = none → e.examiner = none ∧ e.reason = none
  judged : e.passed ≠ none → e.examiner ≠ none
  rejected : e.passed = some false → ∃ r, e.reason = some r ∧ r ≠ ""

/-- All rows keep the rules. -/
structure Tables.Valid (t : Tables) : Prop where
  campaigns : ∀ c ∈ t.campaigns, c.Valid
  questionnaires : ∀ e ∈ t.questionnaires.entries, e.2.Valid
  assignees : ∀ a ∈ t.assignees, a.Valid
  examinations : ∀ e ∈ t.examinations, e.Valid

/-! ## What is made keeps the rules -/

theorem Schedule.valid_of_checkDates {s : Schedule}
    (h : checkDates s.kind s.opens s.closes = .ok ()) : s.Valid := by
  obtain ⟨hordered, hsuits⟩ := checkDates_ok.mp h
  constructor
  · intro first last hopens hcloses
    rw [hopens, hcloses] at hordered
    exact hordered
  · revert hsuits
    cases s.kind <;> cases s.opens <;> cases s.closes <;> simp [suits]

theorem ScheduleInput.valid_schedule {i : ScheduleInput} {ids ids' : Ids} {s : Schedule}
    (h : i.schedule ids = (.ok s, ids')) : s.Valid := by
  obtain ⟨_, _, hid, hcreate⟩ := Minting.bind_ok.mp h
  obtain ⟨hcheck, rfl⟩ := Schedule.create_ok.mp (Minting.obey_ok.mp hcreate).1
  exact Schedule.valid_of_checkDates hcheck

theorem valid_redate {old : List Schedule} {i : ScheduleInput} {s : Schedule}
    (h : redate old i = .ok s) : s.Valid := by
  unfold redate at h
  split at h
  · cases h
  · split at h
    · cases h
    · obtain ⟨hcheck, rfl⟩ := Schedule.setDates_ok.mp (Except.mapError_ok.mp h)
      exact Schedule.valid_of_checkDates hcheck

theorem valid_of_mapM_redate {old : List Schedule} {is : List ScheduleInput} {ss : List Schedule}
    (h : is.mapM (redate old) = .ok ss) : ∀ s ∈ ss, s.Valid := by
  intro s hs
  obtain ⟨i, _, hi⟩ := Except.mapM_ok h s hs
  exact valid_redate hi

theorem Campaign.valid_of_create {id : CampaignId} {d : CampaignDetails} {now : Instant}
    {c : Campaign} (h : create id d now = .ok c) (hs : ∀ s ∈ d.schedules, s.Valid)
    (hd : d.drafted.check = .ok ()) : c.Valid := by
  obtain ⟨hname, htexts, hitem, hcoupon, hspecial, hset, rfl⟩ := create_ok.mp h
  obtain ⟨hkinds, hobligatory⟩ := Schedule.checkSet_ok hset
  exact {
    name := hname
    texts := OfferTexts.check_ok.mp htexts
    item := checkItem_ok.mp hitem
    banner := checkCoupon_ok.mp hcoupon
    special := hspecial
    kinds := hkinds
    obligatory := fun k hk => List.mem_map.mp (hobligatory k hk)
    schedules := hs
    drafted := Except.check_ok.mpr ⟨hd, rfl⟩
    pickInfo := rfl }

theorem Question.Settled.valid {q : Question} (h : q.Settled) : q.Valid := by
  cases h with
  | posed h =>
    obtain ⟨htitle, hoptions, rfl⟩ := create_ok.mp h
    exact ⟨htitle, checkOptions_ok.mp hoptions⟩
  | revised h =>
    obtain ⟨htitle, hoptions, rfl⟩ := revise_ok.mp h
    exact ⟨htitle, checkOptions_ok.mp hoptions⟩

theorem Questionnaire.valid_of_create {id : CampaignId} {description : String}
    {questions : List Question} {q : Questionnaire}
    (h : create id description questions = .ok q) (hs : ∀ x ∈ questions, x.Settled) : q.Valid := by
  obtain ⟨hdescription, hquestions, rfl⟩ := create_ok.mp h
  obtain ⟨hne, htitles⟩ := checkQuestions_ok.mp hquestions
  exact ⟨hdescription, hne, htitles, fun x hx => (hs x hx).valid⟩

namespace Assignee

variable {a a' : Assignee}

theorem Valid.after (h : a.Valid) (m : Move) : (a.after m).Valid := by
  unfold Assignee.after
  split
  · split
    · exact ⟨h.blogger, h.fee, h.reason⟩
    · exact ⟨h.blogger, h.fee, h.reason⟩
  · exact ⟨h.blogger, h.fee, h.reason⟩

theorem Valid.decline (h : a.Valid) {reason : String} (hd : a.decline reason = .ok a') :
    a'.Valid := by
  obtain ⟨hne, hshort, rfl⟩ := decline_ok.mp hd
  refine ⟨h.blogger, h.fee, fun r hr => ?_⟩
  cases hr
  exact ⟨hne, hshort⟩

end Assignee

theorem Id.given?_isSome {kind : Named} {id : Option (Id kind)} (h : (given? id).isSome = true) :
    ∃ x, id = some x ∧ x.text ≠ "" := by
  cases id with
  | none => cases h
  | some x =>
    refine ⟨x, rfl, Id.isBlank_eq_false.mp ?_⟩
    by_contra hblank
    rw [Bool.not_eq_false] at hblank
    simp [given?, Option.filter, hblank] at h

namespace Examination

variable {e e' : Examination}

theorem Valid.judge (h : e.Valid) {v : Verdict} (hj : e.judge v = .ok e') : e'.Valid := by
  obtain ⟨hgrounds, rfl⟩ := judge_ok.mp hj
  refine ⟨h.entry, fun hn => (by cases hn), fun _ hn => (by cases hn), fun hp => ?_⟩
  rcases hgrounds with hpassed | hreason
  · rw [Option.some.injEq] at hp; rw [hp] at hpassed; cases hpassed
  · exact hreason

/-- The count of submissions is not subject to a rule. -/
theorem Valid.recount (h : e.Valid) (n : Nat) : ({ e with submissions := n } : Examination).Valid :=
  ⟨h.entry, h.unjudged, h.judged, h.rejected⟩

end Examination

/-! ## Writes -/

namespace Tables.Valid

variable {t : Tables}

theorem empty : Tables.Valid {} where
  campaigns _ h := by cases h
  questionnaires _ h := by cases h
  assignees _ h := by cases h
  examinations _ h := by cases h

theorem putCampaign (h : t.Valid) {c : Campaign} (hc : c.Valid) : (t.putCampaign c).Valid := by
  refine { h with campaigns := fun x hx => ?_ }
  rcases mem_amend.mp hx with ⟨hx, _⟩ | ⟨_, _, _, rfl⟩
  · exact h.campaigns x hx
  · exact hc

theorem putAssignee (h : t.Valid) {a : Assignee} (ha : a.Valid) : (t.putAssignee a).Valid := by
  refine { h with assignees := fun x hx => ?_ }
  rcases mem_amend.mp hx with ⟨hx, _⟩ | ⟨_, _, _, rfl⟩
  · exact h.assignees x hx
  · exact ha

theorem putExamination (h : t.Valid) {e : Examination} (he : e.Valid) :
    (t.putExamination e).Valid := by
  refine { h with examinations := fun x hx => ?_ }
  rcases mem_amend.mp hx with ⟨hx, _⟩ | ⟨o, _, _, rfl⟩
  · exact h.examinations x hx
  · exact he.recount o.submissions

theorem addExamination (h : t.Valid) {e : Examination} (he : e.Valid) :
    (t.addExamination e).Valid :=
  { h with examinations := List.forall_mem_append.mpr ⟨h.examinations, by simpa using he⟩ }

theorem latestExamination (h : t.Valid) {id : CampaignId} {a : AssigneeId} {kind : EntryKind}
    {e : Examination} (he : t.latestExamination? id a kind = some e) : e.Valid := by
  obtain ⟨o, n, ho, rfl⟩ := latestExamination?_mem he
  exact (h.examinations o (mem_submissions.mp (latest?_mem ho)).1).recount n

theorem advancing {w w' : World Tables} {now : Instant} {id : CampaignId} (h : w.state.Valid)
    (hs : Advancing now id w w') : w'.state.Valid := by
  cases hs with
  | moves hc ha hid hm hs => exact h.putAssignee ((h.assignees _ ha).after _)
  | answers hq ha hid hs hsheet => rw [saveAnswers_eq]; exact { h with }
  | declines ha hid hd => exact h.putAssignee ((h.assignees _ ha).decline hd)
  | finishes hc ha hid =>
    have := h.assignees _ ha
    exact h.putAssignee ⟨this.blogger, this.fee, this.reason⟩
  | closes hc =>
    have := h.campaigns _ (campaign?_mem hc).1
    exact h.putCampaign { this with }
  | submits hc ha hid hs he =>
    refine (h.addExamination ?_).putAssignee ((h.assignees _ ha).after _)
    obtain ⟨hentry, rfl⟩ := Examination.submit_ok.mp he
    exact ⟨Id.given?_isSome hentry, fun _ => ⟨rfl, rfl⟩, fun hn => absurd rfl hn,
      fun hp => by cases hp⟩
  | judges ha hid hs he hj =>
    exact (h.putExamination ((h.latestExamination he).judge hj)).putAssignee
      ((h.assignees _ ha).after _)
  | deletes =>
    exact {
      campaigns := fun c hc => h.campaigns c (List.mem_filter.mp hc).1
      questionnaires := fun e he => h.questionnaires e (List.mem_filter.mp he).1
      assignees := fun a ha => h.assignees a (List.mem_filter.mp ha).1
      examinations := fun e he => h.examinations e (List.mem_filter.mp he).1 }

theorem saving {w w' : World Tables} {now : Instant} {r : SaveRequest} {id : CampaignId}
    (hw : Sound w) (h : w.state.Valid) (hs : Saving now r id w w') : w'.state.Valid := by
  cases hs with
  | opens hr hopen hid =>
    obtain ⟨schedules, hschedules, hcreate⟩ := SaveRequest.opening_ok hopen
    have hc := Campaign.valid_of_create hcreate
      (Minting.mapM_ok (fun _ _ _ _ => ScheduleInput.valid_schedule) hschedules) hr
    exact { h with campaigns := List.forall_mem_append.mpr ⟨h.campaigns, by simpa using hc⟩ }
  | revises hr hc hrev =>
    obtain ⟨schedules, hschedules, hcreate⟩ := SaveRequest.revision_ok hrev
    exact h.putCampaign (Campaign.valid_of_create hcreate (valid_of_mapM_redate hschedules) hr)
  | poses hasked hc hmade =>
    obtain ⟨questions, hcreate, hsettled⟩ := QuestionnaireInput.renewal_ok
      (fun o ho => (hw.questionnaires _ o ho).1) hmade
    have hq := Questionnaire.valid_of_create hcreate hsettled
    refine { h with questionnaires := fun e he => ?_ }
    rcases Keyed.mem_insert he with rfl | he
    · exact hq
    · exact h.questionnaires e he
  | withdraws hq hc =>
    exact { h with questionnaires := fun e he => h.questionnaires e (List.mem_filter.mp he).1 }
  | enrols hi hkept hc hfree henrol =>
    obtain ⟨_, hcreate, _⟩ := AssigneeInput.enrolment_ok henrol
    obtain ⟨hblogger, hfee, rfl⟩ := Assignee.create_ok.mp hcreate
    refine { h with assignees := List.forall_mem_append.mpr ⟨h.assignees, fun x hx => ?_⟩ }
    rw [List.mem_singleton.mp hx]
    exact ⟨hblogger, hfee, fun r hr => by cases hr⟩
  | expels hi hgone hb ha hid hs =>
    exact { h with assignees := fun x hx => h.assignees x (List.mem_filter.mp hx).1 }
  | places hi hkept hb ha hid hneed hfee =>
    obtain ⟨hpositive, rfl⟩ := Assignee.setFee_ok.mp hfee
    have := h.assignees _ ha
    exact h.putAssignee ⟨this.blogger, hpositive, this.reason⟩

end Tables.Valid

theorem kept_valid : Kept Tables.Valid :=
  ⟨fun _ h hs => h.advancing hs, fun hw h hs => h.saving hw hs⟩

/-- After every history every row that is there keeps the rules for its kind. -/
theorem committed_rows_valid (history : List Visit) :
    (World.start.after history).state.tables.Valid :=
  kept_valid.after .empty history

end Sponsorship
