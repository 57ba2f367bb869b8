import Mathlib.Data.List.Perm.Subperm
import Sponsorship.Proofs.Ends

/-!
# Sponsorship.Proofs.Rules

What the rules of the domain say: when a check passes, and what is made then.

* `OfferTexts.check_ok`, `checkCoupon_ok`, `Schedule.checkDates_ok`, `Schedule.checkSet_ok`,
  `Question.checkOptions_ok`, `Questionnaire.checkQuestions_ok`: checks.
* `Campaign.create_ok`, `Assignee.create_ok`, `Examination.judge_ok` and their kin: what is made.
-/

namespace Sponsorship

open Time Text

theorem Id.isBlank_eq_false {kind : Named} {id : Id kind} : id.isBlank = false ↔ id.text ≠ "" := by
  unfold isBlank
  rw [← Bool.not_eq_true, String.isEmpty_iff]

theorem Id.given?_eq_some {kind : Named} {x : Id kind} (h : x.text ≠ "") :
    given? (some x) = some x := by
  simp [given?, Option.filter, isBlank_eq_false.mpr h]

/-! ## Campaigns -/

theorem OfferTexts.check_ok {t : OfferTexts} : t.check = .ok () ↔ t.productFeatures ≠ "" ∧
    t.cautionaryPoints ≠ "" ∧ t.referenceInfo ≠ "" ∧ t.otherInfo ≠ "" := by
  simp only [check, Except.check_ok, requireText_ok]

theorem checkItem_ok {i : Item} : checkItem i = .ok () ↔ i.id.text ≠ "" := by
  rw [checkItem, demand_ok, Bool.not_eq_true', Id.isBlank_eq_false]

theorem checkCoupon_ok {hasCoupon : Bool} {banner : Option BannerId} :
    checkCoupon hasCoupon banner = .ok () ↔
      ∀ b, banner = some b → hasCoupon = true ∧ b.text ≠ "" := by
  cases banner with
  | none => simp [checkCoupon]
  | some b =>
    simp only [checkCoupon, Except.check_ok, demand_ok, Bool.not_eq_true',
      Id.isBlank_eq_false, Option.some.injEq, forall_eq']

namespace Schedule

theorem checkDates_ok {kind : ScheduleKind} {opens closes : Option Instant} :
    checkDates kind opens closes = .ok () ↔
      reversed opens closes = false ∧ suits kind opens closes = true := by
  simp only [checkDates, Except.check_ok, demand_ok, Bool.not_eq_true']

/-- The count of the schedules follows from their kinds, so it is never what a check fails on: kinds
that do not repeat are at most all there are, and those that are asked for are enough. -/
theorem checkSet_eq (ss : List Schedule) : checkSet ss =
    match firstRepeat? [] (ss.map kind) with
    | some k => .error (.scheduleRepeated k)
    | none =>
      match ScheduleKind.obligatory.find? fun k => !(ss.map kind).contains k with
      | some k => .error (.scheduleLacking k)
      | none => .ok () := by
  cases hrepeat : firstRepeat? [] (ss.map kind) with
  | some k =>
    simp only [checkSet, hrepeat]
    rfl
  | none =>
    cases hlack : ScheduleKind.obligatory.find? fun k => !(ss.map kind).contains k with
    | some k =>
      simp only [checkSet, hrepeat, hlack]
      rfl
    | none =>
      have hd : (ss.map kind).Nodup := firstRepeat?_nil_eq_none_iff.mp hrepeat
      have ho : ∀ k ∈ ScheduleKind.obligatory, k ∈ ss.map kind :=
        fun k hk => by simpa using List.find?_eq_none.mp hlack k hk
      have hlow : ScheduleKind.obligatory.length ≤ (ss.map kind).length :=
        (List.Nodup.subperm (by decide) ho).length_le
      have hhigh : (ss.map kind).length ≤ (words (α := ScheduleKind)).length := by
        refine (hd.subperm fun k _ => ?_).length_le
        cases k <;> decide
      rw [List.length_map] at hlow hhigh
      simp only [checkSet, hrepeat, hlack]
      exact demand_ok.mpr (by simp [hlow, hhigh])

theorem checkSet_ok {ss : List Schedule} (h : checkSet ss = .ok ()) :
    (ss.map kind).Nodup ∧ ∀ k ∈ ScheduleKind.obligatory, k ∈ ss.map kind := by
  rw [checkSet_eq] at h
  split at h
  · cases h
  · rename_i hrepeat
    split at h
    · cases h
    · rename_i hlack
      refine ⟨firstRepeat?_nil_eq_none_iff.mp hrepeat, fun k hk => ?_⟩
      simpa using List.find?_eq_none.mp hlack k hk

theorem checkSet_of_kinds {ss : List Schedule} (hd : (ss.map kind).Nodup)
    (ho : ∀ k ∈ ScheduleKind.obligatory, k ∈ ss.map kind) : checkSet ss = .ok () := by
  have hrepeat := firstRepeat?_nil_eq_none_iff.mpr hd
  have hlack : (ScheduleKind.obligatory.find? fun k => !(ss.map kind).contains k) = none :=
    List.find?_eq_none.mpr fun k hk => by simpa using ho k hk
  rw [checkSet_eq]
  simp only [hrepeat, hlack]

theorem create_ok {id : ScheduleId} {kind : ScheduleKind} {opens closes : Option Instant}
    {s : Schedule} : create id kind opens closes = .ok s ↔
      checkDates kind opens closes = .ok () ∧ s = { id, kind, opens, closes } := by
  simp only [create, Except.check_ok, Except.pure_ok, eq_comm (a := s)]

theorem setDates_ok {s s' : Schedule} {opens closes : Option Instant} :
    s.setDates opens closes = .ok s' ↔
      checkDates s.kind opens closes = .ok () ∧ s' = { s with opens, closes } := by
  simp only [setDates, Except.check_ok, Except.pure_ok, eq_comm (a := s')]

end Schedule

theorem Campaign.create_ok {id : CampaignId} {d : CampaignDetails} {now : Instant} {c : Campaign} :
    create id d now = .ok c ↔ d.name ≠ "" ∧ d.texts.check = .ok () ∧ checkItem d.item = .ok () ∧
      checkCoupon d.hasCoupon d.banner = .ok () ∧ d.special.check d.item.minimum.kind = .ok () ∧
      Schedule.checkSet d.schedules = .ok () ∧ c = restore id d now := by
  simp only [create, Except.check_ok, requireText_ok, Except.pure_ok, eq_comm (a := c)]

namespace Campaign

variable {c c' : Campaign}

theorem edit_ok {e : Edit} : c.edit e = .ok c' ↔ checkEdit c.item e = .ok () ∧ c' = c.changed e := by
  rw [edit, Except.check_ok, Except.pure_ok, eq_comm (a := c')]

theorem edits_nil_ok : c.edits [] = .ok c' ↔ c' = c := by
  rw [edits, List.foldlM_nil, Except.pure_ok, eq_comm]

theorem edits_cons_ok {e : Edit} {es : List Edit} : c.edits (e :: es) = .ok c' ↔
    checkEdit c.item e = .ok () ∧ (c.changed e).edits es = .ok c' := by
  rw [edits, List.foldlM_cons, Except.bind_ok]
  simp only [edit_ok]
  constructor
  · rintro ⟨_, ⟨he, rfl⟩, h⟩; exact ⟨he, h⟩
  · rintro ⟨he, h⟩; exact ⟨_, ⟨he, rfl⟩, h⟩

end Campaign

/-- A campaign that is brought in line with a request keeps every rule, as a new one would, but it
keeps its identifier and its date. -/
theorem SaveRequest.revision_ok {r : SaveRequest} {item : Item} {variant : Option Variant}
    {c c' : Campaign} (h : r.revision item variant c = .ok c') :
    ∃ schedules, r.schedules.mapM (redate c.schedules) = .ok schedules ∧
      Campaign.create c.id (r.details item variant schedules) c.createdAt = .ok c' := by
  obtain ⟨c₁, h₁, h⟩ := Except.bind_ok.mp h
  obtain ⟨schedules, hs, h₂⟩ := Except.bind_ok.mp h
  simp only [Except.mapError_ok, Campaign.edits_cons_ok, Campaign.edits_nil_ok] at h₁ h₂
  obtain ⟨hitem, -, hname, hspecial, -, -, hcoupon, htexts, -, -, rfl⟩ := h₁
  obtain ⟨hset, -, rfl⟩ := h₂
  refine ⟨schedules, hs, Campaign.create_ok.mpr ?_⟩
  exact ⟨requireText_ok.mp hname, htexts, hitem, hcoupon, hspecial, hset, rfl⟩

theorem SaveRequest.revision_id {r : SaveRequest} {item : Item} {variant : Option Variant}
    {c c' : Campaign} (h : r.revision item variant c = .ok c') : c'.id = c.id := by
  obtain ⟨_, _, hcreate⟩ := revision_ok h
  obtain ⟨_, _, _, _, _, _, rfl⟩ := Campaign.create_ok.mp hcreate
  rfl

/-- A schedule that a request names keeps its identifier and its kind. -/
theorem redate_ok {old : List Schedule} {i : ScheduleInput} {s : Schedule}
    (h : redate old i = .ok s) :
    ∃ o, old.find? (fun x => x.id = s.id) = some o ∧ s.id = o.id ∧ s.kind = o.kind := by
  unfold redate at h
  split at h
  · cases h
  · rename_i id hid
    split at h
    · cases h
    · rename_i o ho
      obtain ⟨_, rfl⟩ := Schedule.setDates_ok.mp (Except.mapError_ok.mp h)
      have hoid : o.id = id := by simpa using List.find?_some ho
      refine ⟨o, ?_, rfl, rfl⟩
      rw [← ho]
      simp only [hoid]

/-- Every schedule that a revision takes is named. -/
theorem SaveRequest.revision_scheduled {r : SaveRequest} {item : Item} {variant : Option Variant}
    {c c' : Campaign} (h : r.revision item variant c = .ok c') :
    (r.schedules.all fun i => (Id.given? i.id).isSome) = true := by
  obtain ⟨schedules, hdates, _⟩ := revision_ok h
  rw [List.all_eq_true]
  intro i hi
  obtain ⟨s, hs⟩ := Except.mapM_isOk_iff.mp ⟨schedules, hdates⟩ i hi
  unfold redate at hs
  split at hs
  · cases hs
  · rename_i hid
    rw [hid]
    rfl

/-! ## Questionnaires -/

theorem Question.checkOptions_ok {kind : QuestionKind} {options : List String} :
    checkOptions kind options = .ok () ↔
      match kind with
      | .radio => options ≠ [] ∧ options.Nodup
      | .text => options = [] := by
  cases kind with
  | radio =>
    simp only [checkOptions, Except.check_ok, demand_ok, Bool.not_eq_true',
      List.isEmpty_eq_false_iff, Option.isNone_iff_eq_none, firstRepeat?_nil_eq_none_iff]
  | text => simp only [checkOptions, demand_ok, List.isEmpty_iff]

theorem Question.create_ok {id : QuestionId} {kind : QuestionKind} {title imageUrl : String}
    {options : List String} {q : Question} : create id kind title imageUrl options = .ok q ↔
      title ≠ "" ∧ checkOptions kind options = .ok () ∧
      q = { id, kind, title, imageUrl, options } := by
  simp only [create, Except.check_ok, requireText_ok, Except.pure_ok, eq_comm (a := q)]

theorem Question.revise_ok {q q' : Question} {i : QuestionInput} : q.revise i = .ok q' ↔
    i.title ≠ "" ∧ checkOptions i.kind i.options = .ok () ∧
      q' = { id := q.id, kind := i.kind, title := i.title, imageUrl := i.imageUrl,
             options := i.options } := by
  rw [revise, Except.bind_ok]
  simp only [setTitle, setOptions, setImageUrl, Except.check_ok, requireText_ok, Except.pure_ok,
    eq_comm (a := q')]
  constructor
  · rintro ⟨_, ⟨ht, rfl⟩, ho, rfl⟩; exact ⟨ht, ho, rfl⟩
  · rintro ⟨ht, ho, rfl⟩; exact ⟨_, ⟨ht, rfl⟩, ho, rfl⟩

theorem Questionnaire.checkQuestions_ok {qs : List Question} : checkQuestions qs = .ok () ↔
    qs ≠ [] ∧ (qs.map Question.title).Nodup := by
  unfold checkQuestions
  rw [Except.check_ok, demand_ok, Bool.not_eq_true', List.isEmpty_eq_false_iff]
  refine and_congr_right fun _ => ?_
  rw [← firstRepeat?_nil_eq_none_iff]
  cases firstRepeat? [] (qs.map Question.title) with
  | none => exact ⟨fun _ => rfl, fun _ => rfl⟩
  | some title => constructor <;> intro h <;> cases h

theorem Questionnaire.create_ok {campaign : CampaignId} {description : String}
    {questions : List Question} {q : Questionnaire} :
    create campaign description questions = .ok q ↔ description ≠ "" ∧
      checkQuestions questions = .ok () ∧ q = { campaign, description, questions } := by
  simp only [create, checkDescription, Except.check_ok, requireText_ok, Except.pure_ok,
    eq_comm (a := q)]

/-! ## Assignees and examinations -/

namespace Assignee

variable {a a' : Assignee}

theorem create_ok {id : AssigneeId} {campaign : CampaignId} {blogger : BloggerId} {fee : Int}
    {stage : Stage} {now : Instant} : create id campaign blogger fee stage now = .ok a ↔
      blogger.text ≠ "" ∧ 0 ≤ fee ∧
      a = { id, campaign, blogger, fee, stage, declineReason := none, createdAt := now,
            shippingData := [], janCode := none } := by
  simp only [create, checkFee, Except.check_ok, demand_ok, Bool.not_eq_true',
    Id.isBlank_eq_false, decide_eq_true_eq, Except.pure_ok, eq_comm (a := a)]

theorem setFee_ok {fee : Int} : a.setFee fee = .ok a' ↔ 0 ≤ fee ∧ a' = { a with fee } := by
  simp only [setFee, checkFee, Except.check_ok, demand_ok, decide_eq_true_eq,
    Except.pure_ok, eq_comm (a := a')]

theorem decline_ok {reason : String} : a.decline reason = .ok a' ↔
    reason ≠ "" ∧ clusterCount reason ≤ maxDeclineReason ∧
      a' = { a with declineReason := some reason, stage := .done } := by
  simp only [decline, Except.check_ok, requireText_ok, demand_ok, decide_eq_true_eq,
    Except.pure_ok, eq_comm (a := a')]

theorem move_ok {m : Move} : a.move m = .ok a' ↔ a.stage ∈ m.sources ∧ a' = a.after m := by
  simp only [move, Except.check_ok, demand_ok, List.contains_iff_mem, Except.pure_ok,
    eq_comm (a := a')]

end Assignee

theorem checkNewAssignee_ok {i : AssigneeInput} : checkNewAssignee i = .ok () ↔
    Store.neededSubmission i.stage = none := by
  rw [checkNewAssignee, demand_ok]
  cases i.stage <;> simp [Store.neededSubmission]

theorem checkListed_ok {seen : List BloggerId} {is : List AssigneeInput} :
    checkListed seen is = .ok () ↔ (∀ i ∈ is, i.blogger.text ≠ "") ∧
      (is.map AssigneeInput.blogger).Nodup ∧ ∀ i ∈ is, i.blogger ∉ seen := by
  induction is generalizing seen with
  | nil => simp [checkListed]
  | cons i rest ih =>
    simp only [checkListed, Except.check_ok, demand_ok, Bool.not_eq_true', Id.isBlank_eq_false, ih,
      List.forall_mem_cons, List.map_cons, List.nodup_cons, List.contains_eq_mem,
      decide_eq_false_iff_not]
    simp only [List.mem_cons, List.mem_map, not_or]
    constructor
    · rintro ⟨hi, hseen, hblank, hd, hrest⟩
      refine ⟨⟨hi, hblank⟩, ⟨?_, hd⟩, hseen, fun j hj => (hrest j hj).2⟩
      rintro ⟨j, hj, hji⟩
      exact (hrest j hj).1 hji
    · rintro ⟨⟨hi, hblank⟩, ⟨hnot, hd⟩, hseen, hrest⟩
      exact ⟨hi, hseen, hblank, hd, fun j hj => ⟨fun hji => hnot ⟨j, hj, hji⟩, hrest j hj⟩⟩

theorem SaveRequest.check_ok {r : SaveRequest} {cap : Nat} : r.check cap = .ok () ↔
    r.item.text ≠ "" ∧ r.assignees.length ≤ cap ∧ ((∀ i ∈ r.assignees, i.blogger.text ≠ "") ∧
      (r.assignees.map AssigneeInput.blogger).Nodup) ∧ r.drafted.check = .ok () := by
  simp only [check, Except.check_ok, demand_ok, Bool.not_eq_true', Id.isBlank_eq_false,
    decide_eq_true_eq, checkListed_ok, List.not_mem_nil, not_false_eq_true, implies_true, and_true]

namespace Examination

variable {e e' : Examination}

theorem submit_ok {id : ExaminationId} {campaign : CampaignId} {assignee : AssigneeId}
    {blogger : BloggerId} {kind : EntryKind} {entry : Option EntryId} {now : Instant} :
    submit id campaign assignee blogger kind entry now = .ok e ↔
      (Id.given? entry).isSome = true ∧
      e = { id, campaign, assignee, blogger, kind, entry, passed := none, examiner := none,
            reason := none, createdAt := now, submissions := 0 } := by
  simp only [submit, Except.check_ok, demand_ok, Except.pure_ok, eq_comm (a := e)]

theorem judge_ok {v : Verdict} : e.judge v = .ok e' ↔
    (v.passed = true ∨ ∃ reason, v.reason = some reason ∧ reason ≠ "") ∧
      e' = { e with passed := some v.passed, examiner := some v.examiner, reason := v.reason } := by
  have hreason : (v.reason.filter fun r => !r.isEmpty).isSome = true ↔
      ∃ reason, v.reason = some reason ∧ reason ≠ "" := by
    cases v.reason with
    | none => simp
    | some reason => simp [Option.filter]
  simp only [judge, Except.check_ok, demand_ok, Bool.or_eq_true, hreason,
    Except.pure_ok, eq_comm (a := e')]

end Examination

end Sponsorship
