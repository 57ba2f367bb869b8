import Sponsorship.Proofs.Attempts
import Sponsorship.Proofs.Transition

/-!
# Sponsorship.Proofs.Workflow

The stages that an assignee comes to in a campaign with given flags, and what it has to go through
first.

* `Action`, `Assignee.act`: everything that is done with an assignee, overrides apart.
* `Move.Heeds`: the step is the one that a campaign with these flags takes.
* `Stage.occurs`: the stages that the flags provide for; every step keeps to them
  (`Move.Heeds.occurs`).
* `Milestone`: what may have to be gone through, with the stages that lie beyond it. A step leads
  beyond a milestone only from beyond it or by reaching it (`Move.Heeds.milestone`).
* `FollowsFlags`: what this says about a run from before the invitation; `run_follows_flags`.
-/

namespace Sponsorship

open Time

/-! ## Actions -/

/-- What is done with an assignee. -/
inductive Action
  | move (m : Move)
  | fee (fee : Int)
  | decline (reason : String)
  | finish
  deriving DecidableEq, Repr

def Assignee.act (a : Assignee) : Action → Except Violation Assignee
  | .move m => a.move m
  | .fee fee => a.setFee fee
  | .decline reason => a.decline reason
  | .finish => .ok a.finish

/-- The step is that of a campaign with these flags. -/
def Move.Heeds (flags : WorkflowFlags) : Move → Prop
  | .accept f | .winLottery f _ _ => f = flags
  | .finishShipment needsPreliminaryReview => needsPreliminaryReview = flags.needsPreliminaryReview
  | .submitEntry needsAfterReview => needsAfterReview = flags.needsAfterReview
  | .invite | .refuse | .loseLottery | .submitDraft | .judgeDraft _ | .judgeEntry _
  | .completePayment => True

def Action.Heeds (flags : WorkflowFlags) : Action → Prop
  | .move m => m.Heeds flags
  | .fee _ | .decline _ | .finish => True

instance (flags : WorkflowFlags) : DecidablePred (Move.Heeds flags) := fun m =>
  match m with
  | .accept f => inferInstanceAs (Decidable (f = flags))
  | .winLottery f _ _ => inferInstanceAs (Decidable (f = flags))
  | .finishShipment b => inferInstanceAs (Decidable (b = flags.needsPreliminaryReview))
  | .submitEntry b => inferInstanceAs (Decidable (b = flags.needsAfterReview))
  | .invite | .refuse | .loseLottery | .submitDraft | .judgeDraft _ | .judgeEntry _
  | .completePayment => .isTrue trivial

instance (flags : WorkflowFlags) : DecidablePred (Action.Heeds flags) := fun x =>
  match x with
  | .move m => inferInstanceAs (Decidable (m.Heeds flags))
  | .fee _ | .decline _ | .finish => .isTrue trivial

/-- An action changes the stage by a step from one of its sources, or it ends the participation, or
it leaves the stage as it was. -/
theorem Assignee.act_stage {a a' : Assignee} {x : Action} (h : a.act x = .ok a') :
    (∃ m, x = .move m ∧ a.stage ∈ m.sources ∧ a'.stage = m.target) ∨ a'.stage = .done ∨
      a'.stage = a.stage := by
  cases x with
  | move m =>
    obtain ⟨hs, rfl⟩ := move_ok.mp h
    exact .inl ⟨m, rfl, hs, by simp⟩
  | fee fee =>
    obtain ⟨_, rfl⟩ := setFee_ok.mp h
    exact .inr (.inr rfl)
  | decline reason =>
    obtain ⟨_, _, rfl⟩ := decline_ok.mp h
    exact .inr (.inl rfl)
  | finish =>
    cases h
    exact .inr (.inl rfl)

/-! ## Stages -/

/-- The stages that the flags provide for. -/
def Stage.occurs (flags : WorkflowFlags) : Stage → Bool
  | .lottery | .lotteryLost => flags.hasLottery
  | .shipment => flags.hasSample
  | .draftSubmission | .preExamination | .preReexamination => flags.needsPreliminaryReview
  | .examination | .reexamination => flags.needsAfterReview
  | .beforeInvitation | .invitation | .articlePosting | .paying | .paymentCompleted | .done => true

theorem Move.occurs_writing (flags : WorkflowFlags) :
    (writing flags.needsPreliminaryReview).occurs flags = true := by
  cases h : flags.needsPreliminaryReview with
  | true => exact h
  | false => rfl

/-- From a stage that the flags provide for, a step leads to another one. -/
theorem Move.Heeds.occurs {flags : WorkflowFlags} {m : Move} {s : Stage} (h : m.Heeds flags)
    (hs : s ∈ m.sources) (ho : s.occurs flags = true) : m.target.occurs flags = true := by
  cases m with
  | accept f =>
    obtain rfl : f = flags := h
    simp only [target]
    split
    · assumption
    · split
      · assumption
      · exact occurs_writing f
  | winLottery f shippingData janCode =>
    obtain rfl : f = flags := h
    simp only [target]
    split
    · assumption
    · exact occurs_writing f
  | finishShipment b =>
    obtain rfl : b = flags.needsPreliminaryReview := h
    exact occurs_writing flags
  | loseLottery =>
    obtain rfl := List.mem_singleton.mp hs
    exact ho
  | submitDraft =>
    rcases List.mem_pair.mp hs with rfl | rfl
    · exact ho
    · exact ho
  | judgeDraft passed =>
    obtain rfl := List.mem_singleton.mp hs
    cases passed with
    | true => rfl
    | false => exact ho
  | submitEntry b =>
    obtain rfl : b = flags.needsAfterReview := h
    simp only [target]
    split
    · assumption
    · rfl
  | judgeEntry passed =>
    obtain rfl := List.mem_singleton.mp hs
    cases passed with
    | true => rfl
    | false => exact ho
  | invite => rfl
  | refuse => rfl
  | completePayment => rfl

/-! ## Milestones -/

/-- What an assignee may have to go through. -/
inductive Milestone
  | won
  | shipped
  | cleared
  | submitted
  | approved
  deriving DecidableEq

namespace Milestone

/-- Whether a campaign with these flags asks for it. -/
def asked (flags : WorkflowFlags) : Milestone → Bool
  | .won => flags.hasLottery
  | .shipped => flags.hasSample
  | .cleared => flags.needsPreliminaryReview
  | .submitted => true
  | .approved => flags.needsAfterReview

/-- The first stage that lies beyond it. -/
def next : Milestone → Stage
  | .won => .shipment
  | .shipped => .draftSubmission
  | .cleared => .articlePosting
  | .submitted => .examination
  | .approved => .paying

/-- Whether a stage lies beyond it, on the way to the payment. The codes of the stages grow along
that way. -/
def liesBefore (k : Milestone) (s : Stage) : Bool := code k.next ≤ code s && s ≠ .done

/-- Whether a step reaches it. -/
def reachedBy : Milestone → Move → Bool
  | .won, .winLottery _ _ _ => true
  | .shipped, .finishShipment _ => true
  | .cleared, .judgeDraft passed => passed
  | .submitted, .submitEntry _ => true
  | .approved, .judgeEntry passed => passed
  | _, _ => false

variable {flags : WorkflowFlags} {k : Milestone}

theorem won_of_liesBefore_shipment (h : k.liesBefore .shipment = true) : k = .won := by
  cases k with
  | won => rfl
  | _ => cases h

/-- Only the lottery and the shipment come before the writing. -/
theorem of_liesBefore_writing (hk : k.asked flags = true)
    (h : k.liesBefore (Move.writing flags.needsPreliminaryReview) = true) :
    k = .won ∨ k = .shipped := by
  cases k with
  | won => exact .inl rfl
  | shipped => exact .inr rfl
  | cleared =>
    have hdraft : flags.needsPreliminaryReview = true := hk
    rw [hdraft] at h
    cases h
  | submitted =>
    cases hdraft : flags.needsPreliminaryReview <;> rw [hdraft] at h <;> cases h
  | approved =>
    cases hdraft : flags.needsPreliminaryReview <;> rw [hdraft] at h <;> cases h

end Milestone

/-- A step leads beyond a milestone that is asked for only from beyond it, or by reaching it. -/
theorem Move.Heeds.milestone {flags : WorkflowFlags} {m : Move} {s : Stage} {k : Milestone}
    (h : m.Heeds flags) (hs : s ∈ m.sources) (hk : k.asked flags = true)
    (hbeyond : k.liesBefore m.target = true) :
    k.liesBefore s = true ∨ k.reachedBy m = true := by
  cases m with
  | invite =>
    obtain rfl := List.mem_singleton.mp hs
    revert hbeyond; cases k <;> decide
  | accept f =>
    obtain rfl : f = flags := h
    simp only [target] at hbeyond
    split at hbeyond
    · cases k <;> cases hbeyond
    · rename_i hlottery
      split at hbeyond
      · obtain rfl := Milestone.won_of_liesBefore_shipment hbeyond
        exact absurd hk hlottery
      · rename_i hsample
        rcases Milestone.of_liesBefore_writing hk hbeyond with rfl | rfl
        · exact absurd hk hlottery
        · exact absurd hk hsample
  | refuse =>
    obtain rfl := List.mem_singleton.mp hs
    revert hbeyond; cases k <;> decide
  | winLottery f shippingData janCode =>
    obtain rfl : f = flags := h
    simp only [target] at hbeyond
    split at hbeyond
    · obtain rfl := Milestone.won_of_liesBefore_shipment hbeyond
      exact .inr rfl
    · rename_i hsample
      rcases Milestone.of_liesBefore_writing hk hbeyond with rfl | rfl
      · exact .inr rfl
      · exact absurd hk hsample
  | loseLottery =>
    obtain rfl := List.mem_singleton.mp hs
    revert hbeyond; cases k <;> decide
  | finishShipment b =>
    obtain rfl := List.mem_singleton.mp hs
    obtain rfl : b = flags.needsPreliminaryReview := h
    rcases Milestone.of_liesBefore_writing hk hbeyond with rfl | rfl
    · exact .inl rfl
    · exact .inr rfl
  | submitDraft =>
    rcases List.mem_pair.mp hs with rfl | rfl
    · revert hbeyond; cases k <;> decide
    · revert hbeyond; cases k <;> decide
  | judgeDraft passed =>
    obtain rfl := List.mem_singleton.mp hs
    revert hbeyond; cases passed <;> cases k <;> decide
  | submitEntry b =>
    obtain rfl : b = flags.needsAfterReview := h
    cases k with
    | approved =>
      have hreview : flags.needsAfterReview = true := hk
      simp only [target, hreview] at hbeyond
      cases hbeyond
    | submitted => exact .inr rfl
    | won => rcases List.mem_pair.mp hs with rfl | rfl <;> exact .inl rfl
    | shipped => rcases List.mem_pair.mp hs with rfl | rfl <;> exact .inl rfl
    | cleared => rcases List.mem_pair.mp hs with rfl | rfl <;> exact .inl rfl
  | judgeEntry passed =>
    obtain rfl := List.mem_singleton.mp hs
    revert hbeyond; cases passed <;> cases k <;> decide
  | completePayment =>
    obtain rfl := List.mem_singleton.mp hs
    cases k <;> exact .inl rfl

/-! ## Runs -/

section Runs

variable {flags : WorkflowFlags} {a : Assignee} {acts : List Action}

/-- What is so after a run from before the invitation: the stage is one that the flags provide for,
and the milestones that are asked for before it were reached. -/
structure UnderWay (flags : WorkflowFlags) (a : Assignee) (acts : List Action) (s : Stage) :
    Prop where
  occurs : s.occurs flags = true
  reached : ∀ k : Milestone, k.asked flags = true → k.liesBefore s = true →
    Succeeds Assignee.act a acts fun x => ∃ m, x = .move m ∧ m.Heeds flags ∧ k.reachedBy m = true

namespace UnderWay

theorem done : UnderWay flags a acts .done := by
  refine ⟨rfl, fun k _ hk => ?_⟩
  cases k <;> cases hk

theorem concat {s : Stage} (h : UnderWay flags a acts s) (x : Action) :
    UnderWay flags a (acts ++ [x]) s :=
  ⟨h.occurs, fun k hk hbeyond => (h.reached k hk hbeyond).concat⟩

theorem step {a' : Assignee} {x : Action}
    (h : UnderWay flags a acts (attempts Assignee.act a acts).stage) (hx : x.Heeds flags)
    (hact : (attempts Assignee.act a acts).act x = .ok a') :
    UnderWay flags a (acts ++ [x]) a'.stage := by
  rcases Assignee.act_stage hact with ⟨m, rfl, hs, htarget⟩ | hdone | hsame
  · have hheeds : m.Heeds flags := hx
    rw [htarget]
    refine ⟨hheeds.occurs hs h.occurs, fun k hk hbeyond => ?_⟩
    rcases hheeds.milestone hs hk hbeyond with hbefore | hreached
    · exact (h.reached k hk hbefore).concat
    · exact .last ⟨m, rfl, hheeds, hreached⟩ hact
  · rw [hdone]
    exact .done
  · rw [hsame]
    exact h.concat x

theorem run (ha : a.stage = .beforeInvitation) (hacts : ∀ x ∈ acts, x.Heeds flags) :
    UnderWay flags a acts (attempts Assignee.act a acts).stage := by
  refine attempts_history (I := fun acts (a' : Assignee) => (∀ x ∈ acts, x.Heeds flags) →
    UnderWay flags a acts a'.stage) (fun _ => ?_) (fun acts x a' ih hact hacts => ?_)
    (fun acts x e ih _ hacts => ?_) acts hacts
  · rw [ha]
    refine ⟨rfl, fun k _ hk => ?_⟩
    cases k <;> cases hk
  · have hpast : ∀ y ∈ acts, y.Heeds flags := fun y hy => hacts y (List.mem_append_left _ hy)
    exact (ih hpast).step (hacts x (by simp)) hact
  · exact (ih fun y hy => hacts y (List.mem_append_left _ hy)).concat x

end UnderWay

/-- What the flags ask of a run that has led to the stage `s`. -/
structure FollowsFlags (flags : WorkflowFlags) (a : Assignee) (acts : List Action) (s : Stage) :
    Prop where
  lottery : s ∈ [.lottery, .lotteryLost] → flags.hasLottery = true
  shipment : s = .shipment → flags.hasSample = true
  draft : s ∈ [.draftSubmission, .preExamination, .preReexamination] →
    flags.needsPreliminaryReview = true
  entry : s ∈ [.examination, .reexamination] → flags.needsAfterReview = true
  won : s ∈ [.articlePosting, .examination, .reexamination, .paying, .paymentCompleted] →
    flags.hasLottery = true → Succeeds Assignee.act a acts fun x =>
      ∃ shippingData janCode, x = .move (.winLottery flags shippingData janCode)
  shipped : s ∈ [.articlePosting, .examination, .reexamination, .paying, .paymentCompleted] →
    flags.hasSample = true → Succeeds Assignee.act a acts fun x =>
      x = .move (.finishShipment flags.needsPreliminaryReview)
  cleared : s ∈ [.articlePosting, .examination, .reexamination, .paying, .paymentCompleted] →
    flags.needsPreliminaryReview = true → Succeeds Assignee.act a acts fun x =>
      x = .move (.judgeDraft true)
  submitted : s ∈ [.paying, .paymentCompleted] → Succeeds Assignee.act a acts fun x =>
    x = .move (.submitEntry flags.needsAfterReview)
  approved : s ∈ [.paying, .paymentCompleted] → flags.needsAfterReview = true →
    Succeeds Assignee.act a acts fun x => x = .move (.judgeEntry true)

namespace UnderWay

variable {s : Stage}

/-- The flag that all of some stages depend on is set. -/
theorem flag (h : UnderWay flags a acts s) {stages : List Stage} {b : Bool} (hs : s ∈ stages)
    (hall : ∀ t ∈ stages, t.occurs flags = b) : b = true :=
  (hall s hs).symm.trans h.occurs

/-- The step to a milestone that lies before all of some stages was taken. -/
theorem succeeds (h : UnderWay flags a acts s) (k : Milestone) {stages : List Stage}
    {P : Action → Prop} (hk : k.asked flags = true) (hs : s ∈ stages)
    (hall : ∀ t ∈ stages, k.liesBefore t = true)
    (hstep : ∀ m : Move, m.Heeds flags → k.reachedBy m = true → P (.move m)) :
    Succeeds Assignee.act a acts P := by
  refine (h.reached k hk (hall s hs)).mono fun x hx => ?_
  obtain ⟨m, rfl, hheeds, hreached⟩ := hx
  exact hstep m hheeds hreached

theorem followsFlags (h : UnderWay flags a acts s) : FollowsFlags flags a acts s where
  lottery hs := h.flag hs (by simp [Stage.occurs])
  shipment hs := h.flag (List.mem_singleton.mpr hs) (by simp [Stage.occurs])
  draft hs := h.flag hs (by simp [Stage.occurs])
  entry hs := h.flag hs (by simp [Stage.occurs])
  won hs hk := by
    refine h.succeeds .won hk hs (by decide) fun m hheeds hreached => ?_
    cases m with
    | winLottery f shippingData janCode =>
      obtain rfl : f = flags := hheeds
      exact ⟨shippingData, janCode, rfl⟩
    | _ => cases hreached
  shipped hs hk := by
    refine h.succeeds .shipped hk hs (by decide) fun m hheeds hreached => ?_
    cases m with
    | finishShipment b =>
      obtain rfl : b = flags.needsPreliminaryReview := hheeds
      rfl
    | _ => cases hreached
  cleared hs hk := by
    refine h.succeeds .cleared hk hs (by decide) fun m _ hreached => ?_
    cases m with
    | judgeDraft passed =>
      obtain rfl : passed = true := hreached
      rfl
    | _ => cases hreached
  submitted hs := by
    refine h.succeeds .submitted rfl hs (by decide) fun m hheeds hreached => ?_
    cases m with
    | submitEntry b =>
      obtain rfl : b = flags.needsAfterReview := hheeds
      rfl
    | _ => cases hreached
  approved hs hk := by
    refine h.succeeds .approved hk hs (by decide) fun m _ hreached => ?_
    cases m with
    | judgeEntry passed =>
      obtain rfl : passed = true := hreached
      rfl
    | _ => cases hreached

end UnderWay

/-- Every run of an assignee that is created before the invitations follows the flags of its
campaign. -/
theorem run_follows_flags {id : AssigneeId} {campaign : CampaignId} {blogger : BloggerId}
    {fee : Int} {now : Instant}
    (hcreate : Assignee.create id campaign blogger fee .beforeInvitation now = .ok a)
    (hacts : ∀ x ∈ acts, x.Heeds flags) :
    FollowsFlags flags a acts (attempts Assignee.act a acts).stage := by
  obtain ⟨_, _, rfl⟩ := Assignee.create_ok.mp hcreate
  exact (UnderWay.run rfl hacts).followsFlags

end Runs

/-- A campaign with every stage. -/
def everyStage : WorkflowFlags :=
  { hasSample := true, needsPreliminaryReview := true, needsAfterReview := true, hasLottery := true }

/-- From the invitation to the payment, with actions that fail, and a draft and an article that are
rejected once. -/
def fullRun : List Action :=
  [.move .completePayment, .move .invite, .move (.accept everyStage), .fee (-1),
    .move (.winLottery everyStage ["Tokyo"] none), .move (.finishShipment true), .move .submitDraft,
    .move (.judgeDraft false), .move .submitDraft, .move (.judgeDraft true),
    .move (.submitEntry true), .move (.judgeEntry false), .move (.submitEntry true),
    .move (.judgeEntry true), .decline ""]

theorem run_follows_flags_of_fullRun :
    ∃ a, Assignee.create ⟨"id-0005"⟩ ⟨"id-0001"⟩ ⟨"blogger"⟩ 0 .beforeInvitation ⟨0, 0⟩ = .ok a ∧
      (attempts Assignee.act a fullRun).stage = .paying ∧
      FollowsFlags everyStage a fullRun (attempts Assignee.act a fullRun).stage := by
  have hcreate : Assignee.create ⟨"id-0005"⟩ ⟨"id-0001"⟩ ⟨"blogger"⟩ 0 .beforeInvitation ⟨0, 0⟩ =
      .ok (⟨⟨"id-0005"⟩, ⟨"id-0001"⟩, ⟨"blogger"⟩, 0, .beforeInvitation, none, ⟨0, 0⟩, [], none⟩) :=
    rfl
  have hpaying : (attempts Assignee.act ⟨⟨"id-0005"⟩, ⟨"id-0001"⟩, ⟨"blogger"⟩, 0, .beforeInvitation,
      none, ⟨0, 0⟩, [], none⟩ fullRun).stage = .paying := by decide +kernel
  exact ⟨_, hcreate, hpaying, run_follows_flags hcreate (by decide)⟩

end Sponsorship
