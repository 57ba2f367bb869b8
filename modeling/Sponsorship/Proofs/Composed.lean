import Sponsorship.Proofs.Supply

/-!
# Sponsorship.Proofs.Composed

The work of a command touches the store through calls alone.

* `Alike s s' rewords t t'`: the tasks `t` and `t'` are put together in one way, from calls on `s`
  and on `s'`, new identifiers and checks. What holds of the three and is kept by sequencing holds of
  the work of every command.
* `Composed s rewords t`: the task `t` is put together so.
-/

namespace Sponsorship

open Time

variable {σ υ σ' υ' : Type}

/-- Two tasks put together in one way, from calls on two stores, new identifiers and checks. Only
where `rewords` is set may they put the absence of a required submission into other words. -/
inductive Alike (s : Store σ υ) (s' : Store σ' υ') (rewords : Bool) :
    {α : Type} → Task υ α → Task υ' α → Prop
  | call (c : Call) : Alike s s' rewords (s.call c) (s'.call c)
  | check {α : Type} (r : Except Fault α) (h : ∀ f, r = .error f → f.OfCheck) :
      Alike s s' rewords (Task.ofExcept r) (Task.ofExcept r)
  | mint {α : Type} (m : Minting α) (h : Minting.Orderly m) :
      Alike s s' rewords (Task.ofMinting m) (Task.ofMinting m)
  | required (id : CampaignId) (a : Assignee) (i : AssigneeInput) (h : rewords = true) :
      Alike s s' rewords (s.checkSubmission id a i) (s'.checkSubmission id a i)
  | bind {α β : Type} {x : Task υ α} {x' : Task υ' α} {f : α → Task υ β} {f' : α → Task υ' β}
      (hx : Alike s s' rewords x x') (hf : ∀ a, Alike s s' rewords (f a) (f' a)) :
      Alike s s' rewords (x >>= f) (x' >>= f')

/-- A task put together from calls on a store, new identifiers and checks. -/
abbrev Composed {α : Type} (s : Store σ υ) (rewords : Bool) (t : Task υ α) : Prop :=
  Alike s s rewords t t

namespace Alike

variable {s : Store σ υ} {s' : Store σ' υ'} {rewords : Bool} {α β : Type}

theorem pure (a : α) : Alike s s' rewords (Pure.pure a : Task υ α) (Pure.pure a : Task υ' α) :=
  .check (.ok a) fun _ h => by cases h

theorem obey (r : Except Violation α) : Alike s s' rewords (Task.obey r) (Task.obey r) := by
  refine .check _ fun f h => ?_
  cases r with
  | ok a => cases h
  | error v => cases h; exact .rule v

theorem tally {step : Assignee → Task υ Bool} {step' : Assignee → Task υ' Bool}
    (hstep : ∀ a, Alike s s' rewords (step a) (step' a)) (as : List Assignee) :
    Alike s s' rewords (Sponsorship.tally step as) (Sponsorship.tally step' as) := by
  induction as with
  | nil => exact pure _
  | cons a rest ih => exact (hstep a).bind fun _ => ih.bind fun _ => pure _

theorem eachOf {step : β → Task υ Unit} {step' : β → Task υ' Unit}
    (hstep : ∀ b, Alike s s' rewords (step b) (step' b)) (bs : List β) :
    Alike s s' rewords (Sponsorship.eachOf step bs) (Sponsorship.eachOf step' bs) := by
  induction bs with
  | nil => exact pure _
  | cons b rest ih => exact (hstep b).bind fun _ => ih

/-! ## The course of a campaign -/

theorem advance (a : Assignee) (m : Move) : Alike s s' rewords (s.advance a m) (s'.advance a m) :=
  (obey _).bind fun _ => (call _).bind fun _ => pure _

theorem invite (id : CampaignId) : Alike s s' rewords (s.invite id) (s'.invite id) :=
  (call _).bind fun _ => (call _).bind fun as => tally (fun a => advance a _) as

theorem recordAnswers (accepted : Bool) (q : Option Questionnaire) (a : AssigneeId)
    (answers : Keyed QuestionId String) :
    Alike s s' rewords (s.recordAnswers accepted q a answers)
      (s'.recordAnswers accepted q a answers) := by
  unfold Store.recordAnswers
  split
  · exact (obey _).bind fun _ => call _
  · exact pure _

theorem answerInvitation (id : CampaignId) (b : BloggerId) (accepted : Bool)
    (answers : Keyed QuestionId String) :
    Alike s s' rewords (s.answerInvitation id b accepted answers)
      (s'.answerInvitation id b accepted answers) :=
  (call _).bind fun _ => (call _).bind fun _ => (call _).bind fun _ => (obey _).bind fun _ =>
    (recordAnswers _ _ _ _).bind fun _ => (call _).bind fun _ => pure _

theorem decline (id : CampaignId) (b : BloggerId) (reason : String) :
    Alike s s' rewords (s.decline id b reason) (s'.decline id b reason) :=
  (call _).bind fun _ => (obey _).bind fun _ => (call _).bind fun _ => pure _

theorem applyResult (flags : WorkflowFlags) (results : Keyed BloggerId LotteryResult)
    (a : Assignee) :
    Alike s s' rewords (s.applyResult flags results a) (s'.applyResult flags results a) := by
  unfold Store.applyResult
  split
  · exact pure _
  · exact advance a _

theorem applyLottery (id : CampaignId) (results : Keyed BloggerId LotteryResult) :
    Alike s s' rewords (s.applyLottery id results) (s'.applyLottery id results) :=
  (call _).bind fun _ => (call _).bind fun as => tally (applyResult _ results) as

theorem finishShipment (id : CampaignId) :
    Alike s s' rewords (s.finishShipment id) (s'.finishShipment id) :=
  (call _).bind fun _ => (call _).bind fun as => tally (fun a => advance a _) as

theorem completePayment (id : CampaignId) (bs : List BloggerId) :
    Alike s s' rewords (s.completePayment id bs) (s'.completePayment id bs) :=
  (call _).bind fun _ => (call _).bind fun as => (tally (fun a => advance a _) as).bind fun _ =>
    pure _

theorem submit (now : Instant) (id : CampaignId) (b : BloggerId) (kind : EntryKind)
    (entry : Option EntryId) :
    Alike s s' rewords (s.submit now id b kind entry) (s'.submit now id b kind entry) :=
  (call _).bind fun _ => (call _).bind fun _ => (mint _ (Minting.orderly_mint _)).bind fun _ =>
    (obey _).bind fun _ => (obey _).bind fun _ => (call _).bind fun _ => (call _).bind fun _ =>
    pure _

theorem applyVerdict (id : CampaignId) (kind : EntryKind) (verdicts : Keyed BloggerId Verdict)
    (a : Assignee) : Alike s s' rewords (s.applyVerdict id kind verdicts a)
      (s'.applyVerdict id kind verdicts a) := by
  unfold Store.applyVerdict
  split
  · exact pure _
  · exact (call _).bind fun _ => (obey _).bind fun _ => (obey _).bind fun _ =>
      (call _).bind fun _ => (call _).bind fun _ => pure _

theorem applyVerdicts (id : CampaignId) (kind : EntryKind) (verdicts : Keyed BloggerId Verdict) :
    Alike s s' rewords (s.applyVerdicts id kind verdicts) (s'.applyVerdicts id kind verdicts) :=
  (call _).bind fun as => tally (applyVerdict id kind verdicts) as

theorem complete (id : CampaignId) : Alike s s' rewords (s.complete id) (s'.complete id) :=
  (call _).bind fun _ => (call _).bind fun as => (eachOf (fun _ => call _) as).bind fun _ =>
    (obey _).bind fun _ => (call _).bind fun _ => pure _

/-! ## Saving -/

theorem enrol (now : Instant) (id : CampaignId) (i : AssigneeInput) :
    Alike s s' rewords (s.enrol now id i) (s'.enrol now id i) :=
  (mint _ (i.orderly_enrolment now id)).bind fun _ => call _

theorem poseQuestionnaire (id : CampaignId) (q : Option QuestionnaireInput) :
    Alike s s' rewords (s.poseQuestionnaire id q) (s'.poseQuestionnaire id q) := by
  cases q with
  | none => exact pure _
  | some q => exact (mint _ (q.orderly_renewal id none)).bind fun _ => call _

theorem createCampaign (now : Instant) (r : SaveRequest) (item : Item) (variant : Option Variant) :
    Alike s s' rewords (s.createCampaign now r item variant)
      (s'.createCampaign now r item variant) :=
  (mint _ (r.orderly_opening now item variant)).bind fun c => (call _).bind fun _ =>
    (poseQuestionnaire c.id _).bind fun _ => (eachOf (enrol now c.id) _).bind fun _ => pure _

theorem reconcileQuestionnaire (id : CampaignId) (q : Option QuestionnaireInput) :
    Alike s s' rewords (s.reconcileQuestionnaire id q) (s'.reconcileQuestionnaire id q) := by
  cases q with
  | none => exact (call _).bind fun _ => call _
  | some q => exact (call _).bind fun old => (mint _ (q.orderly_renewal id old)).bind fun _ => call _

theorem reconcileAssignee (now : Instant) (id : CampaignId) (a : Option Assignee)
    (i : AssigneeInput) :
    Alike s s' true (s.reconcileAssignee now id a i) (s'.reconcileAssignee now id a i) := by
  unfold Store.reconcileAssignee
  split
  · split
    · exact pure _
    · exact enrol now id i
  · split
    · exact (obey _).bind fun _ => call _
    · exact (required id _ i rfl).bind fun _ => (obey _).bind fun _ => call _

theorem reconcileAssignees (now : Instant) (id : CampaignId) (inputs : List AssigneeInput) :
    Alike s s' true (s.reconcileAssignees now id inputs) (s'.reconcileAssignees now id inputs) :=
  (call _).bind fun _ => eachOf (fun _ => reconcileAssignee now id _ _) _

end Alike

/-! ## What the checks of a revision report -/

theorem ofCheck_mapError {α : Type} {r : Except Violation α} {f : Fault}
    (h : r.mapError Fault.validation = .error f) : f.OfCheck := by
  cases r with
  | ok a => cases h
  | error v => cases h; exact .rule v

theorem Except.bind_error {ε α β : Type} {x : Except ε α} {f : α → Except ε β} {e : ε} :
    (x >>= f) = .error e ↔ x = .error e ∨ ∃ a, x = .ok a ∧ f a = .error e := by
  cases x <;> simp [bind, Except.bind]

theorem ofCheck_redate {old : List Schedule} {i : ScheduleInput} {f : Fault}
    (h : redate old i = .error f) : f.OfCheck := by
  unfold redate at h
  split at h
  · cases h; exact .rule _
  · split at h
    · cases h; exact .schedule _
    · exact ofCheck_mapError h

theorem ofCheck_mapM {α β : Type} {k : α → Except Fault β}
    (hk : ∀ a f, k a = .error f → f.OfCheck) {as : List α} {f : Fault}
    (h : as.mapM k = .error f) : f.OfCheck := by
  induction as with
  | nil => rw [List.mapM_nil] at h; cases h
  | cons a rest ih =>
    rw [List.mapM_cons, Except.bind_error] at h
    rcases h with h | ⟨b, _, h⟩
    · exact hk a f h
    · rcases Except.bind_error.mp h with h | ⟨bs, _, h⟩
      · exact ih h
      · cases h

theorem SaveRequest.ofCheck_revision {r : SaveRequest} {item : Item} {variant : Option Variant}
    {c : Campaign} {f : Fault} (h : r.revision item variant c = .error f) : f.OfCheck := by
  unfold SaveRequest.revision at h
  rcases Except.bind_error.mp h with h | ⟨c₁, _, h⟩
  · exact ofCheck_mapError h
  · rcases Except.bind_error.mp h with h | ⟨schedules, _, h⟩
    · exact ofCheck_mapM (fun _ _ => ofCheck_redate) h
    · exact ofCheck_mapError h

theorem Alike.updateCampaign {s : Store σ υ} {s' : Store σ' υ'} (now : Instant) (id : CampaignId)
    (r : SaveRequest) (item : Item) (variant : Option Variant) :
    Alike s s' true (s.updateCampaign now id r item variant)
      (s'.updateCampaign now id r item variant) :=
  (obey _).bind fun _ => (call _).bind fun _ =>
    (check _ fun _ => r.ofCheck_revision).bind fun _ => (call _).bind fun _ =>
    (reconcileQuestionnaire id _).bind fun _ => reconcileAssignees now id _

end Sponsorship
