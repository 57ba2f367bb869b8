import Sponsorship.Proofs.Stored
import Sponsorship.Proofs.Transcript

/-!
# Sponsorship.Proofs.Allowed

What calls may send, and tasks that send fit statements wherever they are begun.

* `Call.Allows c st`: the call may send the statement. It asks for a lock on campaigns, or writes a
  row of a campaign, only if that is what it is for.
* `Always fit t`: wherever the task is begun, it sends fit statements only. One rule for each way
  work is put together.
* `allows_call`: a call sends what it may.
* `Always.enrol`, `Always.reconcileAssignees` and their kin: the parts of a save around the row of
  the campaign.
-/

namespace Sponsorship

namespace Call

/-- Calls that do not lock a campaign. -/
def sparesCampaign : Call → Bool
  | .getCampaign _ lock => !lock
  | _ => true

/-- Calls that write the row of a campaign. -/
def writesCampaign : Call → Bool
  | .createCampaign _ | .updateCampaign _ => true
  | _ => false

end Call

namespace Sql

/-- Of all selections only that of one campaign can lock campaigns. -/
def Selection.locksCampaign : Selection → Bool
  | .campaign _ lock => lock
  | _ => false

/-- Statements that select nothing and stay within a unit of work. -/
def Statement.isChange : Statement → Bool
  | .insert _ _ _ | .update _ _ _ | .delete _ _ _ | .retire _ => true
  | _ => false

end Sql

open Sql in
/-- What a call may send. -/
structure Call.Allows (c : Call) (st : Statement) : Prop where
  inside : st.isBracket = false
  locks : ∀ s, st = .select s → s.locksCampaign = true → c.sparesCampaign = false
  writes : st.target? = some .campaign → c.writesCampaign = true

namespace Sql

open Time

/-! ## Work that is fit everywhere -/

/-- Wherever it is begun, the task sends fit statements only. -/
abbrev Always {α : Type} (fit : Fitness) (t : Task Script α) : Prop := ∀ ns, Fits fit t ns

namespace Always

variable {α β : Type} {fit : Fitness}

theorem pure {a : α} : Always fit (Pure.pure a) := fun _ => .pure trivial

theorem throw {f : Fault} : Always fit (MonadExcept.throw f : Task Script α) := fun _ => .throw

theorem obey {r : Except Violation α} : Always fit (Task.obey r) :=
  fun _ => sends_obey.imp fun _ _ _ _ => trivial

theorem ofExcept {r : Except Fault α} : Always fit (Task.ofExcept r) :=
  fun _ => sends_ofExcept.imp fun _ _ _ _ => trivial

theorem mint {m : Minting α} : Always fit (Task.ofMinting m) := fun _ => sends_ofMinting

theorem bind {x : Task Script α} {f : α → Task Script β} (hx : Always fit x)
    (hf : ∀ a, Always fit (f a)) : Always fit (x >>= f) :=
  fun ns => .bind ((hx ns).imp fun a ns' _ _ => hf a ns')

theorem tally {step : Assignee → Task Script Bool} (hstep : ∀ a, Always fit (step a))
    (as : List Assignee) : Always fit (Sponsorship.tally step as) :=
  fun _ => .tally fun a _ ns' _ => hstep a ns'

theorem eachOf {step : β → Task Script Unit} (hstep : ∀ b, Always fit (step b)) (bs : List β) :
    Always fit (Sponsorship.eachOf step bs) :=
  fun _ => .eachOf fun b _ ns' _ => hstep b ns'

end Always

/-! ## Calls -/

section Calls

variable {c : Call} {fit : Fitness} {ns : List Note}

theorem allows_select {s : Selection} (h : s.locksCampaign = false) : c.Allows (.select s) where
  inside := rfl
  locks s' hs' hlocks := by
    cases hs'
    rw [h] at hlocks
    cases hlocks
  writes h := by cases h

/-- Changes of anything but campaigns. -/
def Statement.IsElsewhere (st : Statement) : Prop :=
  st.isChange = true ∧ st.target? ≠ some .campaign

/-- The parts of a campaign have tables of their own. -/
theorem isElsewhere_partWrites (c : Campaign) : ∀ st ∈ partWrites c, st.IsElsewhere := by
  intro st hst
  rcases List.mem_append.mp hst with hst | hst
  · simp only [List.mem_cons, List.not_mem_nil, or_false] at hst
    rcases hst with rfl | rfl <;> exact ⟨rfl, nofun⟩
  · obtain ⟨_, _, rfl⟩ := List.mem_map.mp hst
    exact ⟨rfl, nofun⟩

theorem isElsewhere_questionnaireWrites (q : Questionnaire) :
    ∀ st ∈ questionnaireWrites q, st.IsElsewhere := by
  intro st hst
  rcases List.mem_append.mp hst with hst | hst
  · simp only [List.mem_cons, List.not_mem_nil, or_false] at hst
    rcases hst with rfl | rfl <;> exact ⟨rfl, nofun⟩
  · obtain ⟨_, _, rfl⟩ := List.mem_map.mp hst
    exact ⟨rfl, nofun⟩

theorem allows_change {st : Statement} (h : st.IsElsewhere) : c.Allows st where
  inside := by
    obtain ⟨hchange, -⟩ := h
    cases st <;> first | rfl | cases hchange
  locks s hs := by
    subst hs
    cases h.1
  writes hst := absurd hst h.2

theorem allows_changes {sts : List Statement} (h : ∀ st ∈ sts, st.IsElsewhere) :
    Sends Script.notes (fun _ => c.Allows) (Script.link.writeAll sts) ns fun _ _ => True :=
  sends_writeAll fun st hst _ _ => allows_change (h st hst)

theorem sends_assemble {rows : List CampaignRow} (h : ∀ ids, fit ns (.select (.schedules ids))) :
    Sends Script.notes fit (Script.link.assemble rows) ns fun _ _ => True := by
  refine .bind ((sends_all (h _)).imp fun _ _ _ _ => ?_)
  refine .bind (sends_readable.imp fun _ _ _ _ => ?_)
  exact sends_readable.imp fun _ _ _ _ => trivial

/-- A campaign is assembled after its row was selected. -/
theorem sends_campaign {id : CampaignId} {lock : Bool} (h : fit ns (.select (.campaign id lock)))
    (hschedules : ∀ ns' ids, fit ns' (.select (.schedules ids))) :
    Sends Script.notes fit (Script.link.campaign id lock) ns fun _ _ => True := by
  refine .bind ((sends_first h).imp fun found ns₁ _ _ => ?_)
  cases found with
  | none => exact .throw
  | some row =>
    refine .bind ((sends_assemble (hschedules ns₁)).imp fun cs _ _ _ => ?_)
    cases cs with
    | nil => exact .throw
    | cons c rest => exact .pure trivial

theorem sends_assignees {s : Selection} (h : fit ns (.select s)) :
    Sends Script.notes fit (Script.link.assignees s) ns fun _ _ => True := by
  refine .bind ((sends_all h).imp fun _ _ _ _ => ?_)
  exact sends_readable.imp fun _ _ _ _ => trivial

theorem sends_pageOf {criteria : SearchCriteria} {condition : ListCondition}
    (h : ∀ ns' s, s.locksCampaign = false → fit ns' (.select s)) :
    Sends Script.notes fit (Script.link.page criteria condition) ns fun _ _ => True := by
  refine .bind ((sends_only (h _ _ rfl)).imp fun _ _ _ _ => ?_)
  refine .bind (sends_still.imp fun _ _ _ _ => ?_)
  refine .bind ((sends_all (h _ _ rfl)).imp fun _ _ _ _ => ?_)
  exact (sends_assemble fun _ => h _ _ rfl).thenPure

/-- Whatever is answered, a call sends what it may. -/
theorem allows_call (c : Call) : Always (fun _ => c.Allows) (Script.link.store.call c) := by
  intro ns
  refine sends_call ?_
  cases c with
  | getCampaign id lock =>
    refine sends_campaign ⟨rfl, ?_, nofun⟩ fun _ _ => allows_select rfl
    rintro _ ⟨⟩ hlock
    simp only [Selection.locksCampaign] at hlock
    simp [Call.sparesCampaign, hlock]
  | campaignsAmong =>
    refine .bind ((sends_all (allows_select rfl)).imp fun _ _ _ _ => ?_)
    exact sends_assemble fun _ => allows_select rfl
  | listCampaigns | searchCampaigns => exact sends_pageOf fun _ _ h => allows_select h
  | campaignsEnding | listAnswers =>
    exact (sends_all (allows_select rfl)).imp fun _ _ _ _ => trivial
  | createCampaign c =>
    refine .bind ((sends_write ⟨rfl, nofun, fun _ => rfl⟩).imp fun _ _ _ _ => ?_)
    exact allows_changes (isElsewhere_partWrites c)
  | updateCampaign c =>
    refine .bind ((sends_change ⟨rfl, nofun, fun _ => rfl⟩).imp fun _ _ _ _ => ?_)
    exact allows_changes (isElsewhere_partWrites c)
  | deleteCampaign | deleteAssignee | deleteQuestionnaire =>
    refine allows_changes fun st hst => ?_
    simp only [partDeletions, assigneeDeletions, List.map_cons, List.map_nil, List.mem_cons,
      List.not_mem_nil, or_false] at hst
    rcases hst with rfl | rfl | rfl | rfl | rfl | rfl | rfl | rfl <;> exact ⟨rfl, nofun⟩
  | getAssignee =>
    refine .bind ((sends_first (allows_select rfl)).imp fun found _ _ _ => ?_)
    cases found with
    | none => exact .throw
    | some row => exact sends_readable.imp fun _ _ _ _ => trivial
  | listAssignees | assigneesAmong | assigneesUnderExamination | participations =>
    exact sends_assignees (allows_select rfl)
  | countStages =>
    refine .bind ((sends_all (allows_select rfl)).imp fun _ _ _ _ => ?_)
    exact sends_readable.imp fun _ _ _ _ => trivial
  | latestExaminations =>
    refine .bind ((sends_all (allows_select rfl)).imp fun _ _ _ _ => ?_)
    exact sends_readable.thenPure
  | createAssignee | createExamination | deleteAnswers =>
    exact sends_write (allows_change ⟨rfl, nofun⟩)
  | updateAssignee | updateExamination => exact sends_change (allows_change ⟨rfl, nofun⟩)
  | latestExamination =>
    refine .bind ((sends_first (allows_select rfl)).imp fun found _ _ _ => ?_)
    cases found with
    | none => exact .throw
    | some row =>
      refine .bind ((sends_only (allows_select rfl)).imp fun _ _ _ _ => ?_)
      exact sends_readable.imp fun _ _ _ _ => trivial
  | findQuestionnaire =>
    refine .bind ((sends_first (allows_select rfl)).imp fun found _ _ _ => ?_)
    cases found with
    | none => exact .pure trivial
    | some description =>
      refine .bind ((sends_all (allows_select rfl)).imp fun _ _ _ _ => ?_)
      exact sends_readable.thenPure
  | saveQuestionnaire q => exact allows_changes (isElsewhere_questionnaireWrites q)
  | saveAnswers answers =>
    refine allows_changes fun st hst => ?_
    obtain ⟨_, _, rfl⟩ := List.mem_map.mp hst
    exact ⟨rfl, nofun⟩

end Calls

/-! ## Parts of a save -/

namespace Always

variable {fit : Fitness}
  (hcall : ∀ c : Call, c.sparesCampaign = true → c.writesCampaign = false →
    Always fit (Script.link.store.call c))

include hcall

theorem enrol (now : Instant) (id : CampaignId) (i : AssigneeInput) :
    Always fit (Script.link.store.enrol now id i) :=
  mint.bind fun _ => hcall _ rfl rfl

theorem poseQuestionnaire (id : CampaignId) (q : Option QuestionnaireInput) :
    Always fit (Script.link.store.poseQuestionnaire id q) := by
  cases q with
  | none => exact pure
  | some q => exact mint.bind fun _ => hcall _ rfl rfl

theorem reconcileQuestionnaire (id : CampaignId) (q : Option QuestionnaireInput) :
    Always fit (Script.link.store.reconcileQuestionnaire id q) := by
  cases q with
  | some q => exact (hcall _ rfl rfl).bind fun _ => mint.bind fun _ => hcall _ rfl rfl
  | none => exact (hcall _ rfl rfl).bind fun _ => hcall _ rfl rfl

theorem checkSubmission (id : CampaignId) (a : Assignee) (i : AssigneeInput) :
    Always fit (Script.link.store.checkSubmission id a i) := by
  intro ns
  unfold Store.checkSubmission
  cases Store.neededSubmission i.stage with
  | none => exact .pure trivial
  | some kind =>
    refine .tryCatch (hcall _ rfl rfl ns).thenPure ?_
    intro f ns' _
    cases f <;> exact .throw

theorem reconcileAssignee (now : Instant) (id : CampaignId) (a : Option Assignee)
    (i : AssigneeInput) : Always fit (Script.link.store.reconcileAssignee now id a i) := by
  cases a with
  | none =>
    simp only [Store.reconcileAssignee]
    split
    · exact pure
    · exact enrol hcall now id i
  | some a =>
    simp only [Store.reconcileAssignee]
    split
    · exact obey.bind fun _ => hcall _ rfl rfl
    · exact (checkSubmission hcall id a i).bind fun _ => obey.bind fun _ => hcall _ rfl rfl

theorem reconcileAssignees (now : Instant) (id : CampaignId) (inputs : List AssigneeInput) :
    Always fit (Script.link.store.reconcileAssignees now id inputs) :=
  (hcall _ rfl rfl).bind fun _ => eachOf (fun i => reconcileAssignee hcall now id _ i) inputs

end Always

end Sql

end Sponsorship
