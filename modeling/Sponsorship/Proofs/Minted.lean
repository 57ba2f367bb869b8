import Sponsorship.Proofs.Supply

/-!
# Sponsorship.Proofs.Minted

What work that takes identifiers makes when it succeeds.

* `Minting.bind_ok`, `Minting.obey_ok`, `Minting.mapM_ok`: the parts of such work.
* `SaveRequest.opening_ok`, `AssigneeInput.enrolment_ok`, `QuestionnaireInput.renewal_ok`: a campaign,
  an assignee and a questionnaire, with the supply they leave.
* `Reconciles`: how the questions of a questionnaire are kept and made, input by input.
-/

namespace Sponsorship

open Time

namespace Minting

variable {α β : Type} {ids ids' : Ids}

theorem bind_ok {m : Minting α} {k : α → Minting β} {b : β} :
    (m >>= k : Minting β) ids = (.ok b, ids') ↔
      ∃ a ids₁, m ids = (.ok a, ids₁) ∧ k a ids₁ = (.ok b, ids') := by
  rw [run_bind]
  rcases m ids with ⟨r, ids₁⟩
  constructor
  · intro h
    cases r with
    | error f => cases h
    | ok a => exact ⟨a, ids₁, rfl, h⟩
  · rintro ⟨a, ids₂, ⟨rfl, rfl⟩, h⟩
    exact h

theorem obey_ok {r : Except Violation α} {a : α} :
    obey r ids = (.ok a, ids') ↔ r = .ok a ∧ ids' = ids := by
  change (r.mapError Fault.validation, ids) = (.ok a, ids') ↔ _
  rw [Prod.mk.injEq, Except.mapError_ok, eq_comm (a := ids)]

theorem pure_ok {a b : α} : (pure a : Minting α) ids = (.ok b, ids') ↔ a = b ∧ ids' = ids := by
  change (Except.ok a, ids) = (.ok b, ids') ↔ _
  simp [eq_comm (a := ids)]

/-- A property of whatever a step makes is one of everything a list of steps makes. -/
theorem mapM_ok {k : α → Minting β} {P : β → Prop}
    (hk : ∀ a ids b ids', k a ids = (.ok b, ids') → P b) {as : List α} {bs : List β}
    (h : (as.mapM k : Minting (List β)) ids = (.ok bs, ids')) : ∀ b ∈ bs, P b := by
  induction as generalizing ids bs ids' with
  | nil =>
    rw [List.mapM_nil, pure_ok] at h
    obtain ⟨rfl, _⟩ := h
    intro b hb; cases hb
  | cons a rest ih =>
    rw [List.mapM_cons] at h
    obtain ⟨b, ids₁, hb, h⟩ := bind_ok.mp h
    obtain ⟨bs', ids₂, hbs, h⟩ := bind_ok.mp h
    obtain ⟨rfl, _⟩ := pure_ok.mp h
    intro x hx
    rcases List.mem_cons.mp hx with rfl | hx
    · exact hk _ _ _ _ hb
    · exact ih hbs x hx

end Minting

/-- A new campaign has the next identifier and keeps the rules for campaigns. -/
theorem SaveRequest.opening_ok {r : SaveRequest} {now : Instant} {item : Item}
    {variant : Option Variant} {ids ids' : Ids} {c : Campaign}
    (h : r.opening now item variant ids = (.ok c, ids')) :
    ∃ schedules, (r.schedules.mapM ScheduleInput.schedule : Minting (List Schedule))
        (ids.next : CampaignId × Ids).2 = (.ok schedules, ids') ∧
      Campaign.create ids.next.1 (r.details item variant schedules) now = .ok c := by
  obtain ⟨_, _, hid, hrest⟩ := Minting.bind_ok.mp h
  cases hid
  obtain ⟨schedules, _, hs, hcreate⟩ := Minting.bind_ok.mp hrest
  obtain ⟨hc, rfl⟩ := Minting.obey_ok.mp hcreate
  exact ⟨schedules, hs, hc⟩

/-- A new assignee has the next identifier and no stage of examination. -/
theorem AssigneeInput.enrolment_ok {i : AssigneeInput} {now : Instant} {id : CampaignId}
    {ids ids' : Ids} {a : Assignee} (h : i.enrolment now id ids = (.ok a, ids')) :
    checkNewAssignee i = .ok () ∧
      Assignee.create ids.next.1 id i.blogger i.fee i.stage now = .ok a ∧
      ids' = (ids.next : AssigneeId × Ids).2 := by
  obtain ⟨_, _, hobey, hrest⟩ := Minting.bind_ok.mp h
  obtain ⟨hi, rfl⟩ := Minting.obey_ok.mp hobey
  obtain ⟨_, _, hid, hcreate⟩ := Minting.bind_ok.mp hrest
  cases hid
  exact ⟨hi, Minting.obey_ok.mp hcreate⟩

/-- A new question keeps the rules for questions. -/
theorem QuestionInput.pose_ok {i : QuestionInput} {ids ids' : Ids} {q : Question}
    (h : i.pose ids = (.ok q, ids')) :
    Question.create ids.next.1 i.kind i.title i.imageUrl i.options = .ok q ∧
      ids' = (ids.next : QuestionId × Ids).2 := by
  obtain ⟨_, _, hid, hcreate⟩ := Minting.bind_ok.mp h
  cases hid
  exact Minting.obey_ok.mp hcreate

/-- A question that keeps the rules because it is new or because it was revised. -/
inductive Question.Settled : Question → Prop
  | posed {id : QuestionId} {i : QuestionInput} {q : Question}
      (h : Question.create id i.kind i.title i.imageUrl i.options = .ok q) : Settled q
  | revised {old : Question} {i : QuestionInput} {q : Question} (h : old.revise i = .ok q) : Settled q

theorem QuestionInput.settled_pose {i : QuestionInput} {ids ids' : Ids} {q : Question}
    (h : i.pose ids = (.ok q, ids')) : q.Settled :=
  .posed (pose_ok h).1

/-- How the questions for inputs come about: the first input that names a question keeps it, and for
any other input a question is made. `claimed` holds the names met before. -/
inductive Reconciles (old : Keyed QuestionId Question) :
    List QuestionId → List QuestionInput → Ids → List Question → Ids → Prop
  | nil {claimed : List QuestionId} {ids : Ids} : Reconciles old claimed [] ids [] ids
  | posed {claimed : List QuestionId} {i : QuestionInput} {rest : List QuestionInput}
      {ids ids₁ ids' : Ids} {q : Question} {qs : List Question}
      (hi : ∀ id, Id.given? i.id = some id → id ∈ claimed) (hq : i.pose ids = (.ok q, ids₁))
      (hqs : Reconciles old claimed rest ids₁ qs ids') :
      Reconciles old claimed (i :: rest) ids (q :: qs) ids'
  | kept {claimed : List QuestionId} {i : QuestionInput} {rest : List QuestionInput}
      {ids ids' : Ids} {id : QuestionId} {o q : Question} {qs : List Question}
      (hi : Id.given? i.id = some id) (hnew : id ∉ claimed) (ho : old.get? id = some o)
      (hq : o.revise i = .ok q) (hqs : Reconciles old (id :: claimed) rest ids qs ids') :
      Reconciles old claimed (i :: rest) ids (q :: qs) ids'

theorem Questionnaire.reconciled_ok {old : Keyed QuestionId Question} {claimed : List QuestionId}
    {inputs : List QuestionInput} {ids ids' : Ids} {qs : List Question}
    (h : reconciled old claimed inputs ids = (.ok qs, ids')) :
    Reconciles old claimed inputs ids qs ids' := by
  induction inputs generalizing claimed ids qs ids' with
  | nil =>
    obtain ⟨rfl, rfl⟩ := Minting.pure_ok.mp h
    exact .nil
  | cons i rest ih =>
    -- whichever way the first question comes about, the others come after it
    have hcons : ∀ {m : Minting Question} {claimed},
        (do return (← m) :: (← reconciled old claimed rest) : Minting (List Question)) ids
          = (.ok qs, ids') →
        ∃ q ids₁ others, m ids = (.ok q, ids₁) ∧ Reconciles old claimed rest ids₁ others ids' ∧
          qs = q :: others := by
      intro m claimed h
      obtain ⟨q, ids₁, hq, hrest⟩ := Minting.bind_ok.mp h
      obtain ⟨others, _, hothers, hpure⟩ := Minting.bind_ok.mp hrest
      obtain ⟨rfl, rfl⟩ := Minting.pure_ok.mp hpure
      exact ⟨q, ids₁, others, hq, ih hothers, rfl⟩
    cases hid : Id.given? i.id with
    | none =>
      simp only [reconciled, hid] at h
      obtain ⟨q, ids₁, others, hq, hothers, rfl⟩ := hcons h
      exact .posed (fun id hi => by rw [hid] at hi; cases hi) hq hothers
    | some id =>
      simp only [reconciled, hid] at h
      split at h
      · rename_i hclaimed
        obtain ⟨q, ids₁, others, hq, hothers, rfl⟩ := hcons h
        refine .posed (fun id' hi => ?_) hq hothers
        rw [hid] at hi
        cases hi
        exact List.contains_iff_mem.mp hclaimed
      · rename_i hclaimed
        cases hold : old.get? id with
        | none => simp only [hold] at h; cases h
        | some o =>
          simp only [hold] at h
          obtain ⟨q, ids₁, others, hq, hothers, rfl⟩ := hcons h
          obtain ⟨hrevise, rfl⟩ := Minting.obey_ok.mp hq
          have hnew : id ∉ claimed := fun hmem => hclaimed (List.contains_iff_mem.mpr hmem)
          exact .kept hid hnew hold hrevise hothers

theorem Reconciles.settled {old : Keyed QuestionId Question} {claimed : List QuestionId}
    {inputs : List QuestionInput} {ids ids' : Ids} {qs : List Question}
    (h : Reconciles old claimed inputs ids qs ids') : ∀ q ∈ qs, q.Settled := by
  induction h with
  | nil => intro q hq; cases hq
  | posed hi hq hqs ih =>
    intro x hx
    rcases List.mem_cons.mp hx with rfl | hx
    · exact QuestionInput.settled_pose hq
    · exact ih x hx
  | kept hi hnew ho hq hqs ih =>
    intro x hx
    rcases List.mem_cons.mp hx with rfl | hx
    · exact .revised hq
    · exact ih x hx

/-- A questionnaire that is renewed belongs to the campaign and keeps the rules. -/
theorem QuestionnaireInput.renewal_ok {q : QuestionnaireInput} {id : CampaignId}
    {old : Option Questionnaire} (hold : ∀ o, old = some o → o.campaign = id) {ids ids' : Ids}
    {made : Questionnaire} (h : q.renewal id old ids = (.ok made, ids')) :
    ∃ questions, Questionnaire.create id q.description questions = .ok made ∧
      ∀ x ∈ questions, x.Settled := by
  cases old with
  | none =>
    obtain ⟨questions, _, hq, hcreate⟩ := Minting.bind_ok.mp h
    exact ⟨questions, (Minting.obey_ok.mp hcreate).1,
      Minting.mapM_ok (fun _ _ _ _ => QuestionInput.settled_pose) hq⟩
  | some o =>
    obtain ⟨questions, _, hq, hcreate⟩ := Minting.bind_ok.mp h
    refine ⟨questions, ?_, (Questionnaire.reconciled_ok hq).settled⟩
    rw [← hold o rfl]
    exact (Minting.obey_ok.mp hcreate).1

end Sponsorship
