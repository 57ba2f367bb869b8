import Sponsorship.Proofs.Effect

/-!
# Sponsorship.Proofs.Failure

When the commands that work on many assignees at once fail.

* `FailsExactly r P E`: the result `r` is a fault exactly if `P`, and then it is one in `E`.
* `BulkFailures`: whoever waits for a verdict has submitted something, so that verdicts fail at
  rejections without a reason alone, and the other bulk commands without the campaign alone, or at a
  blogger who is listed twice.
* `bulk_failures`: that is so after every history.
-/

namespace Sponsorship

open Time

/-- The result is a fault exactly if `P`, and then it is one in `E`. -/
structure FailsExactly (r : Except Fault Outcome) (P : Prop) (E : Fault → Prop) : Prop where
  fails_iff : (∃ f, r = .error f) ↔ P
  fault : ∀ f, r = .error f → E f

/-- A campaign is there. -/
def Tables.Has (t : Tables) (id : CampaignId) : Prop := ∃ c ∈ t.campaigns, c.id = id

theorem Tables.campaign?_isSome_iff {t : Tables} {id : CampaignId} :
    (t.campaign? id).isSome ↔ t.Has id := by
  unfold campaign? Has
  rw [List.find?_isSome]
  simp

theorem Tables.campaign?_eq_none_iff {t : Tables} {id : CampaignId} :
    t.campaign? id = none ↔ ¬ t.Has id := by
  rw [← campaign?_isSome_iff, Option.not_isSome_iff_eq_none]

variable {w : World Memory} {P : Prop} {E : Fault → Prop}

theorem FailsExactly.of_ends {t : Task Memory Outcome}
    (h : Ends t w (fun _ _ => ¬ P) fun f => E f ∧ P) : FailsExactly (t w).1 P E := by
  rcases hr : t w with ⟨r, w'⟩
  cases r with
  | ok a =>
    constructor
    · exact ⟨fun ⟨_, hf⟩ => (by cases hf), fun hp => absurd hp (h.ok hr)⟩
    · intro _ hf; cases hf
  | error f =>
    obtain ⟨he, hp⟩ := h.error hr
    constructor
    · exact ⟨fun _ => hp, fun _ => ⟨f, rfl⟩⟩
    · intro _ hf; cases hf; exact he

/-- A unit that proceeds if the campaign is there fails exactly if it is not. -/
theorem Proceeds.failsExactly {α : Type} {body : Task Tables α} (now : Instant) {id : CampaignId}
    (h : Proceeds now id body w.unit) (g : α → Outcome) :
    FailsExactly ((g <$> Store.memory.transact body : Task Memory Outcome) w).1
      (¬ w.state.tables.Has id) (· = .notFound (.campaign id)) := by
  refine .of_ends (.map (h.transact.mono (fun _ _ hq => ?_) fun f hf => ?_))
  · exact not_not_intro (Tables.campaign?_isSome_iff.mp hq.1)
  · exact ⟨hf.1, Tables.campaign?_eq_none_iff.mp hf.2⟩

/-- When the bulk commands fail that meet an occasion in a world. -/
structure BulkFailures (o : Occasion) (w : World Memory) : Prop where
  drafts : ∀ a ∈ w.state.tables.assignees, a.stage = .preExamination →
    w.state.tables.Submitted a.campaign a.id .draft
  entries : ∀ a ∈ w.state.tables.assignees, a.stage = .examination →
    w.state.tables.Submitted a.campaign a.id .entry
  verdicts : ∀ id kind verdicts, FailsExactly (o.service.run (.applyVerdicts id kind verdicts) w).1
    (∃ a ∈ w.state.tables.assignees, a.campaign = id ∧ a.stage = Store.examinedStage kind ∧
      ∃ v, verdicts.get? a.blogger = some v ∧ v.passed = false ∧
        (v.reason = none ∨ v.reason = some ""))
    (· = .validation .verdictReasonLacking)
  invite : ∀ id, FailsExactly (o.service.run (.invite id) w).1 (¬ w.state.tables.Has id)
    (· = .notFound (.campaign id))
  lottery : ∀ id results, FailsExactly (o.service.run (.applyLottery id results) w).1
    (¬ w.state.tables.Has id) (· = .notFound (.campaign id))
  shipment : ∀ id, FailsExactly (o.service.run (.finishShipment id) w).1
    (¬ w.state.tables.Has id) (· = .notFound (.campaign id))
  complete : ∀ id, FailsExactly (o.service.run (.complete id) w).1 (¬ w.state.tables.Has id)
    (· = .notFound (.campaign id))
  payment : ∀ id bloggers, FailsExactly (o.service.run (.completePayment id bloggers) w).1
    (¬ bloggers.Nodup ∨ ¬ w.state.tables.Has id)
    fun f => (∃ b ∈ bloggers, f = .validation (.bloggerListedTwice b)) ∨ f = .notFound (.campaign id)

theorem Verdict.groundless_iff {v : Verdict} :
    v.Groundless ↔ v.passed = false ∧ (v.reason = none ∨ v.reason = some "") := by
  unfold Groundless
  cases v.reason <;> simp

theorem Occasion.verdicts_failsExactly (o : Occasion) (h : Sound w.unit) (id : CampaignId)
    (kind : EntryKind) (verdicts : Keyed BloggerId Verdict) :
    FailsExactly (o.service.run (.applyVerdicts id kind verdicts) w).1
      (∃ a ∈ w.state.tables.assignees, a.campaign = id ∧ a.stage = Store.examinedStage kind ∧
        ∃ v, verdicts.get? a.blogger = some v ∧ v.passed = false ∧
          (v.reason = none ∨ v.reason = some ""))
      (· = .validation .verdictReasonLacking) := by
  refine .of_ends (.map ((@applyVerdicts_ends o.now id _ h kind verdicts).transact.mono
    (fun _ _ hq => ?_) fun f hf => ⟨hf.1, ?_⟩))
  · rintro ⟨a, ha, hid, hstage, v, hv, hgroundless⟩
    refine hq.2 a (Tables.mem_assigneesOf.mpr ⟨ha, hid, fun s hs => ?_⟩)
      ⟨v, hv, Verdict.groundless_iff.mpr hgroundless⟩
    cases hs; exact hstage
  · obtain ⟨a, ha, v, hv, hgroundless⟩ := hf.2
    obtain ⟨hmem, hid, hstage⟩ := Tables.mem_assigneesOf.mp ha
    exact ⟨a, hmem, hid, hstage _ rfl, v, hv, Verdict.groundless_iff.mp hgroundless⟩

theorem Occasion.payment_failsExactly (o : Occasion) (h : Sound w.unit) (id : CampaignId)
    (bloggers : List BloggerId) :
    FailsExactly (o.service.run (.completePayment id bloggers) w).1
      (¬ bloggers.Nodup ∨ ¬ w.state.tables.Has id)
      fun f => (∃ b ∈ bloggers, f = .validation (.bloggerListedTwice b)) ∨
        f = .notFound (.campaign id) := by
  simp only [Service.run]
  cases hrepeat : firstRepeat? [] bloggers with
  | some b =>
    have hd : ¬ bloggers.Nodup := fun hd => by
      rw [firstRepeat?_nil_eq_none_iff.mpr hd] at hrepeat
      cases hrepeat
    refine ⟨⟨fun _ => .inl hd, fun _ => ⟨_, rfl⟩⟩, fun f hf => ?_⟩
    cases hf
    exact .inl ⟨b, mem_of_firstRepeat? hrepeat, rfl⟩
  | none =>
    have hd := firstRepeat?_nil_eq_none_iff.mp hrepeat
    have hends : Proceeds o.now id (Store.memory.completePayment id bloggers) w.unit :=
      completePayment_ends h bloggers
    have hfails := hends.failsExactly o.now Outcome.reported
    refine ⟨hfails.fails_iff.trans ?_, fun f hf => .inr (hfails.fault f hf)⟩
    simp [hd]

theorem bulkFailures_of_sound (o : Occasion) (h : Sound w.unit) : BulkFailures o w where
  drafts a ha hs := h.submitted a ha .draft (by rw [hs]; rfl)
  entries a ha hs := h.submitted a ha .entry (by rw [hs]; rfl)
  verdicts := o.verdicts_failsExactly h
  invite _ := Proceeds.failsExactly o.now (invite_ends h) _
  lottery _ results := Proceeds.failsExactly o.now (applyLottery_ends h results) _
  shipment _ := Proceeds.failsExactly o.now (finishShipment_ends h) _
  complete _ := Proceeds.failsExactly o.now (complete_ends h) _
  payment := o.payment_failsExactly h

/-- After every history the bulk commands fail in these cases alone. -/
theorem bulk_failures (history : List Visit) (o : Occasion) :
    BulkFailures o (World.start.after history) :=
  bulkFailures_of_sound o (sound_after history)

end Sponsorship
