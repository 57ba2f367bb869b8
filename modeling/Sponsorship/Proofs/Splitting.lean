import Sponsorship.Proofs.Failure
import Sponsorship.Proofs.Pointwise

/-!
# Sponsorship.Proofs.Splitting

A bulk command in two parts.

* `Keyed.Parts`, `Command.Splits`: two commands hold between them what a command holds, and have no
  blogger in common.
* `Batch.Parts`: the same of whom they address. A row that goes through one part and then through the
  other goes through the whole (`Batch.Parts.row`, `Command.Splits.examined`).
* `Command.Splits.first`, `Command.Splits.second`: where the whole succeeds, so does one part, and then
  the other.
* `AddsUp`, `split_batch`: the parts one after the other, in either order, after every history.
-/

namespace Sponsorship

open Time

/-! ## Parts -/

/-- Two maps without a key in common, and their union. -/
structure Keyed.Parts {κ α : Type} [DecidableEq κ] (both one two : Keyed κ α) : Prop where
  union : ∀ k, both.get? k = (one.get? k).or (two.get? k)
  apart : ∀ k, one.get? k = none ∨ two.get? k = none

theorem Keyed.Parts.symm {κ α : Type} [DecidableEq κ] {both one two : Keyed κ α}
    (h : both.Parts one two) : both.Parts two one where
  union k := by rw [h.union]; rcases h.apart k with hk | hk <;> simp [hk]
  apart k := (h.apart k).symm

theorem Keyed.Parts.map {κ α β : Type} [DecidableEq κ] {both one two : Keyed κ α}
    (h : both.Parts one two) (f : α → β) (k : κ) :
    (both.get? k).map f = ((one.get? k).map f).or ((two.get? k).map f) ∧
      ((one.get? k).map f = none ∨ (two.get? k).map f = none) := by
  rw [h.union]
  exact ⟨Option.map_or, (h.apart k).imp (fun hk => by rw [hk]; rfl) fun hk => by rw [hk]; rfl⟩

/-- A bulk command and two commands that hold between them what it holds. No blogger is in both. -/
inductive Command.Splits : Command → Command → Command → Prop
  | lottery {id : CampaignId} {both one two : Keyed BloggerId LotteryResult}
      (parts : both.Parts one two) :
      Splits (.applyLottery id both) (.applyLottery id one) (.applyLottery id two)
  | payment {id : CampaignId} {both one two : List BloggerId} (parts : both.Perm (one ++ two))
      (distinct : (one ++ two).Nodup) :
      Splits (.completePayment id both) (.completePayment id one) (.completePayment id two)
  | verdicts {id : CampaignId} {kind : EntryKind} {both one two : Keyed BloggerId Verdict}
      (parts : both.Parts one two) :
      Splits (.applyVerdicts id kind both) (.applyVerdicts id kind one) (.applyVerdicts id kind two)

theorem Command.Splits.symm {c c₁ c₂ : Command} (h : c.Splits c₁ c₂) : c.Splits c₂ c₁ := by
  cases h with
  | lottery parts => exact .lottery parts.symm
  | payment parts distinct =>
    exact .payment (parts.trans List.perm_append_comm) (List.perm_append_comm.nodup_iff.mp distinct)
  | verdicts parts => exact .verdicts parts.symm

/-- Two batches that share out the assignees of a third. -/
structure Batch.Parts (b b₁ b₂ : Batch) : Prop where
  campaigns : b₁.campaign = b.campaign ∧ b₂.campaign = b.campaign
  stages : b₁.stage = b.stage ∧ b₂.stage = b.stage
  union : ∀ flags x, b.step flags x = (b₁.step flags x).or (b₂.step flags x)
  apart : ∀ flags x, b₁.step flags x = none ∨ b₂.step flags x = none

theorem Command.Splits.batches {c c₁ c₂ : Command} (h : c.Splits c₁ c₂) : ∃ b b₁ b₂,
    c.batch? = some b ∧ c₁.batch? = some b₁ ∧ c₂.batch? = some b₂ ∧ b.Parts b₁ b₂ := by
  cases h with
  | lottery parts =>
    exact ⟨_, _, _, rfl, rfl, rfl, ⟨rfl, rfl⟩, ⟨rfl, rfl⟩, fun flags x => (parts.map _ x).1,
      fun flags x => (parts.map _ x).2⟩
  | @payment id both one two parts distinct =>
    refine ⟨_, _, _, rfl, rfl, rfl, ⟨rfl, rfl⟩, ⟨rfl, rfl⟩, fun flags x => ?_, fun flags x => ?_⟩
    · by_cases hx : x ∈ one
      · simp [hx, parts.mem_iff]
      · simp [hx, parts.mem_iff]
    · by_cases hx : x ∈ one
      · have hx' : x ∉ two := fun hx' => (List.nodup_append.mp distinct).2.2 x hx x hx' rfl
        exact .inr (if_neg hx')
      · exact .inl (if_neg hx)
  | verdicts parts =>
    exact ⟨_, _, _, rfl, rfl, rfl, ⟨rfl, rfl⟩, ⟨rfl, rfl⟩, fun flags x => (parts.map _ x).1,
      fun flags x => (parts.map _ x).2⟩

/-! ## Assignees -/

namespace Batch.Parts

variable {b b₁ b₂ : Batch} (h : b.Parts b₁ b₂) (flags : WorkflowFlags) (a : Assignee)

include h

theorem move?_or : b.move? flags a = (b₁.move? flags a).or (b₂.move? flags a) := by
  unfold move?
  rw [h.campaigns.1, h.campaigns.2, h.stages.1, h.stages.2]
  split
  · exact h.union flags a.blogger
  · rfl

/-- Whoever was moved by one part is not addressed by the other, before and after. -/
theorem move?_row : b₂.move? flags (b₁.row flags a) = b₂.move? flags a := by
  cases hm : b₁.move? flags a with
  | none => rw [row_of_unmoved hm]
  | some m =>
    have hstep : b₂.step flags a.blogger = none := by
      refine (h.apart flags a.blogger).resolve_left fun hnone => ?_
      rw [(move?_eq_some.mp hm).2.2] at hnone
      cases hnone
    unfold move?
    rw [b₁.row_blogger, hstep, ite_self, ite_self]

theorem row : b₂.row flags (b₁.row flags a) = b.row flags a := by
  have hrow := h.move?_row flags a
  have hor := h.move?_or flags a
  cases hm : b₁.move? flags a with
  | none =>
    rw [hm, Option.none_or] at hor
    rw [row_of_unmoved hm]
    unfold Batch.row
    rw [hor]
  | some m =>
    rw [hm, Option.some_or] at hor
    have hnone : b₂.move? flags a = none := by
      unfold move?
      rw [(h.apart flags a.blogger).resolve_left
        (by rw [(move?_eq_some.mp hm).2.2]; exact Option.some_ne_none m), ite_self]
    rw [row_of_unmoved (hrow.trans hnone), row_of_move? hm, row_of_move? hor]

end Batch.Parts

theorem countP_parts {b b₁ b₂ : Batch} (h : b.Parts b₁ b₂) (flags : WorkflowFlags)
    (as : List Assignee) : as.countP (b₁.addresses flags) +
      (as.map (b₁.row flags)).countP (b₂.addresses flags) = as.countP (b.addresses flags) := by
  induction as with
  | nil => rfl
  | cons a rest ih =>
    have hboth : b.addresses flags a = (b₁.addresses flags a || b₂.addresses flags a) := by
      unfold Batch.addresses
      rw [h.move?_or flags a, Option.isSome_or]
    have hrow : b₂.addresses flags (b₁.row flags a) = b₂.addresses flags a :=
      congrArg Option.isSome (h.move?_row flags a)
    have hapart : b₁.addresses flags a = false ∨ b₂.addresses flags a = false := by
      unfold Batch.addresses Batch.move?
      refine (h.apart flags a.blogger).imp (fun hs => ?_) fun hs => ?_
      · rw [hs, ite_self]; rfl
      · rw [hs, ite_self]; rfl
    simp only [List.map_cons, List.countP_cons, hboth, hrow, ← ih]
    rcases hapart with hm | hm
    · rw [hm, Bool.false_or, if_neg Bool.false_ne_true]
      omega
    · rw [hm, Bool.or_false, if_neg Bool.false_ne_true]
      omega

/-! ## Submissions -/

section Submissions

variable {c c₁ c₂ : Command} {b₁ : Batch} {t t' : Tables} {report : Report} {e : Examination}
  {flags : WorkflowFlags}

/-- Verdicts do not change which submission is the latest. -/
theorem Pointwise.isLatest_iff (h : Pointwise c b₁ t t' report)
    (hd : (t.examinations.map Examination.id).Nodup) (he : e ∈ t.examinations) :
    t'.IsLatest (c.examined t e) ↔ t.IsLatest e := by
  have hdate : ∀ e, (c.examined t e).createdAt = e.createdAt := fun e =>
    (c.examined_eq t e).2.2.2.2
  obtain ⟨_, hcampaign, hassignee, hkind, _⟩ := c.examined_eq t e
  have hsubmissions : t'.submissions e.campaign e.assignee e.kind =
      (t.submissions e.campaign e.assignee e.kind).map (c.examined t) := by
    unfold Tables.submissions
    rw [h.tables, List.filter_map]
    congr 1
    refine List.filter_congr fun x _ => ?_
    obtain ⟨_, hxc, hxa, hxk, _⟩ := c.examined_eq t x
    simp only [Function.comp, hxc, hxa, hxk]
  unfold Tables.IsLatest
  rw [hcampaign, hassignee, hkind, hsubmissions, latest?_map hdate, Option.map_eq_some_iff]
  constructor
  · rintro ⟨o, ho, hoe⟩
    have hmem := (Tables.mem_submissions.mp (Tables.latest?_mem ho)).1
    have hid : o.id = e.id := by rw [← (c.examined_eq t o).1, hoe, (c.examined_eq t e).1]
    rw [List.inj_on_of_nodup_map hd hmem he hid] at ho
    exact ho
  · exact fun ho => ⟨e, ho, rfl⟩

theorem Pointwise.author? (h : Pointwise c b₁ t t' report) (e : Examination) :
    t'.author? (c.examined t e) = (t.author? e).map (b₁.row (t.flagsOf b₁.campaign)) := by
  unfold Tables.author?
  rw [h.tables, List.find?_map, (c.examined_eq t e).2.2.1]
  congr 2
  funext a
  simp

namespace Command.Splits

theorem verdict?_or (h : c.Splits c₁ c₂) (t : Tables) (e : Examination) :
    c.verdict? t e = (c₁.verdict? t e).or (c₂.verdict? t e) ∧
      (c₁.verdict? t e = none ∨ c₂.verdict? t e = none) := by
  cases h with
  | lottery parts => exact ⟨rfl, .inl rfl⟩
  | payment parts distinct => exact ⟨rfl, .inl rfl⟩
  | @verdicts id kind both one two parts =>
    unfold verdict?
    by_cases hrow : e.campaign = id ∧ e.kind = kind ∧ t.IsLatest e
    · simp only [if_pos hrow]
      cases t.author? e with
      | none => exact ⟨rfl, .inl rfl⟩
      | some a =>
        simp only [Option.bind_some]
        by_cases haddressed : a.campaign = id ∧ a.stage = Store.examinedStage kind
        · simp only [if_pos haddressed]
          exact ⟨parts.union _, parts.apart _⟩
        · simp [if_neg haddressed]
    · simp [if_neg hrow]

/-- Whoever has a verdict in one part stays where the other part found it. -/
theorem row_of_other {id : CampaignId} {kind : EntryKind} {both one two : Keyed BloggerId Verdict}
    (parts : both.Parts one two) (hb : (applyVerdicts id kind one).batch? = some b₁) {a : Assignee}
    {v : Verdict} (hv : two.get? (b₁.row flags a).blogger = some v) : b₁.row flags a = a := by
  rw [b₁.row_blogger] at hv
  refine Batch.row_of_unmoved ?_
  cases hb
  have hnone := (parts.apart a.blogger).resolve_right (by rw [hv]; exact Option.some_ne_none v)
  simp only [Batch.move?, hnone, Option.map_none, ite_self]

/-- One part does not change what the other has to say about a submission. -/
theorem verdict?_examined (hs : c.Splits c₁ c₂) (hb : c₁.batch? = some b₁)
    (h : Pointwise c₁ b₁ t t' report) (hd : (t.examinations.map Examination.id).Nodup)
    (he : e ∈ t.examinations) : c₂.verdict? t' (c₁.examined t e) = c₂.verdict? t e := by
  have hauthor := h.author? e
  have hlatest := h.isLatest_iff hd he
  obtain ⟨_, hcampaign, _, hkind, _⟩ := c₁.examined_eq t e
  cases hs with
  | lottery parts => rfl
  | payment parts distinct => rfl
  | @verdicts id kind both one two parts =>
    ext v
    rw [verdict?_applyVerdicts, verdict?_applyVerdicts, hcampaign, hkind, hlatest, hauthor]
    refine and_congr_right fun _ => ?_
    constructor
    · rintro ⟨_, hfound, hstage, hv⟩
      obtain ⟨a, ha, rfl⟩ := Option.map_eq_some_iff.mp hfound
      rw [row_of_other parts hb hv] at hstage hv
      exact ⟨a, ha, hstage, hv⟩
    · rintro ⟨a, ha, hstage, hv⟩
      have hrow : b₁.row (t.flagsOf b₁.campaign) a = a := by
        refine row_of_other parts hb (v := v) ?_
        rw [b₁.row_blogger]
        exact hv
      exact ⟨a, Option.map_eq_some_iff.mpr ⟨a, ha, hrow⟩, hstage, hv⟩

/-- A submission that goes through one part and then through the other goes through the whole. -/
theorem examined (hs : c.Splits c₁ c₂) (hb : c₁.batch? = some b₁)
    (h : Pointwise c₁ b₁ t t' report) (hd : (t.examinations.map Examination.id).Nodup)
    (he : e ∈ t.examinations) : c₂.examined t' (c₁.examined t e) = c.examined t e := by
  have hsame := hs.verdict?_examined hb h hd he
  obtain ⟨hor, hapart⟩ := hs.verdict?_or t e
  cases hv : c₁.verdict? t e with
  | none =>
    rw [hv, Option.none_or] at hor
    rw [examined_of_unjudged hv] at hsame ⊢
    unfold Command.examined
    rw [hsame, hor]
  | some v =>
    rw [hv, Option.some_or] at hor
    have hnone := hapart.resolve_left (by rw [hv]; exact Option.some_ne_none v)
    rw [examined_of_unjudged (hsame.trans hnone), examined_of_verdict? hv, examined_of_verdict? hor]

end Command.Splits

end Submissions

/-! ## Both parts -/

/-- Part after part leaves the tables that the whole leaves. -/
theorem Pointwise.parts {c c₁ c₂ : Command} {b b₁ b₂ : Batch} {t t₁ t₂ t' : Tables}
    {report r₁ r₂ : Report} (hs : c.Splits c₁ c₂) (hb : b.Parts b₁ b₂) (hb₁ : c₁.batch? = some b₁)
    (hd : (t.examinations.map Examination.id).Nodup) (h : Pointwise c b t t' report)
    (h₁ : Pointwise c₁ b₁ t t₁ r₁) (h₂ : Pointwise c₂ b₂ t₁ t₂ r₂) :
    t₂ = t' ∧ r₁.moved + r₂.moved = report.moved := by
  have hcampaigns : t₁.campaigns = t.campaigns := by rw [h₁.tables]
  have hflags : t₁.flagsOf b.campaign = t.flagsOf b.campaign := by
    unfold Tables.flagsOf Tables.campaign?; rw [hcampaigns]
  have hassignees : t₁.assignees = t.assignees.map (b₁.row (t.flagsOf b.campaign)) := by
    rw [h₁.tables, hb.campaigns.1]
  constructor
  · have hall : t₁.assignees.map (b₂.row (t.flagsOf b.campaign)) =
        t.assignees.map (b.row (t.flagsOf b.campaign)) := by
      rw [hassignees, List.map_map]
      exact List.map_congr_left fun a _ => hb.row _ a
    have hevery : t₁.examinations.map (c₂.examined t₁) = t.examinations.map (c.examined t) := by
      have hexaminations : t₁.examinations = t.examinations.map (c₁.examined t) := by rw [h₁.tables]
      rw [hexaminations, List.map_map]
      exact List.map_congr_left fun e he => hs.examined hb₁ h₁ hd he
    rw [h₂.tables, h.tables, hb.campaigns.2, hflags, hall, hevery, h₁.tables]
  · rw [h.moved, h₁.moved, h₂.moved, hb.campaigns.1, hb.campaigns.2, hflags, hassignees]
    exact countP_parts hb _ _

/-! ## Success -/

theorem FailsExactly.ok_iff {r : Except Fault Outcome} {P : Prop} {E : Fault → Prop}
    (h : FailsExactly r P E) : (∃ outcome, r = .ok outcome) ↔ ¬ P := by
  rw [← h.fails_iff]
  cases r with
  | ok outcome => simp
  | error f => simp

section Success

variable {c c₁ c₂ : Command} {w w₁ : World Memory}

/-- One part succeeds where the whole does. -/
theorem Command.Splits.first (hs : c.Splits c₁ c₂) (h : Sound w.unit) {o : Occasion}
    (hrun : ∃ outcome, (o.service.run c w).1 = .ok outcome) (o₁ : Occasion) :
    ∃ outcome, (o₁.service.run c₁ w).1 = .ok outcome := by
  have hwhole := bulkFailures_of_sound o h
  have hpart := bulkFailures_of_sound o₁ h
  cases hs with
  | lottery parts =>
    exact (hpart.lottery _ _).ok_iff.mpr ((hwhole.lottery _ _).ok_iff.mp hrun)
  | payment parts distinct =>
    obtain ⟨_, hthere⟩ := not_or.mp ((hwhole.payment _ _).ok_iff.mp hrun)
    refine (hpart.payment _ _).ok_iff.mpr (not_or.mpr ⟨not_not_intro ?_, hthere⟩)
    exact (List.nodup_append.mp distinct).1
  | verdicts parts =>
    refine (hpart.verdicts _ _ _).ok_iff.mpr ?_
    rintro ⟨a, ha, hid, hstage, v, hv, hgroundless⟩
    refine (hwhole.verdicts _ _ _).ok_iff.mp hrun ⟨a, ha, hid, hstage, v, ?_, hgroundless⟩
    rw [parts.union, hv, Option.some_or]

/-- The other part succeeds after it. -/
theorem Command.Splits.second {b₁ : Batch} {r₁ : Report} (hs : c.Splits c₁ c₂) (h : Sound w.unit)
    (h₁ : Sound w₁.unit) {o : Occasion} (hrun : ∃ outcome, (o.service.run c w).1 = .ok outcome)
    (hb : c₁.batch? = some b₁) (hp : Pointwise c₁ b₁ w.state.tables w₁.state.tables r₁)
    (o₂ : Occasion) : ∃ outcome, (o₂.service.run c₂ w₁).1 = .ok outcome := by
  have hwhole := bulkFailures_of_sound o h
  have hpart := bulkFailures_of_sound o₂ h₁
  have hhas : ∀ id, w₁.state.tables.Has id ↔ w.state.tables.Has id := by
    intro id
    unfold Tables.Has
    rw [hp.tables]
  cases hs with
  | lottery parts =>
    refine (hpart.lottery _ _).ok_iff.mpr ?_
    rw [hhas]
    exact (hwhole.lottery _ _).ok_iff.mp hrun
  | payment parts distinct =>
    obtain ⟨_, hthere⟩ := not_or.mp ((hwhole.payment _ _).ok_iff.mp hrun)
    refine (hpart.payment _ _).ok_iff.mpr (not_or.mpr ⟨not_not_intro ?_, ?_⟩)
    · exact (List.nodup_append.mp distinct).2.1
    · rw [hhas]; exact hthere
  | @verdicts id kind both one two parts =>
    refine (hpart.verdicts _ _ _).ok_iff.mpr ?_
    rintro ⟨a, ha, hid, hstage, v, hv, hgroundless⟩
    rw [hp.tables] at ha
    obtain ⟨x, hx, rfl⟩ := List.mem_map.mp ha
    have hrow := Command.Splits.row_of_other parts hb hv
    rw [hrow] at hid hstage hv
    refine (hwhole.verdicts _ _ _).ok_iff.mp hrun ⟨x, hx, hid, hstage, v, ?_, hgroundless⟩
    rw [parts.symm.union, hv, Option.some_or]

end Success

/-! ## Commands -/

/-- What command `v` did with a report is done by `v₁` and then `v₂`, who report `r₁` and `r₂`. -/
structure AddsUp (history : List Visit) (v v₁ v₂ : Visit) (report r₁ r₂ : Report) : Prop where
  first : (v₁.service.run v₁.command (World.start.after history)).1 = .ok (.reported r₁)
  second : (v₂.service.run v₂.command (World.start.after (history ++ [v₁]))).1 = .ok (.reported r₂)
  tables : (World.start.after (history ++ [v₁, v₂])).state.tables =
    (World.start.after (history ++ [v])).state.tables
  moved : r₁.moved + r₂.moved = report.moved

theorem Command.Splits.addsUp {history : List Visit} {v v₁ v₂ : Visit} {report : Report}
    (hs : v.command.Splits v₁.command v₂.command)
    (hrun : (v.service.run v.command (World.start.after history)).1 = .ok (.reported report)) :
    ∃ r₁ r₂, AddsUp history v v₁ v₂ report r₁ r₂ := by
  obtain ⟨b, b₁, b₂, hb, hb₁, hb₂, hparts⟩ := hs.batches
  have h := stored_after history
  have h' := stored_after (history ++ [v₁])
  rw [World.after_concat] at h'
  obtain ⟨_, hreport, hp⟩ := (run_pointwise h v.toOccasion hb).ok (Prod.ext hrun rfl)
  cases hreport
  obtain ⟨_, hfirst⟩ := hs.first h.sound ⟨_, hrun⟩ v₁.toOccasion
  obtain ⟨r₁, rfl, hp₁⟩ := (run_pointwise h v₁.toOccasion hb₁).ok (Prod.ext hfirst rfl)
  obtain ⟨_, hsecond⟩ := hs.second h.sound h'.sound ⟨_, hrun⟩ hb₁ hp₁ v₂.toOccasion
  obtain ⟨r₂, rfl, hp₂⟩ := (run_pointwise h' v₂.toOccasion hb₂).ok (Prod.ext hsecond rfl)
  obtain ⟨htables, hmoved⟩ := hp.parts hs hparts hb₁ h.sound.examinations.nodup hp₁ hp₂
  have htwo : history ++ [v₁, v₂] = (history ++ [v₁]) ++ [v₂] := by simp
  refine ⟨r₁, r₂, hfirst, ?_, ?_, hmoved⟩
  · rw [World.after_concat]; exact hsecond
  · rw [htwo]
    simp only [World.after_concat]
    exact htables

/-- After every history, where a bulk command succeeds that holds what two commands hold between them,
each of the two succeeds, and the other after it. Together they leave the tables that it leaves and
move as many as it moves, whatever the occasions. -/
theorem split_batch (history : List Visit) {v v₁ v₂ : Visit} {outcome : Outcome}
    (hs : v.command.Splits v₁.command v₂.command)
    (hrun : (v.service.run v.command (World.start.after history)).1 = .ok outcome) :
    ∃ report, outcome = .reported report ∧
      (∃ r₁ r₂, AddsUp history v v₁ v₂ report r₁ r₂) ∧
      ∃ r₁ r₂, AddsUp history v v₂ v₁ report r₁ r₂ := by
  obtain ⟨b, _, _, hb, _⟩ := hs.batches
  obtain ⟨report, rfl, _⟩ :=
    (run_pointwise (stored_after history) v.toOccasion hb).ok (Prod.ext hrun rfl)
  exact ⟨report, rfl, hs.addsUp hrun, hs.symm.addsUp hrun⟩

/-- The article of the other assignee is rejected. -/
def rejectingVisit : Visit :=
  visitAt 5 (.applyVerdicts ⟨"id-0001"⟩ .entry (Keyed.ofList
    [(⟨"other"⟩, { passed := false, examiner := "examiner", reason := some "reason" })]))

/-- Both articles are judged. -/
def judgingVisit : Visit :=
  visitAt 6 (.applyVerdicts ⟨"id-0001"⟩ .entry (Keyed.ofList
    [(⟨"blogger"⟩, { passed := true, examiner := "examiner" }),
      (⟨"other"⟩, { passed := false, examiner := "examiner", reason := some "reason" })]))

theorem split_batch_of_pairCourse :
    judgingVisit.command.Splits passingVisit.command rejectingVisit.command ∧
    (judgingVisit.service.run judgingVisit.command (World.start.after pairCourse)).1 =
      .ok (.reported { moved := 2, skipped := 0 }) ∧
    (∃ r₁ r₂, AddsUp pairCourse judgingVisit passingVisit rejectingVisit
      { moved := 2, skipped := 0 } r₁ r₂) ∧
    ∃ r₁ r₂, AddsUp pairCourse judgingVisit rejectingVisit passingVisit
      { moved := 2, skipped := 0 } r₁ r₂ := by
  have hsplits : judgingVisit.command.Splits passingVisit.command rejectingVisit.command := by
    refine .verdicts ⟨fun x => ?_, fun x => ?_⟩
    · simp only [Keyed.ofList, List.foldl, Keyed.get?_insert, Keyed.get?_empty]
      by_cases hx : x = ⟨"other"⟩
      · subst hx; rfl
      · rw [if_neg hx, if_neg hx, Option.or_none]
    · simp only [Keyed.ofList, List.foldl, Keyed.get?_insert, Keyed.get?_empty]
      by_cases hx : x = ⟨"other"⟩
      · subst hx; exact .inl rfl
      · exact .inr (if_neg hx)
  have hrun : (judgingVisit.service.run judgingVisit.command (World.start.after pairCourse)).1 =
      .ok (.reported { moved := 2, skipped := 0 }) := by decide +kernel
  obtain ⟨report, hreport, h⟩ := split_batch pairCourse hsplits hrun
  cases hreport
  exact ⟨hsplits, hrun, h⟩

end Sponsorship
