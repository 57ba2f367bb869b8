import Sponsorship.Proofs.Idle
import Sponsorship.Proofs.Ownership

/-!
# Sponsorship.Proofs.Verdicts

What a command does to the submissions that are stored.

* `Examination.unjudged`: a row without its verdict.
* `Revised t t'`: the rows are the same but for verdicts on the latest of their assignee and kind.
* `Revises`: work that revises rows at most, whether it succeeds or fails.
* `Visit.made`, `Visit.Submits`: the row that a submission makes.
* `Visit.rowEffect`: every command makes one row, deletes those of a campaign, or revises rows at most.
-/

namespace Sponsorship

open Time

/-! ## Rows and verdicts -/

/-- A row without its verdict. -/
def Examination.unjudged (e : Examination) : Examination :=
  { e with passed := none, examiner := none, reason := none }

/-- What keeps the dates keeps which one is the latest. -/
theorem latest?_map {f : Examination → Examination} (hf : ∀ e, (f e).createdAt = e.createdAt)
    (es : List Examination) : latest? (es.map f) = (latest? es).map f := by
  cases es with
  | nil => rfl
  | cons first rest =>
    simp only [List.map_cons, latest?, Option.map_some, Option.some.injEq]
    induction rest generalizing first with
    | nil => rfl
    | cons e rest ih =>
      simp only [List.map_cons, List.foldl_cons, hf]
      by_cases he : e.createdAt.before first.createdAt = true
      · rw [if_pos he, if_pos he]
        exact ih first
      · rw [if_neg he, if_neg he]
        exact ih e

namespace Tables

variable {t t' : Tables} {id : CampaignId} {x : AssigneeId} {kind : EntryKind}

/-- All rows without their verdicts. -/
def sent (t : Tables) : List Examination := t.examinations.map Examination.unjudged

theorem submissions_unjudged (t : Tables) (id : CampaignId) (x : AssigneeId) (kind : EntryKind) :
    (t.submissions id x kind).map Examination.unjudged =
      t.sent.filter fun e => e.campaign = id ∧ e.assignee = x ∧ e.kind = kind := by
  unfold submissions sent
  rw [List.filter_map]
  rfl

/-- Which submission is the latest does not depend on verdicts. -/
theorem latest?_unjudged (h : t'.sent = t.sent) (id : CampaignId) (x : AssigneeId)
    (kind : EntryKind) :
    (latest? (t'.submissions id x kind)).map Examination.unjudged =
      (latest? (t.submissions id x kind)).map Examination.unjudged := by
  have hdate : ∀ e : Examination, e.unjudged.createdAt = e.createdAt := fun _ => rfl
  rw [← latest?_map hdate, ← latest?_map hdate, submissions_unjudged, submissions_unjudged, h]

/-- A row is the latest submission of its assignee and kind. -/
def IsLatest (t : Tables) (e : Examination) : Prop :=
  latest? (t.submissions e.campaign e.assignee e.kind) = some e

theorem ids_sent (t : Tables) : t.sent.map Examination.id = t.examinations.map Examination.id := by
  unfold sent
  rw [List.map_map]
  rfl

end Tables

/-- The rows are the same but for verdicts, and those that are not as they were are the latest of their
assignee and kind. -/
structure Revised (t t' : Tables) : Prop where
  sent : t'.sent = t.sent
  latest : ∀ e ∈ t.examinations, e ∈ t'.examinations ∨ t.IsLatest e

namespace Revised

variable {t t' t'' : Tables}

theorem of_eq (h : t'.examinations = t.examinations) : Revised t t' := by
  constructor
  · unfold Tables.sent
    rw [h]
  · intro e he
    exact .inl (h ▸ he)

theorem ids (h : Revised t t') :
    t'.examinations.map Examination.id = t.examinations.map Examination.id := by
  rw [← t'.ids_sent, h.sent, t.ids_sent]

/-- A row that is the latest after verdicts was the latest before: dates do not change. -/
theorem isLatest (h : Revised t t') (hd : (t.examinations.map Examination.id).Nodup)
    {e : Examination} (he : e ∈ t.examinations) (hlatest : t'.IsLatest e) : t.IsLatest e := by
  have hsame := Tables.latest?_unjudged h.sent e.campaign e.assignee e.kind
  rw [hlatest, Option.map_some] at hsame
  obtain ⟨o, ho, hoe⟩ := Option.map_eq_some_iff.mp hsame.symm
  have hmem := (Tables.mem_submissions.mp (Tables.latest?_mem ho)).1
  have hid : o.id = e.id := congrArg (fun r => r.id) hoe
  rw [List.inj_on_of_nodup_map hd hmem he hid] at ho
  exact ho

theorem trans (hd : (t.examinations.map Examination.id).Nodup) (h : Revised t t')
    (h' : Revised t' t'') : Revised t t'' := by
  refine ⟨h'.sent.trans h.sent, fun e he => ?_⟩
  rcases h.latest e he with he' | hlatest
  · exact (h'.latest e he').imp_right (h.isLatest hd he)
  · exact .inr hlatest

/-- A verdict on the latest submission. -/
theorem judged (hd : (t.examinations.map Examination.id).Nodup) {id : CampaignId} {x : AssigneeId}
    {kind : EntryKind} {e e' : Examination} {v : Verdict}
    (he : t.latestExamination? id x kind = some e) (hj : e.judge v = .ok e') :
    Revised t (t.putExamination e') := by
  obtain ⟨o, n, ho, rfl⟩ := Tables.latestExamination?_mem he
  obtain ⟨_, rfl⟩ := Examination.judge_ok.mp hj
  obtain ⟨hmem, hcampaign, hassignee, hkind⟩ := Tables.mem_submissions.mp (Tables.latest?_mem ho)
  have hown : ∀ r ∈ t.examinations, r.id = o.id → r = o := fun r hr hid =>
    List.inj_on_of_nodup_map hd hr hmem hid
  constructor
  · refine map_amend fun r hr hid => ?_
    rw [hown r hr hid]
    rfl
  · intro r hr
    by_cases hid : r.id = o.id
    · right
      rw [hown r hr hid]
      unfold Tables.IsLatest
      rw [hcampaign, hassignee, hkind]
      exact ho
    · exact .inl (mem_amend.mpr (.inl ⟨hr, hid⟩))

end Revised

/-! ## What work does to the rows -/

/-- What is written of a judged submission revises rows. -/
theorem Revised.updateExamination {t : Tables} (hd : (t.examinations.map Examination.id).Nodup)
    {id : CampaignId} {x : AssigneeId} {kind : EntryKind} {e e' : Examination} {v : Verdict}
    (he : t.latestExamination? id x kind = some e) (hj : e.judge v = .ok e') :
    Revised t (t.answer (.updateExamination e')).2 := by
  obtain ⟨o, hmem, _, hid, _⟩ := Tables.judged_row he hj
  have hkey : e'.id ∈ t.examinations.map Examination.id := List.mem_map.mpr ⟨o, hmem, hid.symm⟩
  have hput : (t.answer (.updateExamination e')).2 = t.putExamination e' := by
    simp only [Tables.answer, replaceFirst?_key hd hkey, Option.map_some, Tables.changed]
    rfl
  rw [hput]
  exact .judged hd he hj

/-- Work that revises rows at most, whether it succeeds or fails. -/
def Revises {α : Type} (t : Task Tables α) : Prop :=
  ∀ w, (w.state.examinations.map Examination.id).Nodup → Revised w.state (t w).2.state

namespace Revises

variable {α β : Type}

theorem of_preserves {t : Task Tables α} (h : Preserves Tables.examinations t) : Revises t :=
  fun w _ => .of_eq (h w)

theorem bind {x : Task Tables α} {f : α → Task Tables β} (hx : Revises x)
    (hf : ∀ a, Revises (f a)) : Revises (x >>= f : Task Tables β) := by
  intro w hd
  have hw := hx w hd
  rw [run_bind]
  rcases hr : x w with ⟨r, w₁⟩
  rw [hr] at hw
  cases r with
  | ok a => exact hw.trans hd (hf a w₁ (hw.ids ▸ hd))
  | error f => exact hw

theorem tally {step : Assignee → Task Tables Bool} (h : ∀ a, Revises (step a))
    (as : List Assignee) : Revises (Sponsorship.tally step as) := by
  induction as with
  | nil => exact of_preserves (.ofExcept _)
  | cons a rest ih => exact bind (h a) fun _ => bind ih fun _ => of_preserves (.ofExcept _)

end Revises

/-- Writing an assignee leaves the rows alone, whether it is there or not. -/
theorem preserves_updateAssignee (a : Assignee) :
    Preserves Tables.examinations (Store.memory.call (.updateAssignee a)) := by
  refine .call fun t => ?_
  simp only [Tables.answer]
  cases replaceFirst? (fun o => decide (o.id = a.id)) (fun _ => a) t.assignees with
  | none => rfl
  | some assignees => rfl

theorem revises_applyVerdict (id : CampaignId) (kind : EntryKind)
    (verdicts : Keyed BloggerId Verdict) (a : Assignee) :
    Revises (Store.memory.applyVerdict id kind verdicts a) := by
  unfold Store.applyVerdict
  cases verdicts.get? a.blogger with
  | none => exact .of_preserves (.ofExcept _)
  | some v =>
    intro w hd
    have hread : Store.memory.call (.latestExamination id a.id kind true) w =
        (Tables.found (w.state.latestExamination? id a.id kind) (.submission kind a.id), w) := rfl
    dsimp only
    rw [run_bind, hread]
    cases he : w.state.latestExamination? id a.id kind with
    | none => exact .of_eq rfl
    | some e =>
      dsimp only [Tables.found]
      cases hj : e.judge v with
      | error rule => exact .of_eq rfl
      | ok e' =>
        rw [(Task.idle_obey rfl).run_bind]
        cases hm : a.move (Store.judgement kind v.passed) with
        | error rule => exact .of_eq rfl
        | ok a' =>
          rw [(Task.idle_obey rfl).run_bind, run_bind]
          have hput : Revised w.state (Store.memory.call (.updateExamination e') w).2.state :=
            .updateExamination hd he hj
          rcases hr : Store.memory.call (.updateExamination e') w with ⟨r, w₁⟩
          rw [hr] at hput
          cases r with
          | error f => exact hput
          | ok u =>
            -- after the judged row nothing but the assignee is written
            have hrest : Preserves Tables.examinations (do
                Store.memory.call (.updateAssignee a')
                return true) := .bind (preserves_updateAssignee a') fun _ => .ofExcept _
            exact hput.trans hd (.of_eq (hrest w₁))

theorem revises_applyVerdicts (id : CampaignId) (kind : EntryKind)
    (verdicts : Keyed BloggerId Verdict) :
    Revises (Store.memory.applyVerdicts id kind verdicts) :=
  .bind (.of_preserves (.call fun _ => rfl)) fun as =>
    .tally (revises_applyVerdict id kind verdicts) as

/-! ## Commands that leave the rows alone -/

theorem Preserves.tally {γ : Type} {part : Tables → γ} {step : Assignee → Task Tables Bool}
    (h : ∀ a, Preserves part (step a)) (as : List Assignee) :
    Preserves part (Sponsorship.tally step as) := by
  induction as with
  | nil => exact .ofExcept _
  | cons a rest ih => exact .bind (h a) fun _ => .bind ih fun _ => .ofExcept _

section Others

variable (id : CampaignId)

theorem preserves_advance (a : Assignee) (m : Move) :
    Preserves Tables.examinations (Store.memory.advance a m) :=
  .bind (.ofExcept _) fun _ => .bind (preserves_updateAssignee _) fun _ => .ofExcept _

theorem preserves_invite : Preserves Tables.examinations (Store.memory.invite id) :=
  .bind (.call fun _ => rfl) fun _ => .bind (.call fun _ => rfl) fun as =>
    .tally (fun a => preserves_advance a _) as

theorem preserves_answerInvitation (b : BloggerId) (accepted : Bool)
    (answers : Keyed QuestionId String) :
    Preserves Tables.examinations (Store.memory.answerInvitation id b accepted answers) := by
  have hrecord : ∀ q x, Preserves Tables.examinations
      (Store.memory.recordAnswers accepted q x answers) := by
    intro q x
    unfold Store.recordAnswers
    split
    · refine .bind (.ofExcept _) fun sheet => .call fun t => ?_
      change (t.saveAnswers sheet).examinations = t.examinations
      rw [t.saveAnswers_eq]
    · exact .ofExcept _
  refine .bind (.call fun _ => rfl) fun c => .bind (.call fun _ => rfl) fun q => ?_
  refine .bind (.call fun _ => rfl) fun a => .bind (.ofExcept _) fun moved => ?_
  exact .bind (hrecord q moved.id) fun _ => .bind (preserves_updateAssignee moved) fun _ =>
    .ofExcept _

theorem preserves_decline (b : BloggerId) (reason : String) :
    Preserves Tables.examinations (Store.memory.decline id b reason) :=
  .bind (.call fun _ => rfl) fun _ => .bind (.ofExcept _) fun _ =>
    .bind (preserves_updateAssignee _) fun _ => .ofExcept _

theorem preserves_applyLottery (results : Keyed BloggerId LotteryResult) :
    Preserves Tables.examinations (Store.memory.applyLottery id results) := by
  refine .bind (.call fun _ => rfl) fun c => .bind (.call fun _ => rfl) fun as =>
    .tally (fun a => ?_) as
  unfold Store.applyResult
  cases results.get? a.blogger with
  | none => exact .ofExcept _
  | some r => exact preserves_advance a _

theorem preserves_finishShipment : Preserves Tables.examinations (Store.memory.finishShipment id) :=
  .bind (.call fun _ => rfl) fun _ => .bind (.call fun _ => rfl) fun as =>
    .tally (fun a => preserves_advance a _) as

theorem preserves_completePayment (bs : List BloggerId) :
    Preserves Tables.examinations (Store.memory.completePayment id bs) :=
  .bind (.call fun _ => rfl) fun _ => .bind (.call fun _ => rfl) fun as =>
    .bind (.tally (fun a => preserves_advance a _) as) fun _ => .ofExcept _

theorem preserves_complete : Preserves Tables.examinations (Store.memory.complete id) := by
  have hfinish : ∀ a : Assignee, Preserves Tables.examinations
      (Store.memory.call (.updateAssignee a.finish)) := fun a => preserves_updateAssignee a.finish
  refine .bind (.call fun _ => rfl) fun c => .bind (.call fun _ => rfl) fun as => ?_
  refine .bind (.eachOf hfinish as) fun _ => ?_
  refine .bind (.ofExcept _) fun c' => .bind (.call fun t => ?_) fun _ => .ofExcept _
  simp only [Tables.answer]
  cases replaceFirst? (fun o => decide (o.id = c'.id)) (fun _ => c') t.campaigns with
  | none => rfl
  | some campaigns => rfl

end Others

/-! ## Submissions -/

/-- A command submits a row: for the assignee of a blogger, at its time, without a verdict. -/
def Visit.Submits (v : Visit) (t : Tables) (e : Examination) : Prop :=
  ∃ id b kind entry eid, v.command = .submit id b kind entry ∧ ∃ a ∈ t.assignees,
    a.campaign = id ∧ a.blogger = b ∧ Examination.submit eid id a.id b kind entry v.now = .ok e

namespace Visit.Submits

variable {v : Visit} {t : Tables} {e : Examination}

theorem unjudged (h : v.Submits t e) : e.unjudged = e := by
  obtain ⟨_, _, _, _, _, _, _, _, _, _, hsubmit⟩ := h
  obtain ⟨_, rfl⟩ := Examination.submit_ok.mp hsubmit
  rfl

theorem createdAt (h : v.Submits t e) : e.createdAt = v.now := by
  obtain ⟨_, _, _, _, _, _, _, _, _, _, hsubmit⟩ := h
  obtain ⟨_, rfl⟩ := Examination.submit_ok.mp hsubmit
  rfl

end Visit.Submits

/-- A submission that succeeds adds its row. -/
theorem submit_records (w : World Tables) (now : Instant) (id : CampaignId) (b : BloggerId)
    (kind : EntryKind) (entry : Option EntryId) :
    Ends (Store.memory.submit now id b kind entry) w
      (fun e w' => w'.state.examinations = w.state.examinations ++ [e] ∧ ∃ a ∈ w.state.assignees,
        a.campaign = id ∧ a.blogger = b ∧
          ∃ eid, Examination.submit eid id a.id b kind entry now = .ok e)
      fun _ => True := by
  refine .bind (Call.getAssignee_ends (fun a ha hid hb => ?_) fun _ => trivial)
  refine .bind (Call.getCampaign_ends (fun c hc => ?_) fun _ => trivial)
  refine .bind (Task.ofMinting_ends (fun eid ids hmint => ?_) fun _ _ _ => trivial)
  cases hmint
  refine .bind (Task.obey_ends (fun e he => ?_) fun _ _ => trivial)
  refine .bind (Task.obey_ends (fun a' ha' => ?_) fun _ _ => trivial)
  refine .bind (Call.createExamination_ends ?_)
  refine .bind (((preserves_updateAssignee a').ends _).imp fun _ w' hw' => .pure ?_)
  exact ⟨hw', a, ha, hid, hb, _, he⟩

/-! ## Commands of a history -/

/-- The row that a submission made, if it succeeded. -/
def Visit.made (v : Visit) (w : World Memory) : Option Examination :=
  match v.command, (v.service.run v.command w).1 with
  | .submit _ _ _ _, .ok (.examination e) => some e
  | _, _ => none

/-- What a command does to the rows. -/
inductive RowEffect (v : Visit) (w : World Memory) : Prop
  | adds (e : Examination) (hmade : v.made w = some e) (submits : v.Submits w.state.tables e)
      (rows : (v.apply w).state.tables.examinations = w.state.tables.examinations ++ [e])
  | deletes (id : CampaignId) (hv : v.command = .delete id) (hmade : v.made w = none)
      (rows : (v.apply w).state.tables = w.state.tables.deleteCampaign id)
  | revises (hmade : v.made w = none) (rows : Revised w.state.tables (v.apply w).state.tables)

namespace Visit

variable {v : Visit} {w : World Memory}

theorem made_of_ne (h : ∀ id b kind entry, v.command ≠ .submit id b kind entry) :
    v.made w = none := by
  unfold made
  cases hv : v.command with
  | submit id b kind entry => exact absurd hv (h id b kind entry)
  | _ => rfl

/-- A command that is one unit of work which revises rows at most. -/
theorem rowEffect_of_revises {α : Type} {c : Command} {body : Task Tables α} {g : α → Outcome}
    (h : Sound w.unit) (hv : v.command = c)
    (hrun : v.service.run c = (g <$> Store.memory.transact body : Task Memory Outcome))
    (hb : Revises body) (hne : ∀ id b kind entry, c ≠ .submit id b kind entry) : RowEffect v w := by
  have hw := hb w.unit h.examinations.nodup
  refine .revises (made_of_ne fun id b kind entry => hv ▸ hne id b kind entry) ?_
  unfold apply
  rw [hv, hrun, run_map, transact_memory]
  rcases hr : body w.unit with ⟨r, u⟩
  rw [hr] at hw
  cases r with
  | ok a => exact hw
  | error f => exact .of_eq rfl

theorem rowEffect_of_save (h : Sound w.unit) {r : SaveRequest} (hv : v.command = .save r) :
    RowEffect v w := by
  have hmade : v.made w = none := made_of_ne fun id b kind entry hc => by rw [hv] at hc; cases hc
  refine .revises hmade (.of_eq ?_)
  rcases v.effect h with ⟨hstate, _⟩ | ⟨outcome, hdone⟩
  · rw [hstate]
  · cases hdone with
    | created hsave hr hid steps there => exact steps.examinations_eq
    | updated hsave hr steps => exact steps.examinations_eq
    | advanced outcome hsubject steps => rw [hv] at hsubject; cases hsubject

theorem rowEffect_of_delete {id : CampaignId} (hv : v.command = .delete id) : RowEffect v w := by
  have hmade : v.made w = none := made_of_ne fun id b kind entry hc => by rw [hv] at hc; cases hc
  refine .deletes id hv hmade ?_
  unfold apply
  rw [hv]
  simp only [Service.run]
  rw [run_bind]
  rfl

theorem rowEffect_of_submit {id : CampaignId} {b : BloggerId} {kind : EntryKind}
    {entry : Option EntryId} (h : Sound w.unit) (hv : v.command = .submit id b kind entry) :
    RowEffect v w := by
  have hends := (submit_records w.unit v.now id b kind entry).transact
  have hrun : v.service.run v.command w = ((Store.memory.transact
      (Store.memory.submit v.now id b kind entry) w).1.map Outcome.examination,
      (Store.memory.transact (Store.memory.submit v.now id b kind entry) w).2) := by
    rw [hv]
    exact run_map _ _ _
  rcases ht : Store.memory.transact (Store.memory.submit v.now id b kind entry) w with ⟨r, w'⟩
  rw [ht] at hrun
  cases r with
  | ok e =>
    obtain ⟨hrows, a, ha, hid, hb, eid, he⟩ := hends.ok ht
    have hmade : v.made w = some e := by
      unfold made
      rw [hrun, hv]
      rfl
    have happly : v.apply w = w' := congrArg Prod.snd hrun
    have hsubmits : v.Submits w.state.tables e :=
      ⟨id, b, kind, entry, eid, hv, a, ha, hid, hb, he⟩
    exact .adds e hmade hsubmits (by rw [happly]; exact hrows)
  | error f =>
    have hmade : v.made w = none := by
      unfold made
      rw [hrun, hv]
      rfl
    refine .revises hmade (.of_eq ?_)
    rw [(v.undone h (congrArg Prod.fst hrun)).1]

/-- A command adds the row of a submission, deletes the rows of a campaign, or revises rows at
most. -/
theorem rowEffect (h : Sound w.unit) (v : Visit) : RowEffect v w := by
  cases hv : v.command with
  | save r => exact rowEffect_of_save h hv
  | delete id => exact rowEffect_of_delete hv
  | complete id =>
    exact rowEffect_of_revises h hv rfl (.of_preserves (preserves_complete id)) fun _ _ _ _ hc => by
      cases hc
  | invite id =>
    exact rowEffect_of_revises h hv rfl (.of_preserves (preserves_invite id)) fun _ _ _ _ hc => by
      cases hc
  | answerInvitation id b accepted answers =>
    exact rowEffect_of_revises h hv rfl (.of_preserves (preserves_answerInvitation id b accepted answers))
      fun _ _ _ _ hc => by cases hc
  | decline id b reason =>
    exact rowEffect_of_revises h hv rfl (.of_preserves (preserves_decline id b reason))
      fun _ _ _ _ hc => by cases hc
  | applyLottery id results =>
    exact rowEffect_of_revises h hv rfl (.of_preserves (preserves_applyLottery id results))
      fun _ _ _ _ hc => by cases hc
  | finishShipment id =>
    exact rowEffect_of_revises h hv rfl (.of_preserves (preserves_finishShipment id))
      fun _ _ _ _ hc => by cases hc
  | completePayment id bs =>
    cases hrepeat : firstRepeat? [] bs with
    | none =>
      have hrun : v.service.run (.completePayment id bs) = (Outcome.reported <$>
          Store.memory.transact (Store.memory.completePayment id bs) : Task Memory Outcome) := by
        simp only [Service.run, hrepeat]
        rfl
      exact rowEffect_of_revises h hv hrun (.of_preserves (preserves_completePayment id bs))
        fun _ _ _ _ hc => by cases hc
    | some b =>
      have hmade : v.made w = none := made_of_ne fun _ _ _ _ hc => by rw [hv] at hc; cases hc
      have hstate : (v.apply w).state = w.state := by
        unfold apply
        rw [hv]
        simp only [Service.run, hrepeat]
        rfl
      exact .revises hmade (.of_eq (by rw [hstate]))
  | submit id b kind entry => exact rowEffect_of_submit h hv
  | applyVerdicts id kind verdicts =>
    exact rowEffect_of_revises h hv rfl (revises_applyVerdicts id kind verdicts) fun _ _ _ _ hc => by
      cases hc

end Visit

end Sponsorship
