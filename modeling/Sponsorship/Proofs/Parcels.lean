import Sponsorship.Proofs.Leftovers
import Sponsorship.Proofs.Pointwise

/-!
# Sponsorship.Proofs.Parcels

Where to ship an assignee's sample, and which upload of lottery results said so.

* `Command.parcel?`, `Visit.parcel?`: the parcel that a command brings an assignee. Only a win in a
  campaign that ships a sample brings one.
* `Brings`: what a command does to the parcels of all rows; `Visit.brings` is one step of a history.
* `lastParcel?`, `parcel_after`: a row has the parcel that was brought to it last.
* `winner_parcel`: a winner in a campaign without a sample keeps the parcel of an earlier win.
-/

namespace Sponsorship

open Time

/-! ## Parcels -/

/-- Where to ship, and the code of what is shipped. -/
structure Parcel where
  shippingData : List String := []
  janCode : Option String := none
  deriving DecidableEq

def Assignee.parcel (a : Assignee) : Parcel := ⟨a.shippingData, a.janCode⟩

def LotteryResult.parcel (r : LotteryResult) : Parcel := ⟨r.shippingData, r.janCode⟩

/-- The parcel that a step brings. -/
def Move.parcel? : Move → Option Parcel
  | .winLottery flags shippingData janCode =>
    if flags.hasSample then some ⟨shippingData, janCode⟩ else none
  | _ => none

theorem Assignee.after_parcel (a : Assignee) (m : Move) :
    (a.after m).parcel = m.parcel?.getD a.parcel := by
  cases m with
  | winLottery flags shippingData janCode =>
    unfold Move.parcel? after
    dsimp only
    cases flags.hasSample <;> rfl
  | _ => rfl

theorem draw_parcel? (flags : WorkflowFlags) (r : LotteryResult) :
    (Store.draw flags r).parcel? = if flags.hasSample ∧ r.won then some r.parcel else none := by
  unfold Store.draw
  cases r.won with
  | true => simp only [if_true, Move.parcel?, and_true]; rfl
  | false => simp [Move.parcel?]

/-! ## Who is brought one -/

/-- The result with which an assignee wins: it stands in the lottery of the campaign, and the results
say that it won. -/
def Tables.win? (t : Tables) (id : CampaignId) (results : Keyed BloggerId LotteryResult)
    (x : AssigneeId) : Option LotteryResult :=
  (t.assignees.find? fun a => a.id = x).bind fun a =>
    if a.campaign = id ∧ a.stage = .lottery then
      (results.get? a.blogger).filter LotteryResult.won
    else none

/-- The parcel that a command brings an assignee if it succeeds. -/
def Command.parcel? (c : Command) (t : Tables) (x : AssigneeId) : Option Parcel :=
  match c with
  | .applyLottery id results =>
    if (t.flagsOf id).hasSample then (t.win? id results x).map LotteryResult.parcel else none
  | _ => none

/-- The parcel that a visit brings an assignee. -/
def Visit.parcel? (v : Visit) (w : World Memory) (x : AssigneeId) : Option Parcel :=
  match (v.service.run v.command w).1 with
  | .ok _ => v.command.parcel? w.state.tables x
  | .error _ => none

/-- The parcel that a history brought an assignee last. -/
def lastParcel? (x : AssigneeId) : World Memory → List Visit → Option Parcel
  | _, [] => none
  | w, v :: rest => (lastParcel? x (v.apply w) rest).or (v.parcel? w x)

theorem lastParcel?_concat (x : AssigneeId) (w : World Memory) (history : List Visit) (v : Visit) :
    lastParcel? x w (history ++ [v]) = (v.parcel? (w.after history) x).or (lastParcel? x w history) := by
  induction history generalizing w with
  | nil => exact (Option.or_none).symm
  | cons u rest ih =>
    rw [List.cons_append, lastParcel?, ih, lastParcel?, Option.or_assoc]
    rfl

section Wins

variable {t : Tables} {id : CampaignId} {results : Keyed BloggerId LotteryResult} {x : AssigneeId}
  {r : LotteryResult} {c : Command}

theorem Tables.win?_eq_some (h : t.win? id results x = some r) :
    ∃ a ∈ t.assignees, a.id = x ∧ a.campaign = id ∧ a.stage = .lottery ∧
      results.get? a.blogger = some r ∧ r.won = true := by
  obtain ⟨a, ha, hr⟩ := Option.bind_eq_some_iff.mp h
  split at hr
  · rename_i hin
    obtain ⟨hget, hwon⟩ := Option.filter_eq_some_iff.mp hr
    exact ⟨a, List.mem_of_find?_eq_some ha, by simpa using List.find?_some ha, hin.1, hin.2, hget,
      hwon⟩
  · cases hr

/-- Only rows are brought parcels. -/
theorem Command.mem_of_parcel? {p : Parcel} (h : c.parcel? t x = some p) :
    x ∈ t.assignees.map Assignee.id := by
  cases c with
  | applyLottery id results =>
    unfold parcel? at h
    dsimp only at h
    split at h
    · obtain ⟨r, hr, _⟩ := Option.map_eq_some_iff.mp h
      obtain ⟨a, ha, rfl, _⟩ := Tables.win?_eq_some hr
      exact List.mem_map_of_mem ha
    · cases h
  | _ => cases h

/-- A bulk command brings what its steps bring. -/
theorem Command.parcel?_eq {b : Batch} (hb : c.batch? = some b)
    (hd : (t.assignees.map Assignee.id).Nodup) {a : Assignee} (ha : a ∈ t.assignees) :
    c.parcel? t a.id = (b.move? (t.flagsOf b.campaign) a).bind Move.parcel? := by
  cases c with
  | applyLottery id results =>
    cases hb
    have hfind : t.assignees.find? (fun o => decide (o.id = a.id)) = some a := find?_key hd ha
    simp only [parcel?, Tables.win?, hfind, Option.bind_some, Batch.move?]
    by_cases hin : a.campaign = id ∧ a.stage = .lottery
    · rw [if_pos hin, if_pos hin]
      cases results.get? a.blogger with
      | none => simp
      | some r =>
        simp only [Option.map_some, Option.bind_some, draw_parcel?]
        cases (t.flagsOf id).hasSample <;> cases hr : r.won <;> simp [Option.filter, hr]
    · rw [if_neg hin, if_neg hin]
      simp
  | applyVerdicts id kind verdicts =>
    cases hb
    unfold Batch.move?
    dsimp only
    split
    · cases verdicts.get? a.blogger with
      | none => rfl
      | some v => cases kind <;> rfl
    · rfl
  | completePayment id bloggers =>
    cases hb
    unfold Batch.move?
    dsimp only
    split
    · split <;> rfl
    · rfl
  | invite id =>
    cases hb
    unfold Batch.move?
    dsimp only
    split <;> rfl
  | finishShipment id =>
    cases hb
    unfold Batch.move?
    dsimp only
    split <;> rfl
  | _ => cases hb

end Wins

/-! ## Work that leaves parcels alone -/

/-- Whose a parcel is. -/
def Assignee.label (a : Assignee) : AssigneeId × Parcel := (a.id, a.parcel)

theorem Assignee.after_label (a : Assignee) {m : Move} (hm : m.parcel? = none) :
    (a.after m).label = a.label := by
  unfold label
  rw [a.after_id, a.after_parcel, hm]
  rfl

namespace Tables

def parcels (t : Tables) : List (AssigneeId × Parcel) := t.assignees.map Assignee.label

variable {t : Tables} {a a' : Assignee}

theorem parcels_fst (t : Tables) : t.parcels.map Prod.fst = t.assignees.map Assignee.id :=
  List.map_map

theorem mem_parcels (ha : a ∈ t.assignees) (h : a'.label = a.label) : a'.label ∈ t.parcels :=
  h ▸ List.mem_map_of_mem ha

end Tables

section Keeping

variable {u : World Tables} {ps : List (AssigneeId × Parcel)} {id : CampaignId} {E : Fault → Prop}

/-- A row that is written with the parcel that is stored under its identifier. -/
theorem updateAssignee_parcels {a : Assignee} (hu : u.state.parcels = ps)
    (hd : (ps.map Prod.fst).Nodup) (ha : a.label ∈ ps) :
    Ends (Store.memory.call (.updateAssignee a)) u (fun _ u' => u'.state.parcels = ps) E := by
  subst hu
  rw [Tables.parcels_fst] at hd
  obtain ⟨o, ho, hoa⟩ := List.mem_map.mp ha
  obtain ⟨hid, hparcel⟩ := Prod.mk.inj hoa
  apply Call.ends
  have hmem : a.id ∈ u.state.assignees.map Assignee.id := hid ▸ List.mem_map_of_mem ho
  simp only [Tables.answer, replaceFirst?_key hd hmem, Option.map_some, Tables.changed]
  refine map_amend fun x hx hxid => ?_
  have hxo : x = o := List.inj_on_of_nodup_map hd hx ho (hxid.trans hid.symm)
  rw [hxo]
  exact hoa.symm

variable (hd : (ps.map Prod.fst).Nodup) (hu : u.state.parcels = ps)

include hd hu

theorem answerInvitation_parcels (b : BloggerId) (accepted : Bool)
    (answers : Keyed QuestionId String) :
    Ends (Store.memory.answerInvitation id b accepted answers) u
      (fun _ u' => u'.state.parcels = ps) fun _ => True := by
  have hrecord : ∀ q x, Preserves Tables.parcels
      (Store.memory.recordAnswers accepted q x answers) := by
    intro q x
    unfold Store.recordAnswers
    split
    · refine .bind (.ofExcept _) fun sheet => .call fun t => ?_
      change (t.saveAnswers sheet).parcels = t.parcels
      rw [t.saveAnswers_eq]
      rfl
    · exact .ofExcept _
  refine .bind (Call.getCampaign_ends (fun c _ => ?_) fun _ => trivial)
  refine .bind (Call.findQuestionnaire_ends ?_)
  refine .bind (Call.getAssignee_ends (fun a ha _ _ => ?_) fun _ => trivial)
  refine .bind (Task.obey_ends (fun a' ha' => ?_) fun _ _ => trivial)
  obtain ⟨_, rfl⟩ := Assignee.move_ok.mp ha'
  refine .bind (((hrecord _ _).ends u).imp fun _ w₁ hw => ?_)
  refine .bind ((updateAssignee_parcels (hw.trans hu) hd ?_).imp fun _ _ hw => .pure hw)
  exact hu ▸ Tables.mem_parcels ha (a.after_label (by cases accepted <;> rfl))

theorem decline_parcels (b : BloggerId) (reason : String) :
    Ends (Store.memory.decline id b reason) u (fun _ u' => u'.state.parcels = ps)
      fun _ => True := by
  refine .bind (Call.getAssignee_ends (fun a ha _ _ => ?_) fun _ => trivial)
  refine .bind (Task.obey_ends (fun a' ha' => ?_) fun _ _ => trivial)
  obtain ⟨_, _, rfl⟩ := Assignee.decline_ok.mp ha'
  refine .bind ((updateAssignee_parcels hu hd ?_).imp fun _ _ hw => .pure hw)
  exact hu ▸ Tables.mem_parcels ha rfl

theorem submit_parcels (now : Instant) (b : BloggerId) (kind : EntryKind)
    (entry : Option EntryId) :
    Ends (Store.memory.submit now id b kind entry) u (fun _ u' => u'.state.parcels = ps)
      fun _ => True := by
  refine .bind (Call.getAssignee_ends (fun a ha _ _ => ?_) fun _ => trivial)
  refine .bind (Call.getCampaign_ends (fun c _ => ?_) fun _ => trivial)
  refine .bind (Task.ofMinting_ends (fun eid ids _ => ?_) fun _ _ _ => trivial)
  refine .bind (Task.obey_ends (fun e _ => ?_) fun _ _ => trivial)
  refine .bind (Task.obey_ends (fun a' ha' => ?_) fun _ _ => trivial)
  obtain ⟨_, rfl⟩ := Assignee.move_ok.mp ha'
  have hlabel : (a.after (Store.submission kind c.flags)).label ∈ ps :=
    hu ▸ Tables.mem_parcels ha (a.after_label (by cases kind <;> rfl))
  refine .bind (Call.createExamination_ends (.bind ?_))
  exact (updateAssignee_parcels (u := ⟨ids, u.state.addExamination e⟩) hu hd hlabel).imp
    fun _ _ hw => .pure hw

theorem complete_parcels :
    Ends (Store.memory.complete id) u (fun _ u' => u'.state.parcels = ps) fun _ => True := by
  refine .bind (Call.getCampaign_ends (fun c _ => ?_) fun _ => trivial)
  refine .bind (Call.listAssignees_ends ?_)
  let I : List Assignee → World Tables → Prop := fun rest u' =>
    u'.state.parcels = ps ∧ ∀ a ∈ rest, a.label ∈ ps
  have hstart : I (u.state.assigneesOf id none) u :=
    ⟨hu, fun a ha => hu ▸ Tables.mem_parcels (Tables.mem_assigneesOf.mp ha).1 rfl⟩
  refine .bind ((eachOf_ends (I := I) (fun a rest u' hI => ?_) _ u hstart).imp fun _ u' hI => ?_)
  · have hlabel : a.finish.label ∈ ps := hI.2 a List.mem_cons_self
    refine (updateAssignee_parcels hI.1 hd hlabel).imp fun _ _ hw => ?_
    exact ⟨hw, fun x hx => hI.2 x (List.mem_cons_of_mem a hx)⟩
  · have hclose : ∀ c', Preserves Tables.parcels (Store.memory.call (.updateCampaign c')) := by
      refine fun c' => .call fun t => ?_
      simp only [Tables.answer]
      cases replaceFirst? (fun o => decide (o.id = c'.id)) (fun _ => c') t.campaigns <;> rfl
    refine .bind (Task.obey_ends (fun c' _ => ?_) fun _ _ => trivial)
    exact .bind (((hclose c').ends u').imp fun _ _ hw => .pure (hw.trans hI.1))

end Keeping

/-! ## What commands bring -/

/-- What a command does to the parcels: every row has the parcel that the command brings it, or else
the one that it had, and new rows have none. -/
def Brings (c : Command) (w : World Tables) (t' : Tables) : Prop :=
  ∀ a ∈ t'.assignees,
    (∃ o ∈ w.state.assignees, o.id = a.id ∧ a.parcel = (c.parcel? w.state a.id).getD o.parcel) ∨
      (¬ w.ids.Issued a.id ∧ a.parcel = {})

section Commands

variable {c : Command} {w : World Tables} {t' : Tables}

theorem Brings.of_labels (hc : ∀ x, c.parcel? w.state x = none)
    (h : ∀ a ∈ t'.assignees, a.label ∈ w.state.parcels) : Brings c w t' := by
  intro a ha
  obtain ⟨o, ho, hlabel⟩ := List.mem_map.mp (h a ha)
  obtain ⟨hid, hparcel⟩ := Prod.mk.inj hlabel
  refine .inl ⟨o, ho, hid, ?_⟩
  rw [hc]
  exact hparcel.symm

theorem Brings.of_parcels (hc : ∀ x, c.parcel? w.state x = none)
    (h : t'.parcels = w.state.parcels) : Brings c w t' :=
  .of_labels hc fun _ ha => h ▸ List.mem_map_of_mem ha

theorem Brings.of_pointwise (h : Sound w) {b : Batch} (hb : c.batch? = some b) {report : Report}
    (hp : Pointwise c b w.state t' report) : Brings c w t' := by
  intro a' ha'
  rw [hp.tables] at ha'
  obtain ⟨a, ha, rfl⟩ := List.mem_map.mp ha'
  refine .inl ⟨a, ha, (b.row_id _ a).symm, ?_⟩
  rw [b.row_id, c.parcel?_eq hb h.assignees.nodup ha]
  cases hm : b.move? (w.state.flagsOf b.campaign) a with
  | none => rw [Batch.row_of_unmoved hm]; rfl
  | some m => rw [Batch.row_of_move? hm, a.after_parcel]; rfl

/-- A save leaves the parcels of the rows that it keeps. -/
theorem Saves.brings {now : Instant} {r : SaveRequest} {id : CampaignId} {w' : World Tables}
    (h : Sound w) (hs : Saves now r id w w') : Brings (.save r) w w'.state := by
  have hkeeps : w.ids.Later w'.ids ∧ Brings (.save r) w w'.state := by
    refine hs.keeps (P := fun u => w.ids.Later u.ids ∧ Brings (.save r) w u.state) ?_ h
      ⟨.refl _, .of_parcels (fun _ => rfl) rfl⟩
    rintro u u' hu ⟨hl, hbrings⟩ hs
    refine ⟨hl.trans hs.later, fun a ha => ?_⟩
    cases hs with
    | @enrols c i a' ids hi hkept hc hfree henrol =>
      rcases List.mem_append.mp ha with ha | ha
      · exact hbrings a ha
      · obtain ⟨_, hcreate, _⟩ := AssigneeInput.enrolment_ok henrol
        obtain ⟨_, _, rfl⟩ := Assignee.create_ok.mp hcreate
        rw [List.mem_singleton.mp ha]
        refine .inr ⟨fun hissued => ?_, rfl⟩
        exact Ids.next_ne_of_issued hu.injective (hissued.later hl) rfl
    | expels hi hgone hb ha' hid hs => exact hbrings a (List.mem_filter.mp ha).1
    | @places i o a' hi hkept hb ho hid hneed hfee =>
      rcases mem_amend.mp ha with ⟨ha, _⟩ | ⟨_, _, _, rfl⟩
      · exact hbrings a ha
      · obtain ⟨_, rfl⟩ := Assignee.setFee_ok.mp hfee
        exact hbrings o ho
    | _ => exact hbrings a ha
  exact hkeeps.2

/-- Every command that succeeds. -/
theorem Visit.brings {w : World Memory} (h : Stored w.unit) (v : Visit) :
    Ends (v.service.run v.command) w
      (fun _ w' => Brings v.command w.unit w'.state.tables) fun _ => True := by
  have hd : (w.unit.state.parcels.map Prod.fst).Nodup := by
    rw [Tables.parcels_fst]
    exact h.sound.assignees.nodup
  have hsame : ∀ {α : Type} {body : Task Tables α} {c : Command} (g : α → Outcome),
      (∀ x, c.parcel? w.unit.state x = none) →
      Ends body w.unit (fun _ u' => u'.state.parcels = w.unit.state.parcels) (fun _ => True) →
      Ends (g <$> Store.memory.transact body : Task Memory Outcome) w
        (fun _ w' => Brings c w.unit w'.state.tables) fun _ => True :=
    fun g hc hbody => .map (hbody.transact.imp fun _ _ hps => .of_parcels hc hps)
  have hbulk : ∀ {b : Batch}, v.command.batch? = some b → Ends (v.service.run v.command) w
      (fun _ w' => Brings v.command w.unit w'.state.tables) fun _ => True :=
    fun hb => (run_pointwise h v.toOccasion hb).imp fun _ _ ⟨_, _, hp⟩ => .of_pointwise h.sound hb hp
  cases hv : v.command with
  | save r =>
    rcases hr : v.service.run v.command w with ⟨_ | outcome, w'⟩
    · exact .of_error (hv ▸ hr) trivial
    · have hdone : Done v w outcome w' := by
        have happly : w' = v.apply w := (congrArg Prod.snd hr).symm
        rw [happly]
        exact v.done h.sound (congrArg Prod.fst hr)
      refine .of_ok (hv ▸ hr) ?_
      cases hdone with
      | created hv' hr hid steps there => cases hv.symm.trans hv'; exact steps.brings h.sound
      | updated hv' hr steps => cases hv.symm.trans hv'; exact steps.brings h.sound
      | advanced _ hsubject steps => rw [hv] at hsubject; cases hsubject
  | delete id =>
    have hcall : Ends (Store.memory.call (.deleteCampaign id)) w.unit
        (fun _ u' => Brings (.delete id) w.unit u'.state) fun _ => True :=
      Call.deleteCampaign_ends (.of_labels (fun _ => rfl) fun a ha =>
        List.mem_map_of_mem (List.mem_filter.mp ha).1)
    exact .bind (hcall.transact.imp fun _ w' hbrings => .pure hbrings)
  | complete id => exact hsame (c := .complete id) _ (fun _ => rfl) (complete_parcels hd rfl)
  | answerInvitation id b accepted answers =>
    exact hsame (c := .answerInvitation id b accepted answers) _ (fun _ => rfl)
      (answerInvitation_parcels hd rfl b accepted answers)
  | decline id b reason => exact hsame (c := .decline id b reason) _ (fun _ => rfl) (decline_parcels hd rfl b reason)
  | submit id b kind entry =>
    exact hsame (c := .submit id b kind entry) _ (fun _ => rfl)
      (submit_parcels hd rfl v.now b kind entry)
  | invite id => exact hv ▸ hbulk (by rw [hv]; rfl)
  | applyLottery id results => exact hv ▸ hbulk (by rw [hv]; rfl)
  | finishShipment id => exact hv ▸ hbulk (by rw [hv]; rfl)
  | completePayment id bloggers => exact hv ▸ hbulk (by rw [hv]; rfl)
  | applyVerdicts id kind verdicts => exact hv ▸ hbulk (by rw [hv]; rfl)

end Commands

/-! ## Histories -/

/-- Whoever was ever brought a parcel has an identifier that is taken. -/
theorem issued_of_lastParcel? {x : AssigneeId} {p : Parcel} (history : List Visit)
    (h : lastParcel? x World.start history = some p) : (World.start.after history).ids.Issued x := by
  induction history using List.reverseRecOn generalizing p with
  | nil => cases h
  | append_singleton history v ih =>
    have hsound := sound_after history
    have hissued : (World.start.after history).unit.ids.Issued x := by
      rw [lastParcel?_concat] at h
      rcases Option.or_eq_some_iff.mp h with hnow | ⟨_, hearlier⟩
      · unfold Visit.parcel? at hnow
        split at hnow
        · exact hsound.assignees.issued x (Command.mem_of_parcel? hnow)
        · cases hnow
      · exact ih hearlier
    rw [World.after_concat]
    exact (lasting_issued x).apply hsound hissued v

/-- After every history a row has the parcel that was brought to it last, and none if none was. -/
theorem parcel_after (history : List Visit) :
    ∀ a ∈ (World.start.after history).state.tables.assignees,
      a.parcel = (lastParcel? a.id World.start history).getD {} := by
  induction history using List.reverseRecOn with
  | nil => intro a ha; cases ha
  | append_singleton history v ih =>
    have hstored := stored_after history
    rw [World.after_concat]
    intro a ha
    rw [lastParcel?_concat]
    unfold Visit.parcel?
    cases hrun : (v.service.run v.command (World.start.after history)).1 with
    | error f =>
      rw [(v.undone hstored.sound hrun).1] at ha
      rw [Option.none_or]
      exact ih a ha
    | ok outcome =>
      have hbrings : Brings v.command (World.start.after history).unit
          (v.apply (World.start.after history)).state.tables :=
        (v.brings hstored).ok (Prod.ext hrun rfl)
      rcases hbrings a ha with ⟨o, ho, hid, hparcel⟩ | ⟨hnew, hparcel⟩
      · have hold := ih o ho
        rw [hid] at hold
        rw [hparcel, hold]
        change (v.command.parcel? (World.start.after history).state.tables a.id).getD _ = _
        cases v.command.parcel? (World.start.after history).state.tables a.id <;> rfl
      · -- whoever is new was never brought anything
        have hnone : lastParcel? a.id World.start history = none :=
          Option.eq_none_iff_forall_ne_some.mpr fun p hp => hnew (issued_of_lastParcel? history hp)
        have hnow : v.command.parcel? (World.start.after history).state.tables a.id = none := by
          refine Option.eq_none_iff_forall_ne_some.mpr fun p hp => hnew ?_
          exact hstored.sound.assignees.issued a.id (Command.mem_of_parcel? hp)
        rw [hnone, hnow, hparcel]
        rfl

/-- Whom an upload of lottery results addresses. -/
def lotteryBatch (id : CampaignId) (results : Keyed BloggerId LotteryResult) : Batch :=
  ⟨id, .lottery, fun flags b => (results.get? b).map (Store.draw flags)⟩

/-- What becomes of a winner. -/
theorem lotteryBatch_row {id : CampaignId} {results : Keyed BloggerId LotteryResult} {a : Assignee}
    {r : LotteryResult} (hid : a.campaign = id) (hstage : a.stage = .lottery)
    (hget : results.get? a.blogger = some r) (hwon : r.won = true) (flags : WorkflowFlags) :
    (lotteryBatch id results).row flags a =
      a.after (.winLottery flags r.shippingData r.janCode) := by
  have hdraw : Store.draw flags r = .winLottery flags r.shippingData r.janCode := if_pos hwon
  have hmove : (lotteryBatch id results).move? flags a = some (Store.draw flags r) :=
    Batch.move?_eq_some.mpr ⟨hid, hstage, by simp only [lotteryBatch, hget, Option.map_some]⟩
  rw [Batch.row_of_move? hmove, hdraw]

/-- Whoever wins in a campaign that ships no sample takes up writing with the parcel that the history
brought it last: it has none if and only if no earlier win, in a campaign that shipped one, left it
one. -/
theorem winner_parcel (history : List Visit) {v : Visit} {id : CampaignId}
    {results : Keyed BloggerId LotteryResult} {outcome : Outcome} {c : Campaign} {x : AssigneeId}
    {r : LotteryResult} (hv : v.command = .applyLottery id results)
    (hrun : (v.service.run v.command (World.start.after history)).1 = .ok outcome)
    (hc : (World.start.after history).state.tables.campaign? id = some c)
    (hsample : c.flags.hasSample = false)
    (hwin : (World.start.after history).state.tables.win? id results x = some r) :
    ∃ a ∈ (World.start.after (history ++ [v])).state.tables.assignees, a.id = x ∧
      a.campaign = id ∧ a.stage = Move.writing c.flags.needsPreliminaryReview ∧
      a.parcel = (lastParcel? x World.start history).getD {} ∧
      ((a.shippingData = [] ∧ a.janCode = none) ↔
        ∀ p, lastParcel? x World.start history = some p → p = {}) := by
  obtain ⟨a, ha, rfl, hid, hstage, hget, hwon⟩ := Tables.win?_eq_some hwin
  have hb : v.command.batch? = some (lotteryBatch id results) := hv ▸ rfl
  obtain ⟨report, _, hp⟩ := bulk_pointwise history hb hrun
  have hflags : (World.start.after history).state.tables.flagsOf (lotteryBatch id results).campaign =
      c.flags := Tables.flagsOf_eq hc
  let won := a.after (.winLottery c.flags r.shippingData r.janCode)
  have hmem : won ∈ (World.start.after (history ++ [v])).state.tables.assignees := by
    rw [hp.tables, hflags, show won = _ from (lotteryBatch_row hid hstage hget hwon c.flags).symm]
    exact List.mem_map_of_mem ha
  have hparcel : won.parcel = (lastParcel? a.id World.start history).getD {} := by
    rw [a.after_parcel, ← parcel_after history a ha]
    simp [Move.parcel?, hsample]
  refine ⟨won, hmem, a.after_id _, (a.after_campaign _).trans hid, ?_, hparcel, ?_⟩
  · rw [a.after_stage]
    simp [Move.target, hsample]
  · have hnone : won.shippingData = [] ∧ won.janCode = none ↔ won.parcel = {} := by
      rw [Assignee.parcel, Parcel.mk.injEq]
    rw [hnone, hparcel]
    cases lastParcel? a.id World.start history with
    | none => simp
    | some p => simp

/-- A campaign with a lottery. Whoever wins is sent a sample, if the campaign has one. -/
def lotteryRequest (r : SaveRequest) (hasSample : Bool) : SaveRequest :=
  { r with
    flags := { hasLottery := true, hasSample }
    assignees := [{ blogger := ⟨"blogger"⟩, stage := .lottery }] }

/-- A win, with where to ship and what. -/
def shippedResult : LotteryResult :=
  { won := true, shippingData := ["name", "street"], janCode := some "4901234567894" }

/-- An assignee wins and is sent a sample; then a save puts it back into the lottery of a campaign that
has no sample any more. -/
def resentCourse : List Visit :=
  [visitAt 0 (.save (lotteryRequest reviewingRequest true)),
    visitAt 1 (.applyLottery ⟨"id-0001"⟩ (Keyed.ofList [(⟨"blogger"⟩, shippedResult)])),
    visitAt 2 (.save (lotteryRequest (laterRequest [] none) false))]

/-- The assignee wins once more, with nothing to ship. -/
def secondWin : Visit :=
  visitAt 3 (.applyLottery ⟨"id-0001"⟩ (Keyed.ofList [(⟨"blogger"⟩, { won := true })]))

theorem winner_parcel_of_resentCourse :
    ∃ a ∈ (World.start.after (resentCourse ++ [secondWin])).state.tables.assignees,
      a.stage = .articlePosting ∧ a.parcel = shippedResult.parcel := by
  have hrun : (secondWin.service.run secondWin.command (World.start.after resentCourse)).1 =
      .ok (.reported { moved := 1, skipped := 0 }) := by decide +kernel
  have hthere : ((World.start.after resentCourse).state.tables.campaign? ⟨"id-0001"⟩).map
      (fun c => c.flags) = some { hasLottery := true } := by decide +kernel
  have hwin : (World.start.after resentCourse).state.tables.win? ⟨"id-0001"⟩
      (Keyed.ofList [(⟨"blogger"⟩, { won := true })]) ⟨"id-0005"⟩ = some { won := true } := by
    decide +kernel
  have hlast : lastParcel? ⟨"id-0005"⟩ World.start resentCourse = some shippedResult.parcel := by
    decide +kernel
  obtain ⟨c, hc, hflags⟩ := Option.map_eq_some_iff.mp hthere
  obtain ⟨a, ha, _, _, hstage, hparcel, _⟩ := winner_parcel resentCourse (v := secondWin) rfl hrun hc
    (by rw [hflags]) hwin
  rw [hflags] at hstage
  rw [hlast] at hparcel
  exact ⟨a, ha, hstage, hparcel⟩

/-- The campaign ships no sample when the results come in, they say that the assignee won, and
afterwards it has the shipping data and the code of its first win. -/
theorem resent_parcel :
    ((World.start.after resentCourse).state.tables.campaign? ⟨"id-0001"⟩).map
        (fun c => c.flags.hasSample) = some false ∧
      (secondWin.service.run secondWin.command (World.start.after resentCourse)).1 =
        .ok (.reported { moved := 1, skipped := 0 }) ∧
      ((World.start.after resentCourse).state.tables.win? ⟨"id-0001"⟩
        (Keyed.ofList [(⟨"blogger"⟩, { won := true })]) ⟨"id-0005"⟩).isSome ∧
      (World.start.after (resentCourse ++ [secondWin])).state.tables.assignees.map
          (fun a => (a.id, a.shippingData, a.janCode)) =
        [(⟨"id-0005"⟩, ["name", "street"], some "4901234567894")] := by
  decide +kernel

end Sponsorship
