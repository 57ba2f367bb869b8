import Sponsorship.Proofs.Retry
import Sponsorship.Proofs.Verdicts

/-!
# Sponsorship.Proofs.Pointwise

Bulk commands row by row.

* `Batch`, `Command.batch?`: whom a bulk command addresses, and the step of each of them.
* `Batch.row`, `Command.examined`: what becomes of an assignee and of a submission. Both are read off
  the tables that the command meets.
* `mapBut`: a change of all rows but those that are left; `amend_mapBut` is one step of it.
* `Underway`: where the loop of a bulk command stands. The tables are those of its beginning, changed
  row by row.
* `Pointwise`: what a bulk command leaves, and what it reports.
* `bulk_pointwise`: every bulk command that succeeds, after every history.
-/

namespace Sponsorship

open Time

/-! ## Whom a command addresses -/

/-- The assignees of a campaign in a stage, with the step that is meant for a blogger. -/
structure Batch where
  campaign : CampaignId
  stage : Stage
  step : WorkflowFlags → BloggerId → Option Move

def Command.batch? : Command → Option Batch
  | .invite id => some ⟨id, .beforeInvitation, fun _ _ => some .invite⟩
  | .applyLottery id results =>
    some ⟨id, .lottery, fun flags x => (results.get? x).map (Store.draw flags)⟩
  | .finishShipment id =>
    some ⟨id, .shipment, fun flags _ => some (.finishShipment flags.needsPreliminaryReview)⟩
  | .completePayment id bloggers =>
    some ⟨id, .paying, fun _ x => if x ∈ bloggers then some .completePayment else none⟩
  | .applyVerdicts id kind verdicts =>
    some ⟨id, Store.examinedStage kind,
      fun _ x => (verdicts.get? x).map fun v => Store.judgement kind v.passed⟩
  | _ => none

namespace Batch

/-- The step of an assignee, if the command addresses it. -/
def move? (b : Batch) (flags : WorkflowFlags) (a : Assignee) : Option Move :=
  if a.campaign = b.campaign ∧ a.stage = b.stage then b.step flags a.blogger else none

def addresses (b : Batch) (flags : WorkflowFlags) (a : Assignee) : Bool := (b.move? flags a).isSome

/-- What becomes of an assignee. -/
def row (b : Batch) (flags : WorkflowFlags) (a : Assignee) : Assignee :=
  ((b.move? flags a).map a.after).getD a

end Batch

namespace Tables

def flagsOf (t : Tables) (id : CampaignId) : WorkflowFlags :=
  ((t.campaign? id).map fun c => c.flags).getD {}

/-- The assignee who made a submission, if it is there. -/
def author? (t : Tables) (e : Examination) : Option Assignee :=
  t.assignees.find? fun a => a.id = e.assignee

instance (t : Tables) (e : Examination) : Decidable (t.IsLatest e) := inferInstanceAs (Decidable (_ = _))

end Tables

/-- The row with another verdict. -/
def Examination.judged (e : Examination) (v : Verdict) : Examination :=
  { e with passed := some v.passed, examiner := some v.examiner, reason := v.reason }

namespace Command

/-- The verdict that a command has for a row: the row is the latest of an assignee whom the command
addresses. -/
def verdict? (t : Tables) (e : Examination) : Command → Option Verdict
  | .applyVerdicts id kind verdicts =>
    if e.campaign = id ∧ e.kind = kind ∧ t.IsLatest e then
      (t.author? e).bind fun a =>
        if a.campaign = id ∧ a.stage = Store.examinedStage kind then verdicts.get? a.blogger else none
    else none
  | _ => none

/-- What becomes of a submission. -/
def examined (c : Command) (t : Tables) (e : Examination) : Examination :=
  ((c.verdict? t e).map e.judged).getD e

/-- How many a command is about: those whom it lists for their payment, or those in its stage. -/
def due (c : Command) (b : Batch) (t : Tables) : Nat :=
  match c with
  | .completePayment _ bloggers => bloggers.length
  | _ => (t.assigneesOf b.campaign (some b.stage)).length

end Command

variable {now : Instant} {c : Command} {b : Batch} {t : Tables} {flags : WorkflowFlags}
  {a : Assignee} {m : Move} {e : Examination} {v : Verdict}

namespace Batch

theorem move?_eq_some : b.move? flags a = some m ↔
    a.campaign = b.campaign ∧ a.stage = b.stage ∧ b.step flags a.blogger = some m := by
  unfold move?
  split
  · rename_i h; simp [h.1, h.2]
  · rename_i h
    simp only [reduceCtorEq, false_iff]
    exact fun hm => h ⟨hm.1, hm.2.1⟩

theorem row_of_move? (h : b.move? flags a = some m) : b.row flags a = a.after m := by
  unfold row; rw [h]; rfl

theorem row_of_unmoved (h : b.move? flags a = none) : b.row flags a = a := by
  unfold row; rw [h]; rfl

@[simp] theorem row_participant (b : Batch) (flags : WorkflowFlags) (a : Assignee) :
    (b.row flags a).participant = a.participant := by
  unfold row
  cases b.move? flags a with
  | none => rfl
  | some m => exact a.after_participant m

@[simp] theorem row_id (b : Batch) (flags : WorkflowFlags) (a : Assignee) :
    (b.row flags a).id = a.id :=
  congrArg Participant.assignee (b.row_participant flags a)

@[simp] theorem row_blogger (b : Batch) (flags : WorkflowFlags) (a : Assignee) :
    (b.row flags a).blogger = a.blogger :=
  congrArg Participant.blogger (b.row_participant flags a)

end Batch

/-- Every step of a bulk command starts from its stage. -/
theorem Command.batch_sources (hb : c.batch? = some b) {x : BloggerId}
    (hm : b.step flags x = some m) : m.sources = [b.stage] := by
  cases c with
  | invite id => cases hb; cases hm; rfl
  | applyLottery id results =>
    cases hb
    obtain ⟨r, _, rfl⟩ := Option.map_eq_some_iff.mp hm
    exact draw_sources flags r
  | finishShipment id => cases hb; cases hm; rfl
  | completePayment id bloggers =>
    cases hb
    obtain ⟨_, rfl⟩ : x ∈ bloggers ∧ Move.completePayment = m := by simpa using hm
    rfl
  | applyVerdicts id kind verdicts =>
    cases hb
    obtain ⟨v, _, rfl⟩ := Option.map_eq_some_iff.mp hm
    cases kind <;> rfl
  | _ => cases hb

/-- The step of an assignee whom a command addresses is allowed. -/
theorem Batch.move_row (hb : c.batch? = some b) (hm : b.move? flags a = some m) :
    a.move m = .ok (b.row flags a) := by
  obtain ⟨_, hstage, hstep⟩ := move?_eq_some.mp hm
  refine Assignee.move_ok.mpr ⟨?_, row_of_move? hm⟩
  rw [c.batch_sources hb hstep, hstage]
  exact List.mem_singleton.mpr rfl

theorem Tables.flagsOf_eq {id : CampaignId} {campaign : Campaign}
    (h : t.campaign? id = some campaign) : t.flagsOf id = campaign.flags := by
  unfold flagsOf; rw [h]; rfl

/-- Where identifiers differ, whoever made a submission is found. -/
theorem Tables.author?_eq_some_iff (hd : (t.assignees.map Assignee.id).Nodup) :
    t.author? e = some a ↔ a ∈ t.assignees ∧ a.id = e.assignee := by
  constructor
  · intro h
    exact ⟨List.mem_of_find?_eq_some h, by simpa using List.find?_some h⟩
  · rintro ⟨ha, hid⟩
    unfold author?
    rw [← hid]
    exact find?_key hd ha

namespace Command

theorem verdict?_applyVerdicts {id : CampaignId} {kind : EntryKind}
    {verdicts : Keyed BloggerId Verdict} :
    (applyVerdicts id kind verdicts).verdict? t e = some v ↔
      (e.campaign = id ∧ e.kind = kind ∧ t.IsLatest e) ∧ ∃ a, t.author? e = some a ∧
        (a.campaign = id ∧ a.stage = Store.examinedStage kind) ∧
        verdicts.get? a.blogger = some v := by
  simp [verdict?, Option.bind_eq_some_iff]

/-- A verdict on a submission is one on an assignee whom the command addresses. -/
theorem addresses_author (hb : c.batch? = some b) (hv : c.verdict? t e = some v)
    (flags : WorkflowFlags) : ∃ a, t.author? e = some a ∧ b.addresses flags a = true := by
  cases c with
  | applyVerdicts id kind verdicts =>
    cases hb
    obtain ⟨_, a, ha, haddressed, hv⟩ := verdict?_applyVerdicts.mp hv
    refine ⟨a, ha, ?_⟩
    unfold Batch.addresses
    rw [Batch.move?_eq_some.mpr ⟨haddressed.1, haddressed.2, Option.map_eq_some_iff.mpr ⟨v, hv, rfl⟩⟩]
    rfl
  | _ => cases hv

theorem examined_of_verdict? (h : c.verdict? t e = some v) : c.examined t e = e.judged v := by
  unfold examined; rw [h]; rfl

theorem examined_of_unjudged (h : c.verdict? t e = none) : c.examined t e = e := by
  unfold examined; rw [h]; rfl

/-- The submissions of those whom a command does not address stay as they are. -/
theorem examined_of_unaddressed (hb : c.batch? = some b) (flags : WorkflowFlags)
    (h : ∀ a, t.author? e = some a → b.addresses flags a = false) : c.examined t e = e := by
  refine examined_of_unjudged (Option.eq_none_iff_forall_not_mem.mpr fun v hv => ?_)
  obtain ⟨a, ha, haddressed⟩ := addresses_author hb hv flags
  rw [h a ha] at haddressed
  cases haddressed

/-- Whatever the verdict, it is still the same submission. -/
theorem examined_eq (c : Command) (t : Tables) (e : Examination) :
    (c.examined t e).id = e.id ∧ (c.examined t e).campaign = e.campaign ∧
      (c.examined t e).assignee = e.assignee ∧ (c.examined t e).kind = e.kind ∧
      (c.examined t e).createdAt = e.createdAt := by
  unfold examined
  cases c.verdict? t e with
  | none => exact ⟨rfl, rfl, rfl, rfl, rfl⟩
  | some v => exact ⟨rfl, rfl, rfl, rfl, rfl⟩

end Command

/-! ## Changes of all rows but some -/

section MapBut

variable {α κ κ' : Type} [DecidableEq κ] [DecidableEq κ']

/-- The rows with `f` applied to those whose key is not among `left`. -/
def mapBut (key : α → κ) (left : List κ) (f : α → α) (as : List α) : List α :=
  as.map fun a => if key a ∈ left then a else f a

variable {key : α → κ} {k : κ} {left : List κ} {f : α → α} {as : List α}

theorem mapBut_nil (key : α → κ) (f : α → α) (as : List α) : mapBut key [] f as = as.map f := by
  simp [mapBut]

theorem mapBut_eq_self (h : ∀ a ∈ as, key a ∈ left ∨ f a = a) : mapBut key left f as = as := by
  unfold mapBut
  conv => rhs; rw [← List.map_id as]
  refine List.map_congr_left fun a ha => ?_
  rcases h a ha with hk | hf
  · rw [if_pos hk, id]
  · rw [hf, ite_self, id]

/-- Rows that do not change need not be left. -/
theorem mapBut_cons_of_fixed (h : ∀ a ∈ as, key a = k → f a = a) :
    mapBut key (k :: left) f as = mapBut key left f as := by
  refine List.map_congr_left fun a ha => ?_
  by_cases hk : key a = k
  · rw [h a ha hk, ite_self, ite_self]
  · simp [hk]

/-- The rows with one key are no longer left when they are written. They may be written under a key of
their own, `key'`. -/
theorem amend_mapBut {key' : α → κ'} {k' : κ'} {f' : α → α} (hk : k ∉ left)
    (hat : ∀ a ∈ as, key a = k → f a = if key' a = k' then f' a else a)
    (hoff : ∀ a ∈ as, key a ≠ k → key' a ≠ k' ∧ key' (f a) = key' a) :
    amend key' k' f' (mapBut key (k :: left) f as) = mapBut key left f as := by
  unfold amend mapBut
  rw [List.map_map]
  refine List.map_congr_left fun a ha => ?_
  simp only [Function.comp]
  by_cases h : key a = k
  · have hleft : key a ∈ k :: left := by rw [h]; exact List.mem_cons_self
    have hnot : key a ∉ left := h ▸ hk
    rw [if_pos hleft, if_neg hnot, hat a ha h]
  · obtain ⟨hne, hkeep⟩ := hoff a ha h
    by_cases hl : key a ∈ left
    · rw [if_pos (List.mem_cons_of_mem k hl), if_pos hl, if_neg hne]
    · have hnot : key a ∉ k :: left := by simp [h, hl]
      rw [if_neg hnot, if_neg hl, hkeep, if_neg hne]

/-- Among the rows that are left a selection finds what it found before. -/
theorem filter_mapBut {p : α → Bool} (hp : ∀ a ∈ as, p (f a) = p a)
    (hleft : ∀ a ∈ as, p a = true → key a ∈ left) : (mapBut key left f as).filter p = as.filter p := by
  unfold mapBut
  rw [List.filter_map]
  have hsame : as.filter (p ∘ fun a => if key a ∈ left then a else f a) = as.filter p := by
    refine List.filter_congr fun a ha => ?_
    simp only [Function.comp]
    split
    · rfl
    · exact hp a ha
  rw [hsame]
  conv => rhs; rw [← List.map_id (as.filter p)]
  refine List.map_congr_left fun a ha => ?_
  obtain ⟨ha, hpa⟩ := List.mem_filter.mp ha
  rw [if_pos (hleft a ha hpa), id]

end MapBut

/-! ## Loops -/

/-- Where the loop of a bulk command stands that began at `u`: those who are left and their submissions
are as they were, and of the other rows has become what is to become of them. -/
structure Underway (now : Instant) (c : Command) (b : Batch) (u : World Tables)
    (rest : List Assignee) (u' : World Tables) : Prop
    extends Pending now b.campaign (·.stage = b.stage) u rest u' where
  began : Sound u
  listed : ∀ a ∈ rest, a ∈ u.state.assignees
  state : u'.state = { u.state with
    assignees := mapBut Assignee.id (rest.map Assignee.id) (b.row (u.state.flagsOf b.campaign))
      u.state.assignees
    examinations := mapBut Examination.assignee (rest.map Assignee.id) (c.examined u.state)
      u.state.examinations }

namespace Underway

variable {u u' u'' : World Tables} {rest : List Assignee}

theorem start (h : Sound u) (hb : c.batch? = some b)
    (hrest : rest.Sublist (u.state.assigneesOf b.campaign (some b.stage)))
    (hall : ∀ a ∈ u.state.assignees, b.addresses (u.state.flagsOf b.campaign) a = true → a ∈ rest) :
    Underway now c b u rest u where
  toPending := .start h (hrest.trans List.filter_sublist) fun a ha =>
    have ha := Tables.mem_assigneesOf.mp (hrest.subset ha)
    ⟨ha.2.1, ha.2.2 _ rfl⟩
  began := h
  listed a ha := (Tables.mem_assigneesOf.mp (hrest.subset ha)).1
  state := by
    have hunaddressed : ∀ {a}, a ∈ u.state.assignees → a.id ∉ rest.map Assignee.id →
        b.addresses (u.state.flagsOf b.campaign) a = false := by
      intro a ha hid
      refine Bool.eq_false_iff.mpr fun haddressed => hid ?_
      exact List.mem_map_of_mem (hall a ha haddressed)
    rw [mapBut_eq_self, mapBut_eq_self]
    · intro e _
      refine or_iff_not_imp_left.mpr fun hid => ?_
      refine Command.examined_of_unaddressed hb (u.state.flagsOf b.campaign) fun a ha => ?_
      obtain ⟨ha, haid⟩ := (Tables.author?_eq_some_iff h.assignees.nodup).mp ha
      exact hunaddressed ha (haid ▸ hid)
    · intro a ha
      refine or_iff_not_imp_left.mpr fun hid => Batch.row_of_unmoved ?_
      exact Option.isNone_iff_eq_none.mp (by simpa [Batch.addresses] using hunaddressed ha hid)

/-- No other row has the identifier of the next one. -/
theorem eq_head (h : Underway now c b u (a :: rest) u') {x : Assignee} (hx : x ∈ u.state.assignees)
    (hid : x.id = a.id) : x = a :=
  List.inj_on_of_nodup_map h.began.assignees.nodup hx (h.listed a List.mem_cons_self) hid

theorem author_head (h : Underway now c b u (a :: rest) u') (he : e.assignee = a.id) :
    u.state.author? e = some a :=
  (Tables.author?_eq_some_iff h.began.assignees.nodup).mpr ⟨h.listed a List.mem_cons_self, he.symm⟩

theorem move?_head (h : Underway now c b u (a :: rest) u') (flags : WorkflowFlags) :
    b.move? flags a = b.step flags a.blogger :=
  if_pos ⟨h.head.2.1, h.head.2.2⟩

theorem skip (h : Underway now c b u (a :: rest) u') (hb : c.batch? = some b)
    (ha : b.addresses (u.state.flagsOf b.campaign) a = false) : Underway now c b u rest u' where
  toPending := h.toPending.skip
  began := h.began
  listed x hx := h.listed x (List.mem_cons_of_mem a hx)
  state := by
    rw [h.state, List.map_cons, mapBut_cons_of_fixed, mapBut_cons_of_fixed]
    · intro e _ he
      refine Command.examined_of_unaddressed hb (u.state.flagsOf b.campaign) fun x hx => ?_
      rw [h.author_head he] at hx
      cases hx
      exact ha
    · intro x hx hid
      rw [h.eq_head hx hid]
      exact Batch.row_of_unmoved (Option.isNone_iff_eq_none.mp (by simpa [Batch.addresses] using ha))

theorem head_notMem (h : Underway now c b u (a :: rest) u') : a.id ∉ rest.map Assignee.id :=
  (List.nodup_cons.mp h.distinct).1

/-- The next assignee is written as what is to become of it. -/
theorem putAssignee (h : Underway now c b u (a :: rest) u')
    (hm : b.move? (u.state.flagsOf b.campaign) a = some m) :
    amend Assignee.id (a.after m).id (fun _ => a.after m) u'.state.assignees =
      mapBut Assignee.id (rest.map Assignee.id) (b.row (u.state.flagsOf b.campaign))
        u.state.assignees := by
  rw [h.state]
  refine amend_mapBut h.head_notMem (fun x hx hid => ?_) fun x _ hid => ?_
  · rw [h.eq_head hx hid, a.after_id, if_pos rfl, Batch.row_of_move? hm]
  · rw [a.after_id]
    exact ⟨hid, b.row_id _ x⟩

/-- A step of the next assignee, by a command that has no verdicts. -/
theorem advance (h : Underway now c b u (a :: rest) u') {campaign : Campaign}
    (hc : u.state.campaign? b.campaign = some campaign)
    (hm : b.move? (u.state.flagsOf b.campaign) a = some m) (hplain : m.Plain campaign.flags)
    (hquiet : ∀ e, c.examined u.state e = e) :
    Ends (Store.memory.advance a m) u' (fun moved u'' =>
      moved = b.addresses (u.state.flagsOf b.campaign) a ∧ Underway now c b u rest u'')
      fun _ => True := by
  obtain ⟨ha, hid, _⟩ := h.head
  refine .bind (Task.obey_ends (fun a' ha' => ?_) fun _ _ => trivial)
  obtain ⟨hsource, rfl⟩ := Assignee.move_ok.mp ha'
  refine .bind (Call.updateAssignee_ends h.sound ?_ (.pure ⟨?_, ?_⟩))
  · rw [Assignee.after_id]; exact h.head_key
  · unfold Batch.addresses; rw [hm]; rfl
  · have hstep : Advancing now b.campaign u'
        { u' with state := u'.state.putAssignee (a.after m) } :=
      .moves (h.campaign?.trans hc) ha hid hplain hsource
    refine ⟨h.toPending.put (a.after_id m) hstep rfl rfl, h.began, fun x hx =>
      h.listed x (List.mem_cons_of_mem a hx), ?_⟩
    have hassignees := h.putAssignee hm
    have hexaminations := h.state
    rw [List.map_cons, mapBut_cons_of_fixed fun e _ _ => hquiet e] at hexaminations
    simp only [Tables.putAssignee]
    rw [hassignees, hexaminations]

/-- What the next assignee submitted is still stored as it was. -/
theorem submissions_head (h : Underway now c b u (a :: rest) u') (kind : EntryKind) :
    u'.state.submissions b.campaign a.id kind = u.state.submissions b.campaign a.id kind := by
  unfold Tables.submissions
  rw [h.state]
  refine filter_mapBut (fun e _ => ?_) fun e _ he => ?_
  · obtain ⟨_, hcampaign, hassignee, hkind, _⟩ := c.examined_eq u.state e
    rw [hcampaign, hassignee, hkind]
  · obtain ⟨_, hassignee, _⟩ := of_decide_eq_true he
    rw [hassignee, List.map_cons]
    exact List.mem_cons_self

/-- The latest submission of the next assignee is written with the verdict. -/
theorem putExamination {id : CampaignId} {kind : EntryKind} {verdicts : Keyed BloggerId Verdict}
    (h : Underway now (.applyVerdicts id kind verdicts) b u (a :: rest) u')
    (hb : (Command.applyVerdicts id kind verdicts).batch? = some b)
    (hv : verdicts.get? a.blogger = some v) {e e' : Examination}
    (he : u'.state.latestExamination? id a.id kind = some e) (hj : e.judge v = .ok e') :
    amend Examination.id e'.id (fun r => { e' with submissions := r.submissions })
        u'.state.examinations =
      mapBut Examination.assignee (rest.map Assignee.id)
        ((Command.applyVerdicts id kind verdicts).examined u.state) u.state.examinations := by
  cases hb
  obtain ⟨o, n, ho, rfl⟩ := Tables.latestExamination?_mem he
  obtain ⟨_, rfl⟩ := Examination.judge_ok.mp hj
  rw [h.submissions_head kind] at ho
  obtain ⟨hmem, hcampaign, hassignee, hkind⟩ := Tables.mem_submissions.mp (Tables.latest?_mem ho)
  have hsame : ∀ r ∈ u.state.examinations, r.id = o.id → r = o := fun r hr hid =>
    List.inj_on_of_nodup_map h.began.examinations.nodup hr hmem hid
  rw [h.state]
  refine amend_mapBut h.head_notMem (fun r hr hra => ?_) fun r hr hra => ?_
  · by_cases hid : r.id = o.id
    · obtain rfl := hsame r hr hid
      have hlatest : u.state.IsLatest r := by
        unfold Tables.IsLatest; rw [hcampaign, hassignee, hkind]; exact ho
      rw [if_pos rfl, Command.examined_of_verdict? (Command.verdict?_applyVerdicts.mpr
        ⟨⟨hcampaign, hkind, hlatest⟩, a, h.author_head hra, ⟨h.head.2.1, h.head.2.2⟩, hv⟩)]
      rfl
    · rw [if_neg hid]
      refine Command.examined_of_unjudged (Option.eq_none_iff_forall_not_mem.mpr fun v' hv' => hid ?_)
      obtain ⟨⟨hrc, hrk, hlatest⟩, _⟩ := Command.verdict?_applyVerdicts.mp hv'
      unfold Tables.IsLatest at hlatest
      rw [hrc, hra, hrk, ho] at hlatest
      cases hlatest
      rfl
  · refine ⟨fun hid => hra ?_, (Command.examined_eq _ _ r).1⟩
    rw [hsame r hr hid, hassignee]

/-- A verdict on the next assignee, if there is one. -/
theorem judge {id : CampaignId} {kind : EntryKind} {verdicts : Keyed BloggerId Verdict}
    (h : Underway now (.applyVerdicts id kind verdicts) b u (a :: rest) u')
    (hb : (Command.applyVerdicts id kind verdicts).batch? = some b) :
    Ends (Store.memory.applyVerdict id kind verdicts a) u' (fun moved u'' =>
      moved = b.addresses (u.state.flagsOf b.campaign) a ∧
        Underway now (.applyVerdicts id kind verdicts) b u rest u'') fun _ => True := by
  have hmove := h.move?_head (u.state.flagsOf b.campaign)
  have hskip := h.skip hb
  cases hb
  obtain ⟨ha, hid, hstage⟩ := h.head
  unfold Store.applyVerdict
  cases hv : verdicts.get? a.blogger with
  | none =>
    simp only [hv, Option.map_none] at hmove
    have hunaddressed := congrArg Option.isSome hmove
    exact .pure ⟨hunaddressed.symm, hskip hunaddressed⟩
  | some v =>
    simp only [hv, Option.map_some] at hmove
    refine .bind (Call.latestExamination_ends (fun e he => ?_) fun _ => trivial)
    refine .bind (Task.obey_ends (fun e' he' => ?_) fun _ _ => trivial)
    refine .bind (Task.obey_ends (fun a' ha' => ?_) fun _ _ => trivial)
    obtain ⟨_, rfl⟩ := Assignee.move_ok.mp ha'
    obtain ⟨o, ho, _, hkey, _⟩ := Tables.judged_row he he'
    refine .bind (Call.updateExamination_ends h.sound (List.mem_map.mpr ⟨o, ho, hkey.symm⟩) ?_)
    refine .bind (Call.updateAssignee_ends (h.sound.putJudged he he') ?_ (.pure ⟨?_, ?_⟩))
    · rw [Assignee.after_id]; exact h.head_key
    · exact (congrArg Option.isSome hmove).symm
    · have hstep : Advancing now id u' { u' with
          state := (u'.state.putExamination e').putAssignee
            (a.after (Store.judgement kind v.passed)) } := .judges ha hid hstage he he'
      refine ⟨h.toPending.put (a.after_id _) hstep rfl rfl, h.began, fun x hx =>
        h.listed x (List.mem_cons_of_mem a hx), ?_⟩
      have hassignees := h.putAssignee hmove
      have hexaminations := h.putExamination rfl hv he he'
      simp only [Tables.putAssignee, Tables.putExamination]
      rw [hassignees, hexaminations, h.state]

theorem tables (h : Underway now c b u [] u') : u'.state = { u.state with
    assignees := u.state.assignees.map (b.row (u.state.flagsOf b.campaign))
    examinations := u.state.examinations.map (c.examined u.state) } := by
  rw [h.state, List.map_nil, mapBut_nil, mapBut_nil]

end Underway

/-! ## What is left, and what is reported -/

/-- What bulk command `c` makes of tables `t`, and its report. -/
structure Pointwise (c : Command) (b : Batch) (t t' : Tables) (report : Report) : Prop where
  /-- The steps follow the flags of the campaign as it is stored; verdicts do without them. -/
  flags : (∀ kind verdicts, c ≠ .applyVerdicts b.campaign kind verdicts) →
    ∃ campaign ∈ t.campaigns, campaign.id = b.campaign ∧ t.flagsOf b.campaign = campaign.flags
  tables : t' = { t with
    assignees := t.assignees.map (b.row (t.flagsOf b.campaign))
    examinations := t.examinations.map (c.examined t) }
  allowed : ∀ a ∈ t.assignees, ∀ m, b.move? (t.flagsOf b.campaign) a = some m →
    a.move m = .ok (b.row (t.flagsOf b.campaign) a)
  judged : ∀ id kind verdicts, c = .applyVerdicts id kind verdicts →
    ∀ a ∈ t.assignees, b.addresses (t.flagsOf b.campaign) a = true →
      ∃ e ∈ t.examinations, t.IsLatest e ∧ e.campaign = id ∧ e.assignee = a.id ∧ e.kind = kind ∧
        ∃ v, verdicts.get? a.blogger = some v ∧ c.examined t e = e.judged v
  moved : report.moved = t.assignees.countP (b.addresses (t.flagsOf b.campaign))
  met : report.moved + report.skipped = c.due b t
  unskipped : ∀ id, c = .invite id ∨ c = .finishShipment id → report.skipped = 0

/-- Whoever waits for a verdict that the command has is given it on a submission. -/
theorem judged_of_addressed {id : CampaignId} {kind : EntryKind}
    {verdicts : Keyed BloggerId Verdict} {u : World Tables} (h : Sound u)
    (hb : (Command.applyVerdicts id kind verdicts).batch? = some b) (ha : a ∈ u.state.assignees)
    (haddressed : b.addresses flags a = true) :
    ∃ e ∈ u.state.examinations, u.state.IsLatest e ∧ e.campaign = id ∧ e.assignee = a.id ∧
      e.kind = kind ∧ ∃ v, verdicts.get? a.blogger = some v ∧
        (Command.applyVerdicts id kind verdicts).examined u.state e = e.judged v := by
  cases hb
  obtain ⟨m, hm⟩ := Option.isSome_iff_exists.mp haddressed
  obtain ⟨hid, hstage, hstep⟩ := Batch.move?_eq_some.mp hm
  obtain ⟨v, hv, _⟩ := Option.map_eq_some_iff.mp hstep
  have hsubmitted : u.state.Submitted id a.id kind := by
    have := h.submitted a ha kind (by rw [hstage]; exact neededSubmission_examinedStage kind)
    rwa [hid] at this
  obtain ⟨e, he⟩ := Option.isSome_iff_exists.mp (Tables.latestExamination?_isSome.mpr hsubmitted)
  obtain ⟨o, _, ho, _⟩ := Tables.latestExamination?_mem he
  obtain ⟨hmem, hcampaign, hassignee, hkind⟩ := Tables.mem_submissions.mp (Tables.latest?_mem ho)
  have hlatest : u.state.IsLatest o := by
    unfold Tables.IsLatest; rw [hcampaign, hassignee, hkind]; exact ho
  have hauthor := (Tables.author?_eq_some_iff h.assignees.nodup).mpr ⟨ha, hassignee.symm⟩
  refine ⟨o, hmem, hlatest, hcampaign, hassignee, hkind, v, hv, ?_⟩
  exact Command.examined_of_verdict? (Command.verdict?_applyVerdicts.mpr
    ⟨⟨hcampaign, hkind, hlatest⟩, a, hauthor, ⟨hid, hstage⟩, hv⟩)

theorem countP_assigneesOf (b : Batch) (flags : WorkflowFlags) (t : Tables) :
    (t.assigneesOf b.campaign (some b.stage)).countP (b.addresses flags) =
      t.assignees.countP (b.addresses flags) := by
  unfold Tables.assigneesOf
  rw [List.countP_filter]
  refine List.countP_congr fun a _ => ?_
  rw [Bool.and_eq_true, and_iff_left_iff_imp]
  intro haddressed
  obtain ⟨m, hm⟩ := Option.isSome_iff_exists.mp haddressed
  obtain ⟨hid, hstage, _⟩ := Batch.move?_eq_some.mp hm
  simp [hid, hstage]

section Runs

variable {u u' : World Tables} {report : Report}

theorem Underway.pointwise (h : Underway now c b u [] u') (hb : c.batch? = some b)
    (hflags : (∀ kind verdicts, c ≠ .applyVerdicts b.campaign kind verdicts) →
      ∃ campaign, u.state.campaign? b.campaign = some campaign)
    (hmoved : report.moved = u.state.assignees.countP (b.addresses (u.state.flagsOf b.campaign)))
    (hmet : report.moved + report.skipped = c.due b u.state)
    (hunskipped : ∀ id, c = .invite id ∨ c = .finishShipment id → report.skipped = 0) :
    Pointwise c b u.state u'.state report where
  flags hc := by
    obtain ⟨campaign, hcampaign⟩ := hflags hc
    obtain ⟨hmem, hid⟩ := Tables.campaign?_mem hcampaign
    exact ⟨campaign, hmem, hid, Tables.flagsOf_eq hcampaign⟩
  tables := h.tables
  allowed _ _ _ hm := Batch.move_row hb hm
  judged id kind verdicts hc a ha haddressed := by
    subst hc
    exact judged_of_addressed h.began hb ha haddressed
  moved := hmoved
  met := hmet
  unskipped := hunskipped

variable {id : CampaignId} {stage : Stage}

/-- A loop over all who stand in the stage. -/
theorem tally_pointwise {step : Assignee → Task Tables Bool} (h : Sound u) (hb : c.batch? = some b)
    (hid : b.campaign = id) (hstage : b.stage = stage)
    (hflags : (∀ kind verdicts, c ≠ .applyVerdicts b.campaign kind verdicts) →
      ∃ campaign, u.state.campaign? b.campaign = some campaign)
    (hdue : c.due b u.state = (u.state.assigneesOf id (some stage)).length)
    (hstep : ∀ a rest u', Underway ⟨0, 0⟩ c b u (a :: rest) u' →
      Ends (step a) u' (fun moved u'' => moved = b.addresses (u.state.flagsOf b.campaign) a ∧
        Underway ⟨0, 0⟩ c b u rest u'') fun _ => True) :
    Ends (tally step (u.state.assigneesOf id (some stage))) u
      (fun report u' => Pointwise c b u.state u'.state report) fun _ => True := by
  subst hid hstage
  have hstart : Underway ⟨0, 0⟩ c b u (u.state.assigneesOf b.campaign (some b.stage)) u := by
    refine .start h hb (List.Sublist.refl _) fun a ha haddressed => ?_
    obtain ⟨m, hm⟩ := Option.isSome_iff_exists.mp haddressed
    obtain ⟨hid, hstage, _⟩ := Batch.move?_eq_some.mp hm
    exact Tables.mem_assigneesOf.mpr ⟨ha, hid, fun s hs => by cases hs; exact hstage⟩
  refine (tally_counts hstep _ u hstart).imp fun report u' hdone => ?_
  obtain ⟨rfl, hunderway⟩ := hdone
  refine hunderway.pointwise hb hflags (countP_assigneesOf b _ u.state) ?_ fun id hc => ?_
  · rw [hdue, List.length_eq_countP_add_countP (b.addresses (u.state.flagsOf b.campaign))]
    simp
  · refine List.countP_eq_zero.mpr fun a ha => ?_
    obtain ⟨_, hid, hstage⟩ := Tables.mem_assigneesOf.mp ha
    have hstage := hstage _ rfl
    rcases hc with rfl | rfl
    · cases hb; simp [Batch.addresses, Batch.move?, hid, hstage]
    · cases hb; simp [Batch.addresses, Batch.move?, hid, hstage]

/-- A bulk command that looks at its campaign first. -/
theorem read_pointwise {lock : Bool} {step : Campaign → Assignee → Task Tables Bool} (h : Sound u)
    (hb : c.batch? = some b) (hid : b.campaign = id) (hstage : b.stage = stage)
    (hdue : c.due b u.state = (u.state.assigneesOf id (some stage)).length)
    (hstep : ∀ campaign, u.state.campaign? id = some campaign → ∀ a rest u',
      Underway ⟨0, 0⟩ c b u (a :: rest) u' →
      Ends (step campaign a) u' (fun moved u'' =>
        moved = b.addresses (u.state.flagsOf b.campaign) a ∧ Underway ⟨0, 0⟩ c b u rest u'')
        fun _ => True) :
    Ends (do
      let campaign : Campaign ← Store.memory.call (.getCampaign id lock)
      let assignees ← Store.memory.call (.listAssignees id (some stage) true)
      tally (step campaign) assignees) u
      (fun report u' => Pointwise c b u.state u'.state report) fun _ => True := by
  refine .bind (Call.getCampaign_ends (fun campaign hc => ?_) fun _ => trivial)
  refine .bind (Call.listAssignees_ends ?_)
  exact tally_pointwise h hb hid hstage (fun _ => ⟨campaign, hid ▸ hc⟩) hdue (hstep campaign hc)

theorem invite_pointwise (h : Sound u) (hb : (Command.invite id).batch? = some b) :
    Ends (Store.memory.invite id) u (fun report u' => Pointwise (.invite id) b u.state u'.state report)
      fun _ => True := by
  cases hb
  refine read_pointwise h rfl rfl rfl rfl fun campaign hc a rest u' hI => ?_
  exact hI.advance hc (hI.move?_head _) trivial fun _ => rfl

theorem finishShipment_pointwise (h : Sound u) (hb : (Command.finishShipment id).batch? = some b) :
    Ends (Store.memory.finishShipment id) u
      (fun report u' => Pointwise (.finishShipment id) b u.state u'.state report) fun _ => True := by
  cases hb
  refine read_pointwise h rfl rfl rfl rfl fun campaign hc a rest u' hI => ?_
  have hmove := hI.move?_head (u.state.flagsOf id)
  rw [Tables.flagsOf_eq hc] at hmove
  exact hI.advance hc (by rw [Tables.flagsOf_eq hc]; exact hmove) rfl fun _ => rfl

theorem applyLottery_pointwise {results : Keyed BloggerId LotteryResult} (h : Sound u)
    (hb : (Command.applyLottery id results).batch? = some b) :
    Ends (Store.memory.applyLottery id results) u
      (fun report u' => Pointwise (.applyLottery id results) b u.state u'.state report)
      fun _ => True := by
  cases hb
  refine read_pointwise h rfl rfl rfl rfl fun campaign hc a rest u' hI => ?_
  have hmove := hI.move?_head (u.state.flagsOf id)
  have hskip := hI.skip rfl
  unfold Store.applyResult
  cases hr : results.get? a.blogger with
  | none =>
    simp only [hr, Option.map_none] at hmove
    have hunaddressed := congrArg Option.isSome hmove
    exact .pure ⟨hunaddressed.symm, hskip hunaddressed⟩
  | some r =>
    simp only [hr, Option.map_some, Tables.flagsOf_eq hc] at hmove
    refine hI.advance hc ?_ (draw_plain campaign.flags r) fun _ => rfl
    rw [Tables.flagsOf_eq hc]
    exact hmove

theorem applyVerdicts_pointwise {kind : EntryKind} {verdicts : Keyed BloggerId Verdict}
    (h : Sound u) (hb : (Command.applyVerdicts id kind verdicts).batch? = some b) :
    Ends (Store.memory.applyVerdicts id kind verdicts) u
      (fun report u' => Pointwise (.applyVerdicts id kind verdicts) b u.state u'.state report)
      fun _ => True := by
  cases hb
  refine .bind (Call.listAssignees_ends ?_)
  exact tally_pointwise h rfl rfl rfl (fun hne => absurd rfl (hne kind verdicts)) rfl
    fun a rest u' hI => hI.judge rfl

theorem addresses_payment {bloggers : List BloggerId}
    (hb : (Command.completePayment id bloggers).batch? = some b) :
    b.addresses flags a = true ↔ a.campaign = id ∧ a.stage = .paying ∧ a.blogger ∈ bloggers := by
  cases hb
  simp [Batch.addresses, Option.isSome_iff_exists, Batch.move?_eq_some]

theorem move?_payment {bloggers : List BloggerId}
    (hb : (Command.completePayment id bloggers).batch? = some b) (h : b.addresses flags a = true) :
    b.move? flags a = some .completePayment := by
  obtain ⟨m, hm⟩ := Option.isSome_iff_exists.mp h
  cases hb
  obtain ⟨_, _, hstep⟩ := Batch.move?_eq_some.mp hm
  obtain ⟨_, rfl⟩ : a.blogger ∈ bloggers ∧ Move.completePayment = m := by simpa using hstep
  exact hm

theorem mem_among_payment {bloggers : List BloggerId}
    (hb : (Command.completePayment id bloggers).batch? = some b) :
    a ∈ t.among id bloggers (some .paying) ↔ a ∈ t.assignees ∧ b.addresses flags a = true := by
  simp [addresses_payment hb, Tables.mem_among]

/-- All who are found on the list are paid, and nobody else is. -/
theorem countP_among_payment {bloggers : List BloggerId}
    (hb : (Command.completePayment id bloggers).batch? = some b) :
    (t.among id bloggers (some .paying)).countP (b.addresses flags) =
      t.assignees.countP (b.addresses flags) := by
  rw [← countP_assigneesOf, Tables.among, List.countP_filter]
  cases hb
  refine List.countP_congr fun a _ => ?_
  rw [Bool.and_eq_true, and_iff_left_iff_imp]
  exact fun ha => by simpa using ((addresses_payment rfl).mp ha).2.2

/-- Those who are to be paid are all listed, so that the others on the list are as many as are left
over. -/
theorem completePayment_pointwise {bloggers : List BloggerId} (h : Stored u)
    (hb : (Command.completePayment id bloggers).batch? = some b) :
    Ends (Store.memory.completePayment id bloggers) u
      (fun report u' => Pointwise (.completePayment id bloggers) b u.state u'.state report)
      fun _ => True := by
  refine .bind (Call.getCampaign_ends (fun campaign hc => ?_) fun _ => trivial)
  refine .bind (Call.assigneesAmong_ends ?_)
  have hc' : u.state.campaign? b.campaign = some campaign := by cases hb; exact hc
  let met := u.state.among id bloggers (some .paying)
  have hmet : ∀ a, a ∈ met ↔
      a ∈ u.state.assignees ∧ b.addresses (u.state.flagsOf b.campaign) a = true :=
    fun _ => mem_among_payment hb
  have hall : met.countP (b.addresses (u.state.flagsOf b.campaign)) = met.length :=
    List.countP_eq_length.mpr fun a ha => ((hmet a).mp ha).2
  have hlength : met.length ≤ bloggers.length := h.length_among_le id bloggers _
  have hstart : Underway ⟨0, 0⟩ (.completePayment id bloggers) b u met u := by
    refine .start h.sound hb ?_ fun a ha haddressed => (hmet a).mpr ⟨ha, haddressed⟩
    cases hb
    exact List.filter_sublist
  let I : List Assignee → World Tables → Prop := fun rest u' =>
    Underway ⟨0, 0⟩ (.completePayment id bloggers) b u rest u' ∧ ∀ a ∈ rest, a ∈ met
  refine .bind ((tally_counts (I := I) (p := b.addresses (u.state.flagsOf b.campaign))
    (fun a rest u' hI => ?_) met u ⟨hstart, fun _ ha => ha⟩).imp fun report u' hdone => .pure ?_)
  · have haddressed := ((hmet a).mp (hI.2 a List.mem_cons_self)).2
    exact (hI.1.advance hc' (move?_payment hb haddressed) trivial fun _ => rfl).imp fun _ _ hw =>
      ⟨hw.1, hw.2, fun x hx => hI.2 x (List.mem_cons_of_mem a hx)⟩
  · obtain ⟨rfl, hunderway, _⟩ := hdone
    refine hunderway.pointwise hb (fun _ => ⟨campaign, hc'⟩) (countP_among_payment hb) ?_ fun _ hc => ?_
    · change met.countP _ + (bloggers.length - met.length) = bloggers.length
      omega
    · rcases hc with hc | hc <;> cases hc

end Runs

/-! ## Commands -/

/-- A bulk command that succeeds reports how many it moved, and changes the tables row by row. -/
theorem run_pointwise {w : World Memory} (h : Stored w.unit) (o : Occasion) (hb : c.batch? = some b) :
    Ends (o.service.run c) w (fun outcome w' => ∃ report, outcome = .reported report ∧
      Pointwise c b w.state.tables w'.state.tables report) fun _ => True := by
  have hreported : ∀ {body : Task Tables Report},
      Ends body w.unit (fun report u' => Pointwise c b w.unit.state u'.state report) (fun _ => True) →
      Ends (Outcome.reported <$> Store.memory.transact body : Task Memory Outcome) w
        (fun outcome w' => ∃ report, outcome = .reported report ∧
          Pointwise c b w.state.tables w'.state.tables report) fun _ => True :=
    fun hbody => .map (hbody.transact.imp fun report _ hp => ⟨report, rfl, hp⟩)
  cases c with
  | invite id => exact hreported (invite_pointwise h.sound hb)
  | applyLottery id results => exact hreported (applyLottery_pointwise h.sound hb)
  | finishShipment id => exact hreported (finishShipment_pointwise h.sound hb)
  | completePayment id bloggers =>
    simp only [Service.run]
    cases firstRepeat? [] bloggers with
    | some blogger => exact .of_error rfl trivial
    | none => exact hreported (completePayment_pointwise h hb)
  | applyVerdicts id kind verdicts => exact hreported (applyVerdicts_pointwise h.sound hb)
  | _ => cases hb

/-- After every history, a bulk command that succeeds changes the tables row by row: those whom it
addresses take their step, the latest submissions of those whom it judges get their verdicts, and
nothing else changes. Its report counts them. -/
theorem bulk_pointwise (history : List Visit) {v : Visit} {b : Batch} {outcome : Outcome}
    (hb : v.command.batch? = some b)
    (hrun : (v.service.run v.command (World.start.after history)).1 = .ok outcome) :
    ∃ report, outcome = .reported report ∧ Pointwise v.command b
      (World.start.after history).state.tables (World.start.after (history ++ [v])).state.tables
      report := by
  rw [World.after_concat]
  exact (run_pointwise (stored_after history) v.toOccasion hb).ok (Prod.ext hrun rfl)

/-- Two assignees of a campaign whose articles wait for their verdicts. -/
def pairCourse : List Visit :=
  examinedCourse ++
    [visitAt 4 (.answerInvitation ⟨"id-0001"⟩ ⟨"other"⟩ true
      (Keyed.ofList [(⟨"id-0005"⟩, "two"), (⟨"id-0006"⟩, "yes")])),
    visitAt 5 (.submit ⟨"id-0001"⟩ ⟨"other"⟩ .entry (some ⟨"second"⟩))]

/-- One of the two is judged. -/
theorem bulk_pointwise_of_pairCourse : ∃ b, passingVisit.command.batch? = some b ∧
    (passingVisit.service.run passingVisit.command (World.start.after pairCourse)).1 =
      .ok (.reported { moved := 1, skipped := 1 }) ∧
    Pointwise passingVisit.command b (World.start.after pairCourse).state.tables
      (World.start.after (pairCourse ++ [passingVisit])).state.tables { moved := 1, skipped := 1 } := by
  have hrun : (passingVisit.service.run passingVisit.command (World.start.after pairCourse)).1 =
      .ok (.reported { moved := 1, skipped := 1 }) := by decide +kernel
  obtain ⟨report, hreport, h⟩ := bulk_pointwise pairCourse (v := passingVisit) rfl hrun
  cases hreport
  exact ⟨_, rfl, hrun, h⟩

end Sponsorship
