import Sponsorship.Proofs.Failure
import Sponsorship.Proofs.Leftovers
import Sponsorship.Proofs.Resave

/-!
# Sponsorship.Proofs.Roster

An update of a campaign and the assignees that it lists.

* `Tables.Refuses`: an input that makes the update fail.
* `placed`, `AssigneeInput.joining`: what becomes of an assignee, and the row of a new one.
* `filterMap_placed_absent`, `filterMap_placed_there`: the rows with one more input.
* `Rostering`: where the loop over the inputs stands. The tables are those of its beginning, with the
  inputs that are done.
* `reconcileAssignee_rosters`: one step of it, whether the assignee is there or not.
* `SaveRequest.OthersValid`, `Roster`: a request the rest of which is valid, and what its update
  leaves.
* `assignees_follow_request`: every such update, after every history.
-/

namespace Sponsorship

open Time

/-! ## What inputs ask -/

namespace AssigneeInput

/-- What becomes of the assignee whom an input names. -/
def place (i : AssigneeInput) (a : Assignee) : Option Assignee :=
  if i.deleted then none else some { a with fee := i.fee, stage := i.stage }

/-- The row of a new assignee. -/
def joining (i : AssigneeInput) (now : Instant) (id : CampaignId) (a : AssigneeId) : Assignee :=
  { id := a, campaign := id, blogger := i.blogger, fee := i.fee, stage := i.stage,
    declineReason := none, createdAt := now, shippingData := [], janCode := none }

end AssigneeInput

/-- What becomes of an assignee when a campaign takes these inputs: what the one with its blogger
asks, if there is one. -/
def placed (id : CampaignId) (inputs : List AssigneeInput) (a : Assignee) : Option Assignee :=
  match inputs.find? fun i => a.campaign = id ∧ i.blogger = a.blogger with
  | some i => i.place a
  | none => some a

namespace Tables

/-- The assignees whom the inputs delete. -/
def expelled (t : Tables) (id : CampaignId) (inputs : List AssigneeInput) : List AssigneeId :=
  (t.assignees.filter fun a => (placed id inputs a).isNone).map Assignee.id

/-- An input for a new assignee. -/
def joins (t : Tables) (id : CampaignId) (i : AssigneeInput) : Bool :=
  !i.deleted && (t.participation? id i.blogger).isNone

/-- An input that makes an update of a campaign fail. -/
inductive Refuses (t : Tables) (id : CampaignId) (i : AssigneeInput) : Prop
  | late {a : Assignee} (gone : i.deleted = true) (there : t.participation? id i.blogger = some a)
      (stage : a.stage ≠ .beforeInvitation)
  | premature (kept : i.deleted = false) (absent : t.participation? id i.blogger = none)
      (stage : i.stage = .preExamination ∨ i.stage = .examination)
  | negative (kept : i.deleted = false) (fee : i.fee < 0)
  | unsubmitted {a : Assignee} {kind : EntryKind} (kept : i.deleted = false)
      (there : t.participation? id i.blogger = some a) (stage : i.stage = Store.examinedStage kind)
      (lacking : ¬ t.Submitted id a.id kind)

end Tables

variable {now : Instant} {r : SaveRequest} {id : CampaignId} {i : AssigneeInput}
  {done : List AssigneeInput} {a b : Assignee} {t t' : Tables}

/-! ## Who is refused -/

theorem neededSubmission_eq_some {stage : Stage} {kind : EntryKind} :
    Store.neededSubmission stage = some kind ↔ stage = Store.examinedStage kind := by
  cases stage <;> cases kind <;> simp [Store.neededSubmission, Store.examinedStage]

theorem neededSubmission_eq_none {stage : Stage} : Store.neededSubmission stage = none ↔
    ¬ (stage = .preExamination ∨ stage = .examination) := by
  cases stage <;> simp [Store.neededSubmission]

namespace Tables

/-- Whether an input is refused depends on the assignees and the submissions alone. -/
theorem Refuses.of_eq (h : t.Refuses id i) (ha : t'.assignees = t.assignees)
    (he : t'.examinations = t.examinations) : t'.Refuses id i := by
  have hthere : t'.participation? id i.blogger = t.participation? id i.blogger := by
    unfold participation?; rw [ha]
  cases h with
  | late gone there stage => exact .late gone (hthere.trans there) stage
  | premature kept absent stage => exact .premature kept (hthere.trans absent) stage
  | negative kept fee => exact .negative kept fee
  | unsubmitted kept there stage lacking =>
    refine .unsubmitted kept (hthere.trans there) stage fun hs => lacking ?_
    unfold Submitted at hs ⊢
    rwa [he] at hs

theorem refuses_gone_absent (hgone : i.deleted = true)
    (habsent : t.participation? id i.blogger = none) : ¬ t.Refuses id i := by
  intro h
  cases h with
  | late _ there _ => rw [habsent] at there; cases there
  | premature kept _ _ => rw [hgone] at kept; cases kept
  | negative kept _ => rw [hgone] at kept; cases kept
  | unsubmitted kept _ _ _ => rw [hgone] at kept; cases kept

theorem refuses_gone (hgone : i.deleted = true) (ha : t.participation? id i.blogger = some a) :
    t.Refuses id i ↔ a.stage ≠ .beforeInvitation := by
  refine ⟨fun h => ?_, .late hgone ha⟩
  cases h with
  | late _ there stage => rw [ha] at there; cases there; exact stage
  | premature kept _ _ => rw [hgone] at kept; cases kept
  | negative kept _ => rw [hgone] at kept; cases kept
  | unsubmitted kept _ _ _ => rw [hgone] at kept; cases kept

theorem refuses_absent (hkept : i.deleted = false)
    (habsent : t.participation? id i.blogger = none) :
    t.Refuses id i ↔ ¬ (Store.neededSubmission i.stage = none ∧ 0 ≤ i.fee) := by
  rw [neededSubmission_eq_none]
  constructor
  · rintro (⟨gone, _, _⟩ | ⟨_, _, stage⟩ | ⟨_, fee⟩ | ⟨_, there, _, _⟩) ⟨hstage, hfee⟩
    · rw [hkept] at gone; cases gone
    · exact hstage stage
    · omega
    · rw [habsent] at there; cases there
  · intro h
    by_cases hstage : i.stage = .preExamination ∨ i.stage = .examination
    · exact .premature hkept habsent hstage
    · exact .negative hkept (by by_contra hfee; exact h ⟨hstage, by omega⟩)

theorem refuses_there (hkept : i.deleted = false) (ha : t.participation? id i.blogger = some a) :
    t.Refuses id i ↔ i.fee < 0 ∨ ∃ kind, Store.neededSubmission i.stage = some kind ∧
      t.latestExamination? id a.id kind = none := by
  have hlacking : ∀ kind, t.latestExamination? id a.id kind = none ↔ ¬ t.Submitted id a.id kind :=
    fun kind => by rw [← latestExamination?_isSome, Option.not_isSome_iff_eq_none]
  simp only [neededSubmission_eq_some, hlacking]
  constructor
  · rintro (⟨gone, _, _⟩ | ⟨_, absent, _⟩ | ⟨_, fee⟩ | ⟨_, there, stage, lacking⟩)
    · rw [hkept] at gone; cases gone
    · rw [ha] at absent; cases absent
    · exact .inl fee
    · rw [ha] at there; cases there; exact .inr ⟨_, stage, lacking⟩
  · rintro (hfee | ⟨kind, stage, lacking⟩)
    · exact .negative hkept hfee
    · exact .unsubmitted hkept ha stage lacking

theorem mem_expelled {x : AssigneeId} {inputs : List AssigneeInput} :
    x ∈ t.expelled id inputs ↔ ∃ a ∈ t.assignees, placed id inputs a = none ∧ a.id = x := by
  unfold expelled
  simp only [List.mem_map, List.mem_filter, Option.isNone_iff_eq_none, and_assoc]

end Tables

/-! ## One more input -/

theorem placed_participant (h : placed id done a = some b) : b.participant = a.participant := by
  unfold placed at h
  split at h
  · unfold AssigneeInput.place at h
    split at h
    · cases h
    · cases h; rfl
  · cases h; rfl

theorem placed_nil (a : Assignee) : placed id [] a = some a := rfl

/-- An assignee whom no input names stays as it is. -/
theorem placed_of_unnamed (h : a.blogger ∉ done.map AssigneeInput.blogger) :
    placed id done a = some a := by
  have hnone : (done.find? fun i => a.campaign = id ∧ i.blogger = a.blogger) = none := by
    refine List.find?_eq_none.mpr fun i hi hia => h ?_
    have hb : i.blogger = a.blogger := (of_decide_eq_true hia).2
    exact List.mem_map.mpr ⟨i, hi, hb⟩
  unfold placed
  rw [hnone]

theorem placed_concat_of_ne (h : ¬ (a.campaign = id ∧ a.blogger = i.blogger)) :
    placed id (done ++ [i]) a = placed id done a := by
  have hi : ¬ (a.campaign = id ∧ i.blogger = a.blogger) := fun hi => h ⟨hi.1, hi.2.symm⟩
  unfold placed
  rw [List.find?_append, List.find?_cons_of_neg (by simpa using hi), List.find?_nil, Option.or_none]

theorem placed_concat_of_eq (hnew : i.blogger ∉ done.map AssigneeInput.blogger)
    (hid : a.campaign = id) (hb : a.blogger = i.blogger) : placed id (done ++ [i]) a = i.place a := by
  have hnone : (done.find? fun i => a.campaign = id ∧ i.blogger = a.blogger) = none := by
    refine List.find?_eq_none.mpr fun j hj hja => hnew ?_
    have hj' : j.blogger = a.blogger := (of_decide_eq_true hja).2
    exact List.mem_map.mpr ⟨j, hj, hj'.trans hb⟩
  unfold placed
  rw [List.find?_append, hnone, Option.none_or, List.find?_cons_of_pos (by simp [hid, hb])]

/-- The rows with one more input whose blogger is not there. -/
theorem filterMap_placed_absent {as : List Assignee}
    (habsent : ∀ a ∈ as, ¬ (a.campaign = id ∧ a.blogger = i.blogger)) :
    as.filterMap (placed id (done ++ [i])) = as.filterMap (placed id done) :=
  List.filterMap_congr fun a ha => placed_concat_of_ne (habsent a ha)

/-- The rows with one more input whose assignee is there: it alone changes. -/
theorem filterMap_placed_there {as : List Assignee} (hd : (as.map Assignee.id).Nodup) (ha : a ∈ as)
    (hid : a.campaign = id) (hb : a.blogger = i.blogger)
    (hone : ∀ x ∈ as, x.campaign = id → x.blogger = i.blogger → x = a)
    (hnew : i.blogger ∉ done.map AssigneeInput.blogger) :
    as.filterMap (placed id (done ++ [i])) =
      (as.filterMap (placed id done)).filterMap fun x => if x.id = a.id then i.place a else some x := by
  -- `a` was not named before, so its row has come through `done` as it was
  rw [List.filterMap_filterMap]
  refine List.filterMap_congr fun x hx => ?_
  by_cases hxa : x = a
  · subst hxa
    rw [placed_concat_of_eq hnew hid hb, placed_of_unnamed (hb ▸ hnew), Option.bind_some, if_pos rfl]
  · have hne : x.id ≠ a.id := fun hids => hxa (List.inj_on_of_nodup_map hd hx ha hids)
    rw [placed_concat_of_ne fun hxi => hxa (hone x hx hxi.1 hxi.2)]
    cases hp : placed id done x with
    | none => rfl
    | some y =>
      have hy : y.id = x.id := congrArg Participant.assignee (placed_participant hp)
      rw [Option.bind_some, if_neg (hy ▸ hne)]

/-- An input whose blogger is not there deletes nobody. -/
theorem Tables.expelled_absent (habsent : t.participation? id i.blogger = none) :
    t.expelled id (done ++ [i]) = t.expelled id done := by
  unfold expelled
  congr 1
  refine List.filter_congr fun a ha => ?_
  rw [placed_concat_of_ne (participation?_eq_none.mp habsent a ha)]

/-- An input deletes nobody but the assignee whom it names. -/
theorem Tables.mem_expelled_there (hd : ((t.assigneesOf id none).map Assignee.blogger).Nodup)
    (ha : t.participation? id i.blogger = some a)
    (hnew : i.blogger ∉ done.map AssigneeInput.blogger) (x : AssigneeId) :
    x ∈ t.expelled id (done ++ [i]) ↔ x ∈ t.expelled id done ∨ i.deleted = true ∧ x = a.id := by
  obtain ⟨hmem, hid, hb⟩ := participation?_mem ha
  have hplace : i.place a = none ↔ i.deleted = true := by
    unfold AssigneeInput.place; split <;> simp_all
  simp only [mem_expelled]
  constructor
  · rintro ⟨y, hy, hnone, rfl⟩
    by_cases hyi : y.campaign = id ∧ y.blogger = i.blogger
    · have hfound := (participation?_eq_some hd).mpr ⟨hy, hyi.1, hyi.2⟩
      obtain rfl : y = a := Option.some.inj (hfound.symm.trans ha)
      rw [placed_concat_of_eq hnew hid hb] at hnone
      exact .inr ⟨hplace.mp hnone, rfl⟩
    · rw [placed_concat_of_ne hyi] at hnone
      exact .inl ⟨y, hy, hnone, rfl⟩
  · rintro (⟨y, hy, hnone, rfl⟩ | ⟨hgone, rfl⟩)
    · refine ⟨y, hy, ?_, rfl⟩
      rw [placed_concat_of_ne, hnone]
      rintro ⟨_, hyb⟩
      rw [placed_of_unnamed (hyb ▸ hnew)] at hnone
      cases hnone
    · exact ⟨a, hmem, by rw [placed_concat_of_eq hnew hid hb, hplace.mpr hgone], rfl⟩

/-! ## The loop -/

/-- Where the loop over the inputs stands that began at `u`: `done` is behind it, and `joined` are the
new assignees. -/
structure Rostering (now : Instant) (id : CampaignId) (u : World Tables) (done : List AssigneeInput)
    (joined : List Assignee) (u' : World Tables) : Prop where
  assignees : u'.state.assignees = u.state.assignees.filterMap (placed id done) ++ joined
  newcomers : List.Forall₂ (fun i a => a = i.joining now id a.id) (done.filter (u.state.joins id))
    joined
  later : u.ids.Later u'.ids
  fresh : ∀ a ∈ joined, ¬ u.ids.Issued a.id
  examinations : u'.state.examinations = u.state.examinations
  answers : u'.state.answers =
    u.state.answers.filter fun x => x.assignee ∉ u.state.expelled id done

namespace Rostering

variable {u u' : World Tables} {joined : List Assignee}

theorem start (now : Instant) (id : CampaignId) (u : World Tables) : Rostering now id u [] [] u where
  assignees := by
    rw [List.append_nil]
    exact (List.filterMap_some (l := u.state.assignees)).symm
  newcomers := .nil
  later := .refl _
  fresh _ ha := by cases ha
  examinations := rfl
  answers := by
    refine (List.filter_eq_self.mpr fun x _ => ?_).symm
    have hx : x.assignee ∉ u.state.expelled id [] := fun hx => by
      obtain ⟨_, _, hnone, _⟩ := Tables.mem_expelled.mp hx
      cases hnone
    exact decide_eq_true hx

/-- An input for nobody new. -/
theorem newcomers_concat (h : Rostering now id u done joined u') (hold : u.state.joins id i = false) :
    List.Forall₂ (fun i a => a = i.joining now id a.id) ((done ++ [i]).filter (u.state.joins id))
      joined := by
  rw [List.filter_append, List.filter_cons_of_neg (Bool.eq_false_iff.mp hold), List.filter_nil,
    List.append_nil]
  exact h.newcomers

section Absent

variable (h : Rostering now id u done joined u') (habsent : u.state.participation? id i.blogger = none)

include h habsent

/-- Nobody is there whom an input deletes. -/
theorem skip (hgone : i.deleted = true) : Rostering now id u (done ++ [i]) joined u' where
  assignees := by
    rw [filterMap_placed_absent (Tables.participation?_eq_none.mp habsent)]
    exact h.assignees
  newcomers := h.newcomers_concat (by simp [Tables.joins, hgone])
  later := h.later
  fresh := h.fresh
  examinations := h.examinations
  answers := by rw [Tables.expelled_absent habsent]; exact h.answers

/-- The row of a new assignee comes last, with the next identifier. -/
theorem join (hinj : Function.Injective u'.ids.name) (hkept : i.deleted = false) :
    Rostering now id u (done ++ [i]) (joined ++ [i.joining now id u'.ids.next.1])
      { ids := (u'.ids.next : AssigneeId × Ids).2
        state := u'.state.addAssignee (i.joining now id u'.ids.next.1) } where
  assignees := by
    rw [filterMap_placed_absent (Tables.participation?_eq_none.mp habsent), ← List.append_assoc,
      ← h.assignees]
    rfl
  newcomers := by
    have hnew : u.state.joins id i = true := by simp [Tables.joins, hkept, habsent]
    rw [List.filter_append, List.filter_cons_of_pos hnew, List.filter_nil]
    exact List.rel_append h.newcomers (.cons rfl .nil)
  later := h.later.trans (Ids.later_next .assignee u'.ids)
  fresh a ha hissued := by
    rcases List.mem_append.mp ha with ha | ha
    · exact h.fresh a ha hissued
    · rw [List.mem_singleton.mp ha] at hissued
      exact Ids.next_ne_of_issued hinj (hissued.later h.later) rfl
  examinations := h.examinations
  answers := by rw [Tables.expelled_absent habsent]; exact h.answers

/-- A blogger who is not there did not join by another input either. -/
theorem free (hnew : i.blogger ∉ done.map AssigneeInput.blogger) :
    u'.state.participation? id i.blogger = none := by
  refine Tables.participation?_eq_none.mpr fun a ha => ?_
  rw [h.assignees] at ha
  rcases List.mem_append.mp ha with ha | ha
  · obtain ⟨x, hx, hxa⟩ := List.mem_filterMap.mp ha
    have hp := placed_participant hxa
    have hsame : a.campaign = x.campaign ∧ a.blogger = x.blogger :=
      ⟨congrArg Participant.campaign hp, congrArg Participant.blogger hp⟩
    rw [hsame.1, hsame.2]
    exact Tables.participation?_eq_none.mp habsent x hx
  · obtain ⟨j, hj, hja⟩ := exists_left_of_forall₂ h.newcomers ha
    have hb : a.blogger = j.blogger := by rw [hja]; rfl
    rintro ⟨_, hai⟩
    exact hnew (List.mem_map.mpr ⟨j, (List.mem_filter.mp hj).1, hb.symm.trans hai⟩)

end Absent

section There

variable (h : Rostering now id u done joined u')
  (ha : u.state.participation? id i.blogger = some a)
  (hnew : i.blogger ∉ done.map AssigneeInput.blogger) (hu : Sound u)
  (hd : ((u.state.assigneesOf id none).map Assignee.blogger).Nodup)

include h ha hnew

theorem there : a ∈ u'.state.assignees := by
  obtain ⟨hmem, _, hb⟩ := Tables.participation?_mem ha
  rw [h.assignees]
  exact List.mem_append_left _ (List.mem_filterMap.mpr ⟨a, hmem, placed_of_unnamed (hb ▸ hnew)⟩)

include hu hd

/-- Whatever an input does to its assignee, all others stay as they are. -/
theorem assignees_there : u.state.assignees.filterMap (placed id (done ++ [i])) ++ joined =
    u'.state.assignees.filterMap fun x => if x.id = a.id then i.place a else some x := by
  obtain ⟨hmem, hid, hb⟩ := Tables.participation?_mem ha
  have hone : ∀ x ∈ u.state.assignees, x.campaign = id → x.blogger = i.blogger → x = a := by
    intro x hx hxid hxb
    have hfound := (Tables.participation?_eq_some hd).mpr ⟨hx, hxid, hxb⟩
    exact Option.some.inj (hfound.symm.trans ha)
  have hjoined : (joined.filterMap fun x => if x.id = a.id then i.place a else some x) = joined := by
    conv => rhs; rw [← List.filterMap_some (l := joined)]
    refine List.filterMap_congr fun x hx => if_neg fun hxa => ?_
    exact h.fresh x hx (hxa ▸ hu.assignees.issued a.id (List.mem_map_of_mem hmem))
  rw [h.assignees, List.filterMap_append, hjoined,
    filterMap_placed_there hu.assignees.nodup hmem hid hb hone hnew]

/-- The assignee is deleted with its answers. -/
theorem expel (hgone : i.deleted = true) :
    Rostering now id u (done ++ [i]) joined { u' with state := u'.state.removeAssignee a.id } where
  assignees := by
    rw [h.assignees_there ha hnew hu hd]
    change u'.state.assignees.filter _ = _
    rw [← List.filterMap_eq_filter]
    refine List.filterMap_congr fun x _ => ?_
    by_cases hx : x.id = a.id <;> simp [AssigneeInput.place, hgone, hx, Option.guard]
  newcomers := h.newcomers_concat (by simp [Tables.joins, ha])
  later := h.later
  fresh := h.fresh
  examinations := h.examinations
  answers := by
    change u'.state.answers.filter _ = _
    rw [h.answers, List.filter_filter]
    refine List.filter_congr fun x _ => ?_
    simp [Tables.mem_expelled_there hd ha hnew, hgone, and_comm]

/-- The assignee takes its fee and its stage from the input. -/
theorem put (hkept : i.deleted = false) :
    Rostering now id u (done ++ [i]) joined
      { u' with state := u'.state.putAssignee { a with fee := i.fee, stage := i.stage } } where
  assignees := by
    rw [h.assignees_there ha hnew hu hd]
    change amend Assignee.id a.id _ u'.state.assignees = _
    rw [amend, ← List.filterMap_eq_map]
    refine List.filterMap_congr fun x _ => ?_
    by_cases hx : x.id = a.id <;> simp [AssigneeInput.place, hkept, hx]
  newcomers := h.newcomers_concat (by simp [Tables.joins, ha])
  later := h.later
  fresh := h.fresh
  examinations := h.examinations
  answers := by
    refine h.answers.trans (List.filter_congr fun x _ => ?_)
    simp [Tables.mem_expelled_there hd ha hnew, hkept]

end There

end Rostering

/-! ## One step -/

theorem AssigneeInput.enrolment_eq (hneed : Store.neededSubmission i.stage = none)
    (hnamed : i.blogger.text ≠ "") (hfee : 0 ≤ i.fee) (ids : Ids) :
    i.enrolment now id ids =
      (.ok (i.joining now id ids.next.1), (ids.next : AssigneeId × Ids).2) := by
  refine Minting.bind_ok.mpr ⟨(), ids, Minting.obey_ok.mpr ⟨checkNewAssignee_ok.mpr hneed, rfl⟩, ?_⟩
  refine Minting.bind_ok.mpr ⟨_, _, rfl, ?_⟩
  exact Minting.obey_ok.mpr ⟨Assignee.create_ok.mpr ⟨hnamed, hfee, rfl⟩, rfl⟩

section Step

variable {u u' : World Tables} {joined : List Assignee} (h : Rostering now id u done joined u')
  (hu' : Sound u') (hnew : i.blogger ∉ done.map AssigneeInput.blogger)

/-- One more input is not refused, and the loop stands behind it. -/
abbrev Rosters (now : Instant) (id : CampaignId) (u : World Tables) (done : List AssigneeInput)
    (i : AssigneeInput) (u' : World Tables) : Prop :=
  ¬ u.state.Refuses id i ∧ ∃ joined, Rostering now id u (done ++ [i]) joined u'

include h hu' hnew

theorem reconcileAbsent_rosters (habsent : u.state.participation? id i.blogger = none)
    (hnamed : i.blogger.text ≠ "") :
    Ends (Store.memory.reconcileAssignee now id none i) u'
      (fun _ u'' => Rosters now id u done i u'') fun _ => u.state.Refuses id i := by
  simp only [Store.reconcileAssignee]
  cases hkept : i.deleted with
  | true =>
    exact .pure ⟨Tables.refuses_gone_absent hkept habsent, joined, h.skip habsent hkept⟩
  | false =>
    have hrefuses := Tables.refuses_absent hkept habsent
    refine .bind (Task.ofMinting_ends (fun row ids hrow => ?_) fun f ids hf => ?_)
    · obtain ⟨hneed, hcreate, rfl⟩ := AssigneeInput.enrolment_ok hrow
      obtain ⟨_, hfee, rfl⟩ := Assignee.create_ok.mp hcreate
      refine Call.ends ?_
      simp only [Tables.answer, h.free habsent hnew, Option.isSome_none, Bool.false_eq_true, if_false]
      exact ⟨fun hr => hrefuses.mp hr ⟨checkNewAssignee_ok.mp hneed, hfee⟩, _,
        h.join habsent hu'.injective hkept⟩
    · refine hrefuses.mpr ?_
      rintro ⟨hneed, hfee⟩
      rw [AssigneeInput.enrolment_eq hneed hnamed hfee] at hf
      cases hf

theorem reconcileThere_rosters (hu : Sound u)
    (hd : ((u.state.assigneesOf id none).map Assignee.blogger).Nodup)
    (ha : u.state.participation? id i.blogger = some a) :
    Ends (Store.memory.reconcileAssignee now id (some a) i) u'
      (fun _ u'' => Rosters now id u done i u'') fun _ => u.state.Refuses id i := by
  simp only [Store.reconcileAssignee]
  cases hkept : i.deleted with
  | true =>
    have hrefuses := Tables.refuses_gone hkept ha
    refine .bind (Task.obey_ends (fun _ hstage => ?_) fun rule hrule => ?_)
    · have hs : a.stage = .beforeInvitation := of_decide_eq_true (demand_ok.mp hstage)
      exact Call.deleteAssignee_ends
        ⟨fun hr => hrefuses.mp hr hs, joined, h.expel ha hnew hu hd hkept⟩
    · refine hrefuses.mpr fun hs => ?_
      rw [demand_ok.mpr (decide_eq_true hs)] at hrule
      cases hrule
  | false =>
    have hrefuses := Tables.refuses_there hkept ha
    have hlatest : ∀ kind, u'.state.latestExamination? id a.id kind =
        u.state.latestExamination? id a.id kind := fun kind => by
      unfold Tables.latestExamination? Tables.submissions
      rw [h.examinations]
    refine .bind ((checkSubmission_saves a i).mono (fun _ u₁ hu₁ => ?_) fun _ hlacking => ?_)
    · obtain ⟨rfl, hneed⟩ := hu₁
      refine .bind (Task.obey_ends (fun row hrow => ?_) fun rule hrule => ?_)
      · obtain ⟨hfee, rfl⟩ := Assignee.setFee_ok.mp hrow
        have hput := h.put ha hnew hu hd hkept
        have hkey : a.id ∈ u₁.state.assignees.map Assignee.id := List.mem_map_of_mem (h.there ha hnew)
        refine Call.updateAssignee_ends hu' hkey ⟨fun hr => ?_, joined, hput⟩
        rcases hrefuses.mp hr with hfee' | ⟨kind, hkind, hnone⟩
        · omega
        · have := hneed kind hkind
          rw [hlatest, hnone] at this
          cases this
      · refine hrefuses.mpr (.inl ?_)
        by_contra hfee
        rw [Assignee.setFee_ok.mpr ⟨by omega, rfl⟩] at hrule
        cases hrule
    · obtain ⟨kind, hkind, hnone⟩ := hlacking
      exact hrefuses.mpr (.inr ⟨kind, hkind, hlatest kind ▸ hnone⟩)

theorem reconcileAssignee_rosters (hu : Sound u)
    (hd : ((u.state.assigneesOf id none).map Assignee.blogger).Nodup) (hnamed : i.blogger.text ≠ "") :
    Ends (Store.memory.reconcileAssignee now id (u.state.participation? id i.blogger) i) u'
      (fun _ u'' => Rosters now id u done i u'') fun _ => u.state.Refuses id i := by
  cases ha : u.state.participation? id i.blogger with
  | none => exact reconcileAbsent_rosters h hu' hnew ha hnamed
  | some a => exact reconcileThere_rosters h hu' hnew hu hd ha

end Step

/-! ## The whole update -/

section Update

variable {u : World Tables} {c : Campaign}

theorem reconcileAssignees_rosters (hu : Sound u) (hc : u.state.campaign? id = some c)
    (hd : ((u.state.assigneesOf id none).map Assignee.blogger).Nodup)
    (hnamed : ∀ i ∈ r.assignees, i.blogger.text ≠ "")
    (hdistinct : (r.assignees.map AssigneeInput.blogger).Nodup) :
    Ends (Store.memory.reconcileAssignees now id r.assignees) u
      (fun _ u' => (∀ i ∈ r.assignees, ¬ u.state.Refuses id i) ∧ Sound u' ∧
        ∃ joined, Rostering now id u r.assignees joined u')
      fun _ => ∃ i ∈ r.assignees, u.state.Refuses id i := by
  refine .bind (Call.assigneesAmong_ends ?_)
  have hstart : Reconciling now r id _ u r.assignees u := .start hu hc hdistinct
  have hread : ∀ i ∈ r.assignees, _ = u.state.participation? id i.blogger :=
    fun i hi => Tables.get?_among hd (List.mem_map_of_mem hi)
  generalize (Keyed.ofList _ : Keyed BloggerId Assignee) = there at hstart hread ⊢
  -- the rows are read once, so they have to be those of `u` whatever the loop has written since
  let I : List AssigneeInput → World Tables → Prop := fun rest u' =>
    Reconciling now r id there u rest u' ∧ ∃ done joined, done ++ rest = r.assignees ∧
      (∀ i ∈ done, ¬ u.state.Refuses id i) ∧ Rostering now id u done joined u'
  refine (eachOf_ends (I := I) (fun i rest u' hI => ?_) _ u
    ⟨hstart, [], [], rfl, fun _ hi => (by cases hi), .start now id u⟩).imp
    fun _ u' hI => ?_
  · obtain ⟨hloop, done, joined, hall, hpassed, h⟩ := hI
    have hi : i ∈ r.assignees := hall ▸ List.mem_append_right _ List.mem_cons_self
    have hnew : i.blogger ∉ done.map AssigneeInput.blogger := by
      rw [← hall, List.map_append, List.nodup_append] at hdistinct
      exact fun hmem => hdistinct.2.2 _ hmem _ (List.mem_map_of_mem List.mem_cons_self) rfl
    have hstep := reconcileAssignee_rosters h hloop.sound hnew hu hd (hnamed i hi)
    rw [← hread i hi] at hstep
    refine ((reconcileAssignee_saves hloop).and hstep).mono (fun _ u'' hu'' => ?_)
      fun _ hf => ⟨i, hi, hf.2⟩
    obtain ⟨hloop', hpasses, joined', h'⟩ := hu''
    refine ⟨hloop', done ++ [i], joined', by rw [List.append_assoc]; exact hall, fun j hj => ?_, h'⟩
    rcases List.mem_append.mp hj with hj | hj
    · exact hpassed j hj
    · rw [List.mem_singleton.mp hj]; exact hpasses
  · obtain ⟨hloop, done, joined, hall, hpassed, h⟩ := hI
    rw [List.append_nil] at hall
    subst hall
    exact ⟨hpassed, hloop.sound, joined, h⟩

/-- A questionnaire goes with its answers; nothing else does. -/
theorem reconcileQuestionnaire_clears (hasked : ∀ q, r.questionnaire = some q → ∃ made ids,
      q.renewal id (u.state.questionnaires.get? id) u.ids = (.ok made, ids)) :
    Ends (Store.memory.reconcileQuestionnaire id r.questionnaire) u
      (fun _ u' => u.ids.Later u'.ids ∧ u'.state.assignees = u.state.assignees ∧
        u'.state.examinations = u.state.examinations ∧
        u'.state.answers = u.state.answers.filter fun x =>
          r.questionnaire.isSome ∨ x.campaign ≠ id)
      fun _ => False := by
  cases hq : r.questionnaire with
  | none => exact .bind (Call.ends (Call.ends ⟨.refl _, rfl, rfl, by simp⟩))
  | some q =>
    obtain ⟨made, ids, hmade⟩ := hasked q hq
    have hlater := (q.orderly_renewal id (u.state.questionnaires.get? id)).later u.ids
    rw [hmade] at hlater
    refine .bind (Call.findQuestionnaire_ends (.bind (Task.ofMinting_ends (fun made' ids' hmade' => ?_)
      fun f ids' hf => ?_)))
    · rw [hmade] at hmade'
      cases hmade'
      have hall : u.state.answers = u.state.answers.filter fun x =>
          (some q).isSome ∨ x.campaign ≠ id := by simp
      exact Call.saveQuestionnaire_ends ⟨hlater, rfl, rfl, hall⟩
    · rw [hmade] at hf
      cases hf

end Update

/-- What an update leaves of the assignees, of what they submitted and of what they answered. -/
structure Roster (now : Instant) (id : CampaignId) (r : SaveRequest) (w : World Tables)
    (joined : List Assignee) (w' : World Tables) : Prop where
  assignees : w'.state.assignees = w.state.assignees.filterMap (placed id r.assignees) ++ joined
  newcomers : List.Forall₂ (fun i a => a = i.joining now id a.id)
    (r.assignees.filter (w.state.joins id)) joined
  fresh : ∀ a ∈ joined, ¬ w.ids.Issued a.id
  distinct : (w'.state.assignees.map Assignee.id).Nodup
  examinations : w'.state.examinations = w.state.examinations
  answers : w'.state.answers = w.state.answers.filter fun x =>
    (r.questionnaire.isSome ∨ x.campaign ≠ id) ∧ x.assignee ∉ w.state.expelled id r.assignees

/-- What came before the loop touched neither assignees nor submissions. -/
theorem Rostering.roster {w u w' : World Tables} {joined : List Assignee}
    (h : Rostering now id u r.assignees joined w') (hsound : Sound w') (hlater : w.ids.Later u.ids)
    (hassignees : u.state.assignees = w.state.assignees)
    (hexaminations : u.state.examinations = w.state.examinations)
    (hanswers : u.state.answers = w.state.answers.filter fun x =>
      r.questionnaire.isSome ∨ x.campaign ≠ id) : Roster now id r w joined w' where
  assignees := by rw [h.assignees, hassignees]
  newcomers := by
    have hjoins : u.state.joins id = w.state.joins id := by
      funext i; unfold Tables.joins Tables.participation?; rw [hassignees]
    exact hjoins ▸ h.newcomers
  fresh a ha hissued := h.fresh a ha (hissued.later hlater)
  distinct := hsound.assignees.nodup
  examinations := h.examinations.trans hexaminations
  answers := by
    have hexpelled : u.state.expelled id r.assignees = w.state.expelled id r.assignees := by
      unfold Tables.expelled; rw [hassignees]
    rw [h.answers, hanswers, hexpelled, List.filter_filter]
    refine List.filter_congr fun x _ => ?_
    simp [Bool.and_comm]

theorem updateCampaign_rosters {w : World Tables} {item : Item} {variant : Option Variant}
    {c c' : Campaign} (h : Sound w) (hdrafted : r.drafted.check = .ok ())
    (hc : w.state.campaign? id = some c) (hrev : r.revision item variant c = .ok c')
    (hasked : ∀ q, r.questionnaire = some q → ∃ made ids,
      q.renewal id (w.state.questionnaires.get? id) w.ids = (.ok made, ids))
    (hd : ((w.state.assigneesOf id none).map Assignee.blogger).Nodup)
    (hnamed : ∀ i ∈ r.assignees, i.blogger.text ≠ "")
    (hdistinct : (r.assignees.map AssigneeInput.blogger).Nodup) :
    Ends (Store.memory.updateCampaign now id r item variant) w
      (fun _ w' => (∀ i ∈ r.assignees, ¬ w.state.Refuses id i) ∧ ∃ joined, Roster now id r w joined w')
      fun _ => ∃ i ∈ r.assignees, w.state.Refuses id i := by
  have hscheduled := SaveRequest.revision_scheduled hrev
  refine (Task.idle_obey (demand_ok.mpr hscheduled)).ends ?_
  refine (Call.idle_getCampaign hc).ends ((Task.idle_ofExcept hrev).ends ?_)
  obtain ⟨hmem, hid⟩ := Tables.campaign?_mem hc
  have hid' := SaveRequest.revision_id hrev
  have hs : Saving now r id w _ := .revises hdrafted hc hrev
  refine .bind (Call.updateCampaign_ends h (List.mem_map.mpr ⟨c, hmem, hid'.symm⟩) ?_)
  have hc' : (w.state.putCampaign c').campaign? id = some c' :=
    Tables.campaign?_put hc (hid'.trans hid)
  refine .bind (((reconcileQuestionnaire_saves now r (h.saving hs) hc').and
    (reconcileQuestionnaire_clears hasked)).mono (fun _ u hu => ?_) fun _ hf => hf.2.elim)
  obtain ⟨⟨_, hsound, hc₁⟩, hlater, hassignees, hexaminations, hanswers⟩ := hu
  have hd₁ : ((u.state.assigneesOf id none).map Assignee.blogger).Nodup := by
    unfold Tables.assigneesOf; rw [hassignees]; exact hd
  refine (reconcileAssignees_rosters hsound hc₁ hd₁ hnamed hdistinct).mono (fun _ w' hw' => ?_)
    fun _ hf => ?_
  · obtain ⟨hpassed, hsound', joined, hroster⟩ := hw'
    refine ⟨fun i hi hr => hpassed i hi (hr.of_eq hassignees hexaminations), joined, ?_⟩
    exact hroster.roster hsound' hlater hassignees hexaminations hanswers
  · obtain ⟨i, hi, hr⟩ := hf
    exact ⟨i, hi, hr.of_eq hassignees.symm hexaminations.symm⟩

/-! ## The command -/

/-- The parts of a request for a campaign that is there are valid, its assignees apart. -/
structure SaveRequest.OthersValid (r : SaveRequest) (o : Occasion) (id : CampaignId)
    (w : World Memory) : Prop where
  item : r.item.text ≠ ""
  drafted : r.drafted.check = .ok ()
  revised : ∃ found c c',
    (o.catalog.get { item := r.item, variant := Id.given? r.variant } w.state).1 = .ok found ∧
      w.state.tables.campaign? id = some c ∧ r.revision found.1 found.2 c = .ok c'
  asked : ∀ q, r.questionnaire = some q → ∃ made ids,
    q.renewal id (w.state.tables.questionnaires.get? id) w.ids = (.ok made, ids)

section Command

variable {o : Occasion} {w : World Memory}

theorem run_rosters (h : Stored w.unit) (hid : r.id = some id) (hothers : r.OthersValid o id w)
    (hnamed : ∀ i ∈ r.assignees, i.blogger.text ≠ "")
    (hdistinct : (r.assignees.map AssigneeInput.blogger).Nodup)
    (hcap : r.assignees.length ≤ o.assigneeCap) :
    Ends (o.service.run (.save r)) w
      (fun outcome w' => (∀ i ∈ r.assignees, ¬ w.state.tables.Refuses id i) ∧
        outcome = .saved id ∧ ∃ joined, Roster o.now id r w.unit joined w'.unit)
      fun _ => ∃ i ∈ r.assignees, w.state.tables.Refuses id i := by
  obtain ⟨found, c, c', hfound, hc, hrev⟩ := hothers.revised
  have hcheck : r.check o.assigneeCap = .ok () :=
    SaveRequest.check_ok.mpr ⟨hothers.item, hcap, ⟨hnamed, hdistinct⟩, hothers.drafted⟩
  have hbody : Ends (do
      Store.memory.updateCampaign o.now id r found.1 found.2
      return id) w.unit
      (fun saved u => saved = id ∧ (∀ i ∈ r.assignees, ¬ w.state.tables.Refuses id i) ∧
        ∃ joined, Roster o.now id r w.unit joined u)
      fun _ => ∃ i ∈ r.assignees, w.state.tables.Refuses id i :=
    .bind ((updateCampaign_rosters h.sound hothers.drafted hc hrev hothers.asked (h.bloggers id)
      hnamed hdistinct).imp fun _ _ hu => .pure ⟨rfl, hu⟩)
  refine .map ((Task.idle_obey hcheck).ends ((Task.idle_ofState hfound (o.detached _ _)).ends ?_))
  simp only [hid]
  refine hbody.transact.imp fun saved w' hw' => ?_
  obtain ⟨rfl, hpassed, hroster⟩ := hw'
  exact ⟨hpassed, rfl, hroster⟩

end Command

/-- An update the rest of which is valid fails exactly if one of the assignees it lists is refused. If
it succeeds, those it does not list stay as they are, those it lists are as it says or gone, and the
new ones come last. -/
theorem assignees_follow_request (history : List Visit) (o : Occasion) {r : SaveRequest}
    {id : CampaignId} (hid : r.id = some id)
    (hothers : r.OthersValid o id (World.start.after history))
    (hnamed : ∀ i ∈ r.assignees, i.blogger.text ≠ "")
    (hdistinct : (r.assignees.map AssigneeInput.blogger).Nodup)
    (hcap : r.assignees.length ≤ o.assigneeCap) :
    ((∃ f, (o.service.run (.save r) (World.start.after history)).1 = .error f) ↔
      ∃ i ∈ r.assignees, (World.start.after history).state.tables.Refuses id i) ∧
    ∀ outcome w', o.service.run (.save r) (World.start.after history) = (.ok outcome, w') →
      outcome = .saved id ∧
        ∃ joined, Roster o.now id r (World.start.after history).unit joined w'.unit := by
  have hends := run_rosters (stored_after history) hid hothers hnamed hdistinct hcap
  constructor
  · refine (FailsExactly.of_ends (E := fun _ => True) (hends.mono (fun _ _ hq => ?_)
      fun _ hf => ⟨trivial, hf⟩)).fails_iff
    rintro ⟨i, hi, hr⟩
    exact hq.1 i hi hr
  · exact fun outcome w' hrun => (hends.ok hrun).2

/-- Three assignees, one of whom has submitted an article. -/
def rosterCourse : List Visit :=
  [visitAt 0 (.save { reviewingRequest with
      assignees := [{ blogger := ⟨"blogger"⟩, stage := .beforeInvitation },
        { blogger := ⟨"other"⟩, stage := .articlePosting },
        { blogger := ⟨"third"⟩, stage := .beforeInvitation }] }),
    visitAt 1 (.submit ⟨"id-0001"⟩ ⟨"other"⟩ .entry (some ⟨"entry"⟩))]

theorem othersValid_of_rosterCourse (assignees : List AssigneeInput) :
    (laterRequest assignees none).OthersValid anotherDay ⟨"id-0001"⟩
      (World.start.after rosterCourse) where
  item := by change ("item" : String) ≠ ""; decide
  drafted := rfl
  revised := by
    have hrevised : ((World.start.after rosterCourse).state.tables.campaign? ⟨"id-0001"⟩).any
        (fun c => ((laterRequest [] none).revision (.placeholder ⟨"item"⟩) none c).isOk) = true := by
      decide +kernel
    obtain ⟨c, hc, hok⟩ := (Option.any_eq_true _ _).mp hrevised
    obtain ⟨c', hc'⟩ := Except.ok_of_isOk hok
    exact ⟨(.placeholder ⟨"item"⟩, none), c, c', rfl, hc, hc'⟩
  asked q hq := by cases hq

def rosterRequest : SaveRequest := laterRequest
  [{ blogger := ⟨"blogger"⟩, stage := .done, deleted := true },
    { blogger := ⟨"other"⟩, stage := .paying, fee := 500 },
    { blogger := ⟨"fourth"⟩, stage := .lottery }] none

/-- A blogger who has submitted nothing cannot be put under examination. -/
def refusedRequest : SaveRequest := laterRequest [{ blogger := ⟨"third"⟩, stage := .examination }] none

/-- One assignee is deleted, one takes another stage, one joins and one is left alone. -/
theorem assignees_follow_request_of_rosterCourse :
    (∃ w' joined, anotherDay.service.run (.save rosterRequest) (World.start.after rosterCourse) =
        (.ok (.saved ⟨"id-0001"⟩), w') ∧
      Roster anotherDay.now ⟨"id-0001"⟩ rosterRequest (World.start.after rosterCourse).unit joined
        w'.unit ∧
      w'.state.tables.assignees.map (fun a => (a.blogger, a.stage, a.fee)) =
        [(⟨"other"⟩, .paying, 500), (⟨"third"⟩, .beforeInvitation, 0), (⟨"fourth"⟩, .lottery, 0)]) ∧
    ∃ f, (anotherDay.service.run (.save refusedRequest) (World.start.after rosterCourse)).1 =
      .error f := by
  constructor
  · have hfollows := assignees_follow_request rosterCourse anotherDay (r := rosterRequest) rfl
      (othersValid_of_rosterCourse _) (by decide) (by decide) (by decide)
    have hrows : (anotherDay.service.run (.save rosterRequest)
        (World.start.after rosterCourse)).2.state.tables.assignees.map
          (fun a => (a.blogger, a.stage, a.fee)) =
        [(⟨"other"⟩, .paying, 500), (⟨"third"⟩, .beforeInvitation, 0), (⟨"fourth"⟩, .lottery, 0)] := by
      decide +kernel
    have hok : (anotherDay.service.run (.save rosterRequest)
        (World.start.after rosterCourse)).1.isOk = true := by decide +kernel
    rcases hrun : anotherDay.service.run (.save rosterRequest) (World.start.after rosterCourse)
      with ⟨result, w'⟩
    rw [hrun] at hrows hok
    obtain ⟨outcome, rfl⟩ := Except.ok_of_isOk hok
    obtain ⟨rfl, joined, hroster⟩ := hfollows.2 outcome w' hrun
    exact ⟨w', joined, rfl, hroster, hrows⟩
  · have hfollows := assignees_follow_request rosterCourse anotherDay (r := refusedRequest) rfl
      (othersValid_of_rosterCourse _) (by decide) (by decide) (by decide)
    refine hfollows.1.mpr ⟨_, List.mem_singleton.mpr rfl, ?_⟩
    have hlacking : ((World.start.after rosterCourse).state.tables.participation? ⟨"id-0001"⟩
        ⟨"third"⟩).any (fun a => (World.start.after rosterCourse).state.tables.examinations.all
          fun e => e.assignee ≠ a.id) = true := by decide +kernel
    obtain ⟨a, ha, hothers⟩ := (Option.any_eq_true _ _).mp hlacking
    have hstage : Stage.examination = Store.examinedStage .entry := rfl
    refine .unsubmitted rfl ha hstage ?_
    rintro ⟨e, he, _, hassignee, _⟩
    exact of_decide_eq_true (List.all_eq_true.mp hothers e he) hassignee

end Sponsorship
