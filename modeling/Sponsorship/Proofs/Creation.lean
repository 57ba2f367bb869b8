import Sponsorship.Proofs.Reading
import Sponsorship.Proofs.Reconciliation
import Sponsorship.Proofs.Roster

/-!
# Sponsorship.Proofs.Creation

What a request for a new campaign leaves.

* `ScheduleInput.dated`, `QuestionnaireInput.Posed`: the rows for inputs.
* `Enrolling`: where the loop over the assignees stands.
* `Created`: what is stored, row by row, and which identifiers were taken for it.
* `ReadsBack`: what queries answer about the new campaign.
* `creation_stores_request`: both, for every request without an identifier that succeeds.
-/

namespace Sponsorship

open Time

/-! ## Rows for inputs -/

/-- The schedule with the kind and the dates of an input. -/
def ScheduleInput.dated (i : ScheduleInput) (id : ScheduleId) : Schedule :=
  { id, kind := i.kind, opens := i.opens, closes := i.closes }

theorem ScheduleInput.schedule_dated {i : ScheduleInput} {ids ids' : Ids} {s : Schedule}
    (h : i.schedule ids = (.ok s, ids')) : s = i.dated s.id := by
  obtain ⟨_, _, _, hmade⟩ := Minting.bind_ok.mp h
  obtain ⟨hcreate, _⟩ := Minting.obey_ok.mp hmade
  obtain ⟨_, rfl⟩ := Schedule.create_ok.mp hcreate
  rfl

theorem QuestionInput.pose_under {i : QuestionInput} {ids ids' : Ids} {q : Question}
    (h : i.pose ids = (.ok q, ids')) : q = i.under q.id := by
  obtain ⟨hcreate, _⟩ := pose_ok h
  obtain ⟨_, _, rfl⟩ := Question.create_ok.mp hcreate
  rfl

/-- The row of a new assignee has the next identifier, and it enters no stage of examination. -/
theorem AssigneeInput.enrolment_joining {i : AssigneeInput} {now : Instant} {id : CampaignId}
    {ids ids' : Ids} {a : Assignee} (h : i.enrolment now id ids = (.ok a, ids')) :
    a = i.joining now id ids.next.1 ∧ ids' = ids.skip 1 ∧
      Store.neededSubmission i.stage = none := by
  obtain ⟨hstage, hcreate, rfl⟩ := enrolment_ok h
  obtain ⟨_, _, rfl⟩ := Assignee.create_ok.mp hcreate
  exact ⟨rfl, rfl, checkNewAssignee_ok.mp hstage⟩

/-- A questionnaire has the description of the input and one question for each of its questions. -/
structure QuestionnaireInput.Posed (input : QuestionnaireInput) (id : CampaignId)
    (q : Questionnaire) : Prop where
  campaign : q.campaign = id
  description : q.description = input.description
  questions : List.Forall₂ (fun i x => x = i.under x.id) input.questions q.questions

theorem QuestionnaireInput.renewal_posed {input : QuestionnaireInput} {id : CampaignId}
    {ids ids' : Ids} {q : Questionnaire} (h : input.renewal id none ids = (.ok q, ids')) :
    input.Posed id q ∧
      q.questions.map (fun x => x.id.text) = ids.upcoming input.questions.length ∧
      ids' = ids.skip input.questions.length := by
  obtain ⟨questions, ids₁, hposed, hcreate⟩ := Minting.bind_ok.mp h
  obtain ⟨hq, rfl⟩ := Minting.obey_ok.mp hcreate
  obtain ⟨_, _, rfl⟩ := Questionnaire.create_ok.mp hq
  have htakes := Minting.mapM_takes (R := fun i x => x = i.under x.id) Question.id
    (fun _ _ _ _ h => ⟨QuestionInput.pose_under h, QuestionInput.pose_next h⟩) hposed
  exact ⟨⟨rfl, rfl, htakes.1⟩, htakes.2.1, htakes.2.2⟩

/-! ## The loop over the assignees -/

/-- Where the loop over the assignees of a new campaign stands that began at `u`: `done` is behind it,
and `joined` are their rows. -/
structure Enrolling (now : Instant) (id : CampaignId) (u : World Tables) (done : List AssigneeInput)
    (joined : List Assignee) (u' : World Tables) : Prop where
  rows : u'.state = { u.state with assignees := u.state.assignees ++ joined }
  assignees : List.Forall₂ (fun i a => a = i.joining now id a.id) done joined
  unexamined : ∀ a ∈ joined, a.stage ≠ .preExamination ∧ a.stage ≠ .examination
  taken : joined.map (fun a => a.id.text) = u.ids.upcoming done.length
  ids : u'.ids = u.ids.skip done.length

namespace Enrolling

variable {now : Instant} {id : CampaignId} {u u' : World Tables} {done : List AssigneeInput}
  {joined : List Assignee}

theorem start (now : Instant) (id : CampaignId) (u : World Tables) : Enrolling now id u [] [] u where
  rows := by simp
  assignees := .nil
  unexamined := nofun
  taken := rfl
  ids := rfl

theorem join (h : Enrolling now id u done joined u') {i : AssigneeInput}
    (hstage : Store.neededSubmission i.stage = none) :
    Enrolling now id u (done ++ [i]) (joined ++ [i.joining now id u'.ids.next.1])
      { ids := u'.ids.skip 1, state := u'.state.addAssignee (i.joining now id u'.ids.next.1) } where
  rows := by
    simp only [Tables.addAssignee, h.rows, List.append_assoc]
  assignees := List.rel_append h.assignees (.cons rfl .nil)
  unexamined a ha := by
    rcases List.mem_append.mp ha with ha | ha
    · exact h.unexamined a ha
    · rw [List.mem_singleton.mp ha]
      exact not_or.mp (neededSubmission_eq_none.mp hstage)
  taken := by
    rw [List.map_append, h.taken, List.length_append, Ids.upcoming_add, ← h.ids]
    rfl
  ids := by rw [h.ids, Ids.skip_skip, List.length_append]; rfl

/-- The assignees of a new campaign take part one after the other. -/
theorem all (now : Instant) (id : CampaignId) (inputs : List AssigneeInput) (u : World Tables) :
    Ends (eachOf (Store.memory.enrol now id) inputs) u
      (fun _ u' => ∃ joined, Enrolling now id u inputs joined u') fun _ => True := by
  let I : List AssigneeInput → World Tables → Prop := fun rest u' =>
    ∃ done joined, done ++ rest = inputs ∧ Enrolling now id u done joined u'
  refine (eachOf_ends (I := I) (fun i rest u' hI => ?_) inputs u ⟨[], [], rfl, .start now id u⟩).imp
    fun _ u' hI => ?_
  · obtain ⟨done, joined, hsplit, h⟩ := hI
    refine .bind (Task.ofMinting_ends (fun a ids ha => ?_) fun _ _ _ => trivial)
    refine Call.createAssignee_ends (fun _ => ?_) trivial
    obtain ⟨rfl, rfl, hstage⟩ := AssigneeInput.enrolment_joining ha
    exact ⟨_, _, by simpa using hsplit, h.join hstage⟩
  · obtain ⟨done, joined, hsplit, h⟩ := hI
    rw [List.append_nil] at hsplit
    exact ⟨joined, hsplit ▸ h⟩

end Enrolling

/-! ## The new rows -/

/-- The assignees of a request that are to take part. -/
def SaveRequest.entrants (r : SaveRequest) : List AssigneeInput :=
  r.assignees.filter fun i => !i.deleted

/-- The questions that a request asks, none if it has no questionnaire. -/
def SaveRequest.asked (r : SaveRequest) : List QuestionInput :=
  (r.questionnaire.map QuestionnaireInput.questions).getD []

/-- As many identifiers as a new campaign and what belongs to it have. -/
def SaveRequest.idCount (r : SaveRequest) : Nat :=
  1 + r.schedules.length + r.asked.length + r.entrants.length

/-- The texts of the identifiers of a campaign and of what belongs to it, in the order in which they are
taken. -/
def idTexts (c : Campaign) (q : Option Questionnaire) (as : List Assignee) : List String :=
  [c.id.text] ++ c.schedules.map (fun s => s.id.text) ++
    ((q.map Questionnaire.questions).getD []).map (fun x => x.id.text) ++ as.map fun a => a.id.text

/-- Campaign `c` with questionnaire `q` and assignees `as` is what a request for a new campaign adds to
the rows of `w`, when the catalog finds these products. -/
structure Created (now : Instant) (r : SaveRequest) (item : Item) (variant : Option Variant)
    (w : World Tables) (c : Campaign) (q : Option Questionnaire) (as : List Assignee)
    (w' : World Tables) : Prop where
  rows : w'.state = { w.state with
    campaigns := w.state.campaigns ++ [c]
    assignees := w.state.assignees ++ as
    questionnaires := (q.map (w.state.questionnaires.insert c.id)).getD w.state.questionnaires }
  unasked : w.state.questionnaires.get? c.id = none
  campaign : c =
    { name := r.name, item, variant, hasCoupon := r.hasCoupon, banner := r.banner,
      special := r.special, flags := r.flags, target := r.target, texts := r.texts, mail := r.mail,
      isClosed := r.isClosed, schedules := c.schedules, drafted := r.drafted, id := c.id,
      createdAt := now, pickInfo := .derive item variant r.banner }
  schedules : List.Forall₂ (fun i s => s = i.dated s.id) r.schedules c.schedules
  questionnaire : Option.Rel (fun input q => input.Posed c.id q) r.questionnaire q
  assignees : List.Forall₂ (fun i a => a = i.joining now c.id a.id) r.entrants as
  unexamined : ∀ a ∈ as, a.stage ≠ .preExamination ∧ a.stage ≠ .examination
  taken : idTexts c q as = w.ids.upcoming r.idCount
  ids : w'.ids = w.ids.skip r.idCount

/-- The campaign for a request has its fields, and one schedule for each that the request lists. -/
theorem SaveRequest.opening_opened {r : SaveRequest} {now : Instant} {item : Item}
    {variant : Option Variant} {ids ids' : Ids} {c : Campaign}
    (h : r.opening now item variant ids = (.ok c, ids')) :
    c = { name := r.name, item, variant, hasCoupon := r.hasCoupon, banner := r.banner,
          special := r.special, flags := r.flags, target := r.target, texts := r.texts,
          mail := r.mail, isClosed := r.isClosed, schedules := c.schedules, drafted := r.drafted,
          id := c.id, createdAt := now, pickInfo := .derive item variant r.banner } ∧
      List.Forall₂ (fun i s => s = i.dated s.id) r.schedules c.schedules ∧
      [c.id.text] ++ c.schedules.map (fun s => s.id.text) =
        ids.upcoming (1 + r.schedules.length) ∧
      ids' = ids.skip (1 + r.schedules.length) := by
  obtain ⟨schedules, hdated, hcreate⟩ := SaveRequest.opening_ok h
  obtain ⟨_, _, _, _, _, _, rfl⟩ := Campaign.create_ok.mp hcreate
  obtain ⟨hschedules, htaken, hids⟩ := Minting.mapM_takes (R := fun i s => s = i.dated s.id)
    Schedule.id
    (fun _ _ _ _ h => ⟨ScheduleInput.schedule_dated h, ScheduleInput.schedule_next h⟩) hdated
  refine ⟨rfl, hschedules, ?_, hids.trans (Ids.skip_skip _ 1 _)⟩
  rw [Ids.upcoming_add]
  exact congrArg ([(ids.next : CampaignId × Ids).1.text] ++ ·) htaken

theorem poseQuestionnaire_posed (id : CampaignId) (input : Option QuestionnaireInput)
    (u : World Tables) :
    Ends (Store.memory.poseQuestionnaire id input) u
      (fun _ u' => ∃ q, Option.Rel (fun input q => input.Posed id q) input q ∧
        ((q.map Questionnaire.questions).getD []).map (fun x => x.id.text) =
          u.ids.upcoming ((input.map QuestionnaireInput.questions).getD []).length ∧
        u'.ids = u.ids.skip ((input.map QuestionnaireInput.questions).getD []).length ∧
        u'.state = { u.state with
          questionnaires :=
            (q.map (u.state.questionnaires.insert id)).getD u.state.questionnaires })
      fun _ => True := by
  cases input with
  | none => exact .pure ⟨none, .none, rfl, rfl, rfl⟩
  | some input =>
    refine .bind (Task.ofMinting_ends (fun q ids hq => ?_) fun _ _ _ => trivial)
    obtain ⟨hposed, htaken, rfl⟩ := QuestionnaireInput.renewal_posed hq
    refine Call.saveQuestionnaire_ends ⟨some q, .some hposed, htaken, rfl, ?_⟩
    rw [← hposed.campaign]
    rfl

theorem createCampaign_creates {w : World Tables} (h : Sound w) (now : Instant) (r : SaveRequest)
    (item : Item) (variant : Option Variant) :
    Ends (Store.memory.createCampaign now r item variant) w
      (fun id w' => ∃ c q as, id = c.id ∧ Created now r item variant w c q as w')
      fun _ => True := by
  refine .bind (Task.ofMinting_ends (fun c ids hopen => ?_) fun _ _ _ => trivial)
  have hid := SaveRequest.opening_id hopen
  obtain ⟨hc, hschedules, hcampaignIds, rfl⟩ := SaveRequest.opening_opened hopen
  have hfresh : c.id ∉ w.state.campaigns.map Campaign.id := by
    rw [hid]
    exact h.campaigns.next_notMem h.injective
  refine .bind (Call.createCampaign_ends hfresh ?_)
  refine .bind ((poseQuestionnaire_posed c.id r.questionnaire _).imp fun _ u₁ h₁ => ?_)
  obtain ⟨q, hq, hquestionIds, hids₁, hrows₁⟩ := h₁
  refine .bind ((Enrolling.all now c.id r.entrants u₁).imp fun _ u₂ h₂ => ?_)
  obtain ⟨as, has⟩ := h₂
  refine .pure ⟨c, q, as, rfl, ?_⟩
  constructor
  case rows => rw [has.rows, hrows₁]; rfl
  case unasked => rw [hid]; exact h.questionnaire_next
  case campaign => exact hc
  case schedules => exact hschedules
  case questionnaire => exact hq
  case assignees => exact has.assignees
  case unexamined => exact has.unexamined
  case taken =>
    have hasked : ((q.map Questionnaire.questions).getD []).map (fun x => x.id.text) =
        (w.ids.skip (1 + r.schedules.length)).upcoming r.asked.length := hquestionIds
    have hjoined : as.map (fun a => a.id.text) =
        (w.ids.skip (1 + r.schedules.length + r.asked.length)).upcoming r.entrants.length := by
      rw [has.taken, hids₁]
      exact congrArg (Ids.upcoming · _) (Ids.skip_skip _ _ _)
    unfold idTexts SaveRequest.idCount
    rw [Ids.upcoming_add, Ids.upcoming_add, hcampaignIds, hasked, hjoined]
  case ids =>
    rw [has.ids, hids₁]
    change ((w.ids.skip (1 + r.schedules.length)).skip r.asked.length).skip _ = _
    rw [Ids.skip_skip, Ids.skip_skip, ← Nat.add_assoc]
    rfl

/-! ## Reading back -/

/-- What queries answer about a campaign that was just created: with every catalog held in memory the
campaign as it is refreshed, which is the campaign itself with the catalog that it was created with, its
questionnaire or none, and exactly its assignees. -/
structure ReadsBack (o : Occasion) (c : Campaign) (q : Option Questionnaire) (as : List Assignee)
    (w : World Memory) : Prop where
  stored : w.state.tables.campaign? c.id = some c
  campaign : ∀ items variants cap now,
    (((Shelf.stocked items variants).service cap now).ask (.campaign c.id) w).1 =
      .ok (.campaign ((Shelf.stocked items variants).current c))
  unchanged : ∀ items variants, o.catalog = .shelf (.stocked items variants) →
    (Shelf.stocked items variants).current c = c
  questionnaire : ∀ (s : Shelf) cap now, ((s.service cap now).ask (.questionnaire c.id) w).1 =
    match q with
    | some q => .ok (.questionnaire q)
    | none => .error (.notFound (.questionnaire c.id))
  assignees : ∀ (s : Shelf) cap now,
    ((s.service cap now).ask (.assignees c.id none) w).1 = .ok (.assignees as)

/-- What the catalog finds for a campaign is what it finds for what it found. -/
theorem Shelf.get_settled {s : Shelf} (hs : s.Filed) {key : ItemKey} {item : Item}
    {variant : Option Variant} (hfound : s.get key = .ok (item, variant)) :
    (s.items.get? item.id).getD item = item ∧
      variant.map (fun v => (s.variants.get? v.id).getD v) = variant := by
  unfold Shelf.get at hfound
  cases hitem : s.items.get? key.item with
  | none =>
    rw [hitem] at hfound
    cases hfound
  | some i =>
    rw [hitem] at hfound
    obtain ⟨rfl, rfl⟩ := Prod.mk.inj (Except.ok.inj hfound)
    refine ⟨?_, ?_⟩
    · rw [hs.items _ _ hitem, hitem]
      rfl
    · rw [Option.map_map]
      refine Option.map_congr fun id _ => ?_
      cases hvariant : s.variants.get? id with
      | none =>
        have hplace : (s.variants.get? (Variant.placeholder id).id) = none := hvariant
        simp only [Function.comp, hvariant, Option.getD_none, hplace]
      | some v =>
        simp only [Function.comp, hvariant, Option.getD_some, hs.variants _ _ hvariant]

namespace Created

variable {now : Instant} {r : SaveRequest} {item : Item} {variant : Option Variant}
  {w w' : World Tables} {c : Campaign} {q : Option Questionnaire} {as : List Assignee}

/-- The questionnaire that is stored for the new campaign is the new one. -/
theorem get?_questionnaire (h : Created now r item variant w c q as w') :
    w'.state.questionnaires.get? c.id = q := by
  rw [h.rows]
  cases q with
  | none => exact h.unasked
  | some q =>
    change (w.state.questionnaires.insert c.id q).get? c.id = some q
    rw [Keyed.get?_insert, if_pos rfl]

/-- Nobody took part in the campaign before it was created. -/
theorem assigneesOf_eq (h : Created now r item variant w c q as w') (howned : Owned w.state)
    (hnew : c.id ∉ w.state.campaigns.map Campaign.id) : w'.state.assigneesOf c.id none = as := by
  have hothers : ∀ a ∈ w.state.assignees, a.campaign ≠ c.id := fun a ha hid =>
    hnew (hid ▸ howned.participants a.participant (List.mem_map_of_mem ha))
  have hown : ∀ a ∈ as, a.campaign = c.id := by
    intro a ha
    obtain ⟨i, _, hrow⟩ := exists_left_of_forall₂ h.assignees ha
    rw [hrow]
    rfl
  unfold Tables.assigneesOf
  rw [h.rows, List.filter_append]
  rw [List.filter_eq_nil_iff.mpr fun a ha => by simp [hothers a ha],
    List.filter_eq_self.mpr fun a ha => by simp [hown a ha], List.nil_append]

/-- With the catalog that it was created with, the campaign is up to date. -/
theorem current_eq (h : Created now r item variant w c q as w') {s : Shelf} (hs : s.Filed)
    (hfound : s.get { item := r.item, variant := Id.given? r.variant } = .ok (item, variant)) :
    s.current c = c := by
  obtain ⟨hitem, hvariant⟩ := Shelf.get_settled hs hfound
  have hci : c.item = item := by rw [h.campaign]
  have hcv : c.variant = variant := by rw [h.campaign]
  have hcurrent : s.current c = { c with
      item := (s.items.get? c.item.id).getD c.item
      variant := c.variant.map fun v => (s.variants.get? v.id).getD v } := rfl
  rw [hcurrent, hci, hcv, hitem, hvariant, ← hci, ← hcv]

end Created

/-! ## The command -/

/-- A request without an identifier ends as the creation of its campaign does, with what the catalog
finds. -/
theorem save_creates {w : World Memory} (h : Sound w.unit) (o : Occasion) {r : SaveRequest}
    (hnew : r.id = none) :
    Ends (o.service.save r) w
      (fun id w' => ∃ item variant c q as, id = c.id ∧
        (o.catalog.get { item := r.item, variant := Id.given? r.variant } w.state).1 =
          .ok (item, variant) ∧
        Created o.now r item variant w.unit c q as w'.unit)
      fun _ => True := by
  refine .bind (Task.obey_ends (fun _ _ => ?_) fun _ _ => trivial)
  refine .bind (Task.ofState_ends (fun found hfound => ?_) fun _ _ => trivial)
  have hstate : (o.service.catalog.get { item := r.item, variant := Id.given? r.variant } w.state).2 =
      w.state := o.detached _ _
  rw [hstate]
  simp only [hnew]
  refine ((createCampaign_creates h o.now r found.1 found.2).transact).imp fun id w' hw' => ?_
  obtain ⟨c, q, as, hid, hcreated⟩ := hw'
  exact ⟨found.1, found.2, c, q, as, hid, hfound, hcreated⟩

/-- What was created can be read. -/
theorem Created.readsBack {o : Occasion} {r : SaveRequest} {item : Item} {variant : Option Variant}
    {w w' : World Memory} {c : Campaign} {q : Option Questionnaire} {as : List Assignee}
    (h : Created o.now r item variant w.unit c q as w'.unit) (hw : Stored w.unit)
    (hw' : Stored w'.unit) (hnew : c.id ∉ w.state.tables.campaigns.map Campaign.id)
    (hfound : (o.catalog.get { item := r.item, variant := Id.given? r.variant } w.state).1 =
      .ok (item, variant)) : ReadsBack o c q as w' := by
  have hmem : c ∈ w'.state.tables.campaigns := by
    change c ∈ w'.unit.state.campaigns
    rw [h.rows]
    exact List.mem_append_right _ (List.mem_singleton_self c)
  have hstored : w'.state.tables.campaign? c.id = some c := hw'.campaign? hmem
  constructor
  case stored => exact hstored
  case campaign =>
    intro items variants cap now
    simp only [Service.ask]
    rw [run_map, Shelf.readCampaign_stored (Shelf.filed_stocked items variants)
      (hw'.valid.campaigns c hmem).refers hstored]
    rfl
  case unchanged =>
    intro items variants hcatalog
    rw [hcatalog] at hfound
    exact h.current_eq (Shelf.filed_stocked items variants) hfound
  case questionnaire =>
    intro s cap now
    have hread : (s.service cap now).read (.findQuestionnaire c.id false) w' = (.ok q, w'.read) := by
      refine transact_of_idle (Call.idle ?_)
      rw [← h.get?_questionnaire]
      rfl
    simp only [Service.ask]
    rw [run_bind, hread]
    cases q with
    | none => rfl
    | some q => rfl
  case assignees =>
    intro s cap now
    have hread : (s.service cap now).read (.listAssignees c.id none false) w' = (.ok as, w'.read) := by
      refine transact_of_idle (Call.idle ?_)
      rw [← h.assigneesOf_eq hw.owned hnew]
      rfl
    simp only [Service.ask]
    rw [run_map, hread]
    rfl

/-- Texts that differ from each other and from those of all identifiers that were taken. -/
structure Ids.Fresh (ids : Ids) (texts : List String) : Prop where
  distinct : texts.Nodup
  new : ∀ x ∈ texts, ∀ n < ids.issued, x ≠ ids.name n

theorem Ids.fresh_upcoming {ids : Ids} (hinj : Function.Injective ids.name) (n : Nat) :
    ids.Fresh (ids.upcoming n) where
  distinct := nodup_upcoming hinj n
  new x hx m hm hxm := by
    have htaken : ids.Taken (ids.skip n) (⟨x⟩ : CampaignId) := taken_of_mem_upcoming hx
    exact htaken.not_issued hinj ⟨m, hm, hxm⟩

/-- Every request for a new campaign that succeeds stores exactly what it asks for: one campaign with
what the catalog finds, one schedule for each that it lists, a questionnaire with one question for each
if it has one, and one assignee for each that is not deleted, none of them under examination. The rows
that were there stay, the identifiers are new and taken in order, and queries answer with these rows. -/
theorem creation_stores_request (history : List Visit) (o : Occasion) {r : SaveRequest}
    (hnew : r.id = none) {outcome : Outcome} {w' : World Memory}
    (hrun : o.service.run (.save r) (World.start.after history) = (.ok outcome, w')) :
    ∃ item variant c q as, outcome = .saved c.id ∧
      (o.catalog.get { item := r.item, variant := Id.given? r.variant }
        (World.start.after history).state).1 = .ok (item, variant) ∧
      Created o.now r item variant (World.start.after history).unit c q as w'.unit ∧
      (World.start.after history).ids.Fresh (idTexts c q as) ∧
      w'.ids.issued = (World.start.after history).ids.issued +
        (1 + r.schedules.length + r.asked.length + r.entrants.length) ∧
      ReadsBack o c q as w' := by
  have hw := stored_after history
  have hafter : World.start.after (history ++ [{ o with command := .save r }]) = w' :=
    (World.after_concat _ _ _).trans (congrArg Prod.snd hrun)
  have hw' : Stored w'.unit := hafter ▸ stored_after (history ++ [{ o with command := .save r }])
  have hmap := (run_map Outcome.saved (o.service.save r) _).symm.trans hrun
  rcases hs : o.service.save r (World.start.after history) with ⟨result, w₁⟩
  rw [hs] at hmap
  cases result with
  | error f => cases hmap
  | ok id =>
    cases hmap
    obtain ⟨item, variant, c, q, as, rfl, hfound, hcreated⟩ :=
      (save_creates hw.sound o hnew).ok hs
    have hfresh : (World.start.after history).ids.Fresh (idTexts c q as) := by
      rw [hcreated.taken]
      exact Ids.fresh_upcoming hw.sound.injective _
    have hunused : c.id ∉ (World.start.after history).state.tables.campaigns.map Campaign.id := by
      intro hused
      obtain ⟨n, hn, htext⟩ := hw.sound.campaigns.issued _ hused
      exact hfresh.new c.id.text (by simp [idTexts]) n hn htext
    exact ⟨item, variant, c, q, as, rfl, hfound, hcreated, hfresh, congrArg Ids.issued hcreated.ids,
      hcreated.readsBack hw hw' hunused hfound⟩

/-- A campaign with two questions and three assignees, one of whom is deleted. -/
def surveyRequest : SaveRequest :=
  { reviewingRequest with
    questionnaire := some { description := "survey", questions :=
      [{ id := some ⟨"other"⟩, kind := .text, title := "why" },
        { id := none, kind := .radio, title := "which", options := ["this", "that"] }] }
    assignees := [{ blogger := ⟨"first"⟩, stage := .beforeInvitation, fee := 500 },
      { blogger := ⟨"second"⟩, stage := .examination, deleted := true },
      { blogger := ⟨"third"⟩, stage := .lottery }] }

/-- Two rows of assignees are made, and identifiers for a campaign, three schedules and two questions
besides. -/
theorem creation_stores_request_of_survey :
    ∃ (c : Campaign) (q : Questionnaire) (as : List Assignee) (w' : World Memory),
    anotherDay.service.run (.save surveyRequest)
      (World.start.after [visitAt 0 (.save reviewingRequest)]) = (.ok (.saved c.id), w') ∧
    w'.state.tables.campaign? c.id = some c ∧ c.schedules.length = 3 ∧
    q.questions.length = 2 ∧ as.length = 2 ∧
    w'.ids.issued = (World.start.after [visitAt 0 (.save reviewingRequest)]).ids.issued + 8 := by
  have hok : (anotherDay.service.run (.save surveyRequest)
      (World.start.after [visitAt 0 (.save reviewingRequest)])).1.isOk = true := by decide +kernel
  rcases hrun : anotherDay.service.run (.save surveyRequest)
    (World.start.after [visitAt 0 (.save reviewingRequest)]) with ⟨result, w'⟩
  rw [hrun] at hok
  obtain ⟨outcome, rfl⟩ := Except.ok_of_isOk hok
  obtain ⟨item, variant, c, q, as, rfl, _, hcreated, _, hissued, hback⟩ :=
    creation_stores_request [visitAt 0 (.save reviewingRequest)] anotherDay rfl hrun
  have hquestionnaire := hcreated.questionnaire
  cases q with
  | none => cases hquestionnaire
  | some q =>
    cases hquestionnaire with
    | some hposed =>
      exact ⟨c, q, as, w', rfl, hback.stored, hcreated.schedules.length_eq.symm,
        hposed.questions.length_eq.symm, hcreated.assignees.length_eq.symm, hissued⟩

end Sponsorship
