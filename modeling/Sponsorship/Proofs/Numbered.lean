import Mathlib.Data.List.Flatten
import Sponsorship.Proofs.Effect

/-!
# Sponsorship.Proofs.Numbered

The identifiers of the parts of rows: the schedules of campaigns and the questions of questionnaires.

* `Tables.scheduleIds`, `Tables.questionIds`: those of all rows together.
* `Minting.mapM_takes`: a list of parts that take one identifier each takes the next ones in order.
* `Minting.mapM_drawn`, `SaveRequest.revision_drawn`, `Reconciles.drawn`: parts that are made take
  identifiers of their own, parts that are kept keep theirs, each once.
* `Numbered w`: no two schedules and no two questions have one identifier, whatever rows they belong
  to, and all were taken from the supply.
* `numbered_after`: that is so after every history.
-/

namespace Sponsorship

open Time

namespace Campaign

def scheduleIds (c : Campaign) : List ScheduleId := c.schedules.map Schedule.id

end Campaign

namespace Questionnaire

def questionIds (q : Questionnaire) : List QuestionId := q.questions.map Question.id

end Questionnaire

namespace Tables

/-- The identifiers of the schedules of all campaigns. -/
def scheduleIds (t : Tables) : List ScheduleId := t.campaigns.flatMap Campaign.scheduleIds

/-- The identifiers of the questions of all questionnaires. -/
def questionIds (t : Tables) : List QuestionId :=
  t.questionnaires.entries.flatMap fun e => e.2.questionIds

/-- The identifiers of the questions that a campaign asks, if it asks any. -/
def asked (t : Tables) (id : CampaignId) : List QuestionId :=
  ((t.questionnaires.get? id).map Questionnaire.questionIds).getD []

end Tables

/-! ## Parts that are made -/

/-- A list of parts that take one identifier each takes the next ones in order. -/
theorem Minting.mapM_takes {α β : Type} {kind : Named} {f : α → Minting β} {R : α → β → Prop}
    (key : β → Id kind)
    (hf : ∀ a ids b ids', f a ids = (.ok b, ids') →
      R a b ∧ key b = (ids.next : Id kind × Ids).1 ∧ ids' = (ids.next : Id kind × Ids).2)
    {as : List α} {bs : List β} {ids ids' : Ids}
    (h : (as.mapM f : Minting (List β)) ids = (.ok bs, ids')) :
    List.Forall₂ R as bs ∧ bs.map (fun b => (key b).text) = ids.upcoming as.length ∧
      ids' = ids.skip as.length := by
  induction as generalizing ids bs ids' with
  | nil =>
    rw [List.mapM_nil, pure_ok] at h
    obtain ⟨rfl, rfl⟩ := h
    exact ⟨.nil, rfl, rfl⟩
  | cons a rest ih =>
    rw [List.mapM_cons] at h
    obtain ⟨b, ids₁, hb, h⟩ := bind_ok.mp h
    obtain ⟨others, ids₂, hothers, h⟩ := bind_ok.mp h
    obtain ⟨rfl, rfl⟩ := pure_ok.mp h
    obtain ⟨hr, hkey, rfl⟩ := hf _ _ _ _ hb
    obtain ⟨hrest, htexts, rfl⟩ := ih hothers
    refine ⟨.cons hr hrest, ?_, ?_⟩
    · rw [List.map_cons, hkey, htexts, List.length_cons, Nat.add_comm, Ids.upcoming_add,
        Ids.upcoming_one kind]
      rfl
    · change (ids.skip 1).skip rest.length = _
      rw [Ids.skip_skip, List.length_cons, Nat.add_comm]

theorem Minting.mapM_drawn {α β : Type} {kind : Named} {f : α → Minting β} {key : β → Id kind}
    (hf : ∀ a ids b ids', f a ids = (.ok b, ids') →
      key b = (ids.next : Id kind × Ids).1 ∧ ids' = (ids.next : Id kind × Ids).2)
    {as : List α} {bs : List β} {ids ids' : Ids} (hinj : Function.Injective ids.name)
    (h : (as.mapM f : Minting (List β)) ids = (.ok bs, ids')) :
    Ids.Drawn [] ids ids' (bs.map key) := by
  obtain ⟨_, htexts, rfl⟩ := mapM_takes (R := fun _ _ => True) key
    (fun a ids b ids' h => ⟨trivial, hf a ids b ids' h⟩) h
  refine Ids.drawn_upcoming hinj ?_
  rw [List.map_map]
  exact htexts

theorem ScheduleInput.schedule_next {i : ScheduleInput} {ids ids' : Ids} {s : Schedule}
    (h : i.schedule ids = (.ok s, ids')) :
    s.id = (ids.next : ScheduleId × Ids).1 ∧ ids' = (ids.next : ScheduleId × Ids).2 := by
  obtain ⟨_, _, hid, hmade⟩ := Minting.bind_ok.mp h
  cases hid
  obtain ⟨hcreate, rfl⟩ := Minting.obey_ok.mp hmade
  obtain ⟨_, rfl⟩ := Schedule.create_ok.mp hcreate
  exact ⟨rfl, rfl⟩

theorem QuestionInput.pose_next {i : QuestionInput} {ids ids' : Ids} {q : Question}
    (h : i.pose ids = (.ok q, ids')) :
    q.id = (ids.next : QuestionId × Ids).1 ∧ ids' = (ids.next : QuestionId × Ids).2 := by
  obtain ⟨hcreate, rfl⟩ := pose_ok h
  obtain ⟨_, _, rfl⟩ := Question.create_ok.mp hcreate
  exact ⟨rfl, rfl⟩

theorem SaveRequest.opening_drawn {r : SaveRequest} {now : Instant} {item : Item}
    {variant : Option Variant} {ids ids' : Ids} {c : Campaign} (hinj : Function.Injective ids.name)
    (h : r.opening now item variant ids = (.ok c, ids')) :
    Ids.Drawn [] (ids.next : CampaignId × Ids).2 ids' c.scheduleIds := by
  obtain ⟨schedules, hschedules, hcreate⟩ := opening_ok h
  obtain ⟨_, _, _, _, _, _, rfl⟩ := Campaign.create_ok.mp hcreate
  have hinj' : Function.Injective (ids.next : CampaignId × Ids).2.name := hinj
  exact Minting.mapM_drawn (fun _ _ _ _ => ScheduleInput.schedule_next) hinj' hschedules

/-! ## Parts that are kept -/

/-- A request names every schedule at most once: named twice, its kind would be there twice. -/
theorem SaveRequest.revision_drawn {r : SaveRequest} {item : Item} {variant : Option Variant}
    {c c' : Campaign} (h : r.revision item variant c = .ok c') (ids : Ids) :
    Ids.Drawn c.scheduleIds ids ids c'.scheduleIds := by
  obtain ⟨schedules, hredate, hcreate⟩ := revision_ok h
  obtain ⟨_, _, _, _, _, hset, rfl⟩ := Campaign.create_ok.mp hcreate
  have hfound : ∀ s ∈ schedules, ∃ o, c.schedules.find? (fun x => x.id = s.id) = some o ∧
      s.id = o.id ∧ s.kind = o.kind := by
    intro s hs
    obtain ⟨i, _, hi⟩ := Except.mapM_ok hredate s hs
    exact redate_ok hi
  refine ⟨.refl _, ?_, fun k hk => .inl ?_⟩
  · -- the kind of a schedule can be read off its identifier, and the kinds differ
    let kindOf : ScheduleId → Option ScheduleKind := fun id =>
      (c.schedules.find? fun x => x.id = id).map Schedule.kind
    have hkinds : (schedules.map Schedule.id).map kindOf =
        (schedules.map Schedule.kind).map some := by
      rw [List.map_map, List.map_map]
      refine List.map_congr_left fun s hs => ?_
      obtain ⟨o, ho, _, hkind⟩ := hfound s hs
      simp only [Function.comp, kindOf, ho, Option.map_some, hkind]
    have hnodup : ((schedules.map Schedule.kind).map some).Nodup :=
      (Schedule.checkSet_ok hset).1.map fun _ _ h => Option.some.inj h
    rw [← hkinds] at hnodup
    exact hnodup.of_map kindOf
  · obtain ⟨s, hs, rfl⟩ := List.mem_map.mp hk
    obtain ⟨o, ho, hid, _⟩ := hfound s hs
    exact List.mem_map.mpr ⟨o, List.mem_of_find?_eq_some ho, hid.symm⟩

/-- Questions that an input keeps are among the old ones and were not claimed before; the others are
new. -/
theorem Reconciles.drawn {old : Keyed QuestionId Question} {claimed : List QuestionId}
    {inputs : List QuestionInput} {ids ids' : Ids} {qs : List Question} {olds : List QuestionId}
    (h : Reconciles old claimed inputs ids qs ids') (hinj : Function.Injective ids.name)
    (hold : ∀ id o, old.get? id = some o → o.id = id ∧ id ∈ olds)
    (holds : ∀ id ∈ olds, ids.Issued id) :
    Ids.Drawn olds ids ids' (qs.map Question.id) ∧
      ∀ k ∈ qs.map Question.id, k ∈ olds → k ∉ claimed := by
  induction h with
  | nil => exact ⟨.nil _ _, fun _ hk => by cases hk⟩
  | @posed claimed i rest ids ids₁ ids' q qs hi hq hqs ih =>
    obtain ⟨hid, rfl⟩ := QuestionInput.pose_next hq
    have hl := Ids.later_next .question ids
    have hinj' : Function.Injective (ids.next : QuestionId × Ids).2.name := hinj
    obtain ⟨hdrawn, hclaimed⟩ := ih hinj' fun id hmem => (holds id hmem).later hl
    rw [List.map_cons, hid]
    refine ⟨hdrawn.next hinj holds, fun k hk hold' => ?_⟩
    rcases List.mem_cons.mp hk with rfl | hk
    · exact absurd rfl (Ids.next_ne_of_issued hinj (holds _ hold'))
    · exact hclaimed k hk hold'
  | @kept claimed i rest ids ids' id o q qs hi hnew ho hq hqs ih =>
    obtain ⟨hdrawn, hclaimed⟩ := ih hinj holds
    obtain ⟨hoid, hmem⟩ := hold id o ho
    have hqid : q.id = id := by
      obtain ⟨_, _, rfl⟩ := Question.revise_ok.mp hq
      exact hoid
    rw [List.map_cons, hqid]
    constructor
    · refine ⟨hdrawn.later, List.nodup_cons.mpr ⟨fun hk => ?_, hdrawn.nodup⟩, fun k hk => ?_⟩
      · exact hclaimed id hk hmem List.mem_cons_self
      · rcases List.mem_cons.mp hk with rfl | hk
        · exact .inl hmem
        · exact hdrawn.origin k hk
    · intro k hk hold'
      rcases List.mem_cons.mp hk with rfl | hk
      · exact hnew
      · exact fun hc => hclaimed k hk hold' (List.mem_cons_of_mem id hc)

/-- What a questionnaire has under an identifier is its question of that identifier. -/
theorem Questionnaire.byId_ok {q : Questionnaire} {id : QuestionId} {o : Question}
    (h : (Keyed.ofList (q.questions.map fun x => (x.id, x))).get? id = some o) :
    o.id = id ∧ id ∈ q.questionIds := by
  obtain ⟨x, hx, heq⟩ := List.mem_map.mp (Keyed.mem_of_get?_ofList h)
  cases heq
  exact ⟨rfl, List.mem_map_of_mem hx⟩

theorem QuestionnaireInput.renewal_drawn {q : QuestionnaireInput} {id : CampaignId}
    {old : Option Questionnaire} {ids ids' : Ids} {made : Questionnaire}
    (hinj : Function.Injective ids.name)
    (holds : ∀ k ∈ (old.map Questionnaire.questionIds).getD [], ids.Issued k)
    (h : q.renewal id old ids = (.ok made, ids')) :
    Ids.Drawn ((old.map Questionnaire.questionIds).getD []) ids ids' made.questionIds := by
  cases old with
  | none =>
    obtain ⟨questions, _, hq, hmade⟩ := Minting.bind_ok.mp h
    obtain ⟨hcreate, rfl⟩ := Minting.obey_ok.mp hmade
    obtain ⟨_, _, rfl⟩ := Questionnaire.create_ok.mp hcreate
    exact Minting.mapM_drawn (fun _ _ _ _ => QuestionInput.pose_next) hinj hq
  | some o =>
    obtain ⟨questions, _, hq, hmade⟩ := Minting.bind_ok.mp h
    obtain ⟨hcreate, rfl⟩ := Minting.obey_ok.mp hmade
    obtain ⟨_, _, rfl⟩ := Questionnaire.create_ok.mp hcreate
    exact ((Questionnaire.reconciled_ok hq).drawn hinj (fun _ _ ho => Questionnaire.byId_ok ho)
      holds).1

/-- A questionnaire that is renewed is kept under its campaign. -/
theorem Sound.renewal_campaign {w : World Tables} (h : Sound w) {q : QuestionnaireInput}
    {id : CampaignId} {made : Questionnaire} {ids ids' : Ids}
    (hmade : q.renewal id (w.state.questionnaires.get? id) ids = (.ok made, ids')) :
    made.campaign = id := by
  obtain ⟨_, hcreate, _⟩ := QuestionnaireInput.renewal_ok
    (fun o ho => (h.questionnaires id o ho).1) hmade
  obtain ⟨_, _, rfl⟩ := Questionnaire.create_ok.mp hcreate
  rfl

/-! ## All parts -/

/-- No two schedules and no two questions have one identifier, and all were taken from the supply. -/
structure Numbered (w : World Tables) : Prop where
  schedules : w.ids.Keys w.state.scheduleIds
  questions : w.ids.Keys w.state.questionIds

namespace Numbered

variable {w w' : World Tables} {ids : Ids} {now : Instant} {r : SaveRequest} {id : CampaignId}

theorem later (h : Numbered w) (hl : w.ids.Later ids) : Numbered { w with ids } :=
  ⟨h.schedules.later hl, h.questions.later hl⟩

theorem addCampaign (h : Numbered w) (hw : Sound w) {c : Campaign}
    (hd : Ids.Drawn [] (w.ids.next : CampaignId × Ids).2 ids c.scheduleIds) :
    Numbered { ids, state := w.state.addCampaign c } := by
  have hl := Ids.later_next .campaign w.ids
  have hschedules := h.schedules.later hl
  rw [← List.append_nil w.state.scheduleIds] at hschedules
  refine ⟨?_, (h.questions.later hl).later hd.later⟩
  change ids.Keys ((w.state.campaigns ++ [c]).flatMap Campaign.scheduleIds)
  rw [List.flatMap_append, List.flatMap_singleton]
  exact hschedules.redrawn hw.injective hd

theorem putCampaign (h : Numbered w) (hw : Sound w) {c c' : Campaign}
    (hc : c ∈ w.state.campaigns) (hid : c'.id = c.id)
    (hd : Ids.Drawn c.scheduleIds w.ids w.ids c'.scheduleIds) :
    Numbered { w with state := w.state.putCampaign c' } := by
  obtain ⟨others, hbefore, hafter⟩ := flatMap_amend_perm (b := c') Campaign.scheduleIds
    hw.campaigns.nodup hc hid.symm
  refine ⟨?_, h.questions⟩
  exact (((h.schedules.perm hbefore).redrawn hw.injective hd)).perm hafter.symm

theorem putQuestionnaire (h : Numbered w) (hw : Sound w) {q : Questionnaire}
    (hd : Ids.Drawn (w.state.asked q.campaign) w.ids ids q.questionIds) :
    Numbered { ids, state := w.state.putQuestionnaire q } := by
  obtain ⟨others, hbefore, hafter⟩ := w.state.questionnaires.flatMap_insert_perm q.campaign q
    fun e => e.2.questionIds
  refine ⟨h.schedules.later hd.later, ?_⟩
  exact ((h.questions.perm hbefore).redrawn hw.injective hd).perm hafter.symm

theorem asked_issued (h : Numbered w) (id : CampaignId) :
    ∀ k ∈ w.state.asked id, w.ids.Issued k := by
  intro k hk
  unfold Tables.asked at hk
  cases hget : w.state.questionnaires.get? id with
  | none => rw [hget] at hk; cases hk
  | some q =>
    rw [hget] at hk
    exact h.questions.issued k
      (List.mem_flatMap.mpr ⟨_, Keyed.get?_eq_some_iff.mp hget, hk⟩)

theorem advancing (h : Numbered w) (hw : Sound w) (hs : Advancing now id w w') : Numbered w' := by
  cases hs with
  | moves hc ha hid hm hs => exact ⟨h.schedules, h.questions⟩
  | answers hq ha hid hs hsheet =>
    rw [Tables.saveAnswers_eq]
    exact ⟨h.schedules, h.questions⟩
  | declines ha hid hd => exact ⟨h.schedules, h.questions⟩
  | finishes hc ha hid => exact ⟨h.schedules, h.questions⟩
  | @closes c hc =>
    have hmem := (Tables.campaign?_mem hc).1
    have hnodup := (List.nodup_flatMap.mp h.schedules.nodup).1 c hmem
    exact h.putCampaign hw hmem rfl ⟨.refl _, hnodup, fun _ hk => .inl hk⟩
  | submits hc ha hid hs he =>
    have hl := Ids.later_next .examination w.ids
    exact ⟨h.schedules.later hl, h.questions.later hl⟩
  | judges ha hid hs he hj => exact ⟨h.schedules, h.questions⟩
  | deletes =>
    exact ⟨h.schedules.sublist (List.filter_sublist.flatMap _),
      h.questions.sublist (List.filter_sublist.flatMap _)⟩

theorem saving (h : Numbered w) (hw : Sound w) (hs : Saving now r id w w') : Numbered w' := by
  cases hs with
  | opens hr hopen hid => exact h.addCampaign hw (SaveRequest.opening_drawn hw.injective hopen)
  | @revises item variant c c' hr hc hrev =>
    exact h.putCampaign hw (Tables.campaign?_mem hc).1 (SaveRequest.revision_id hrev)
      (SaveRequest.revision_drawn hrev _)
  | @poses c q made ids hq hc hmade =>
    refine h.putQuestionnaire hw ?_
    rw [hw.renewal_campaign hmade]
    exact QuestionnaireInput.renewal_drawn hw.injective (h.asked_issued id) hmade
  | withdraws hq hc => exact ⟨h.schedules, h.questions.sublist (List.filter_sublist.flatMap _)⟩
  | enrols hi hkept hc hfree henrol =>
    obtain ⟨_, _, rfl⟩ := AssigneeInput.enrolment_ok henrol
    have hl := Ids.later_next .assignee w.ids
    exact ⟨h.schedules.later hl, h.questions.later hl⟩
  | expels hi hgone hb ha hid hs => exact ⟨h.schedules, h.questions⟩
  | places hi hkept hb ha hid hneed hfee => exact ⟨h.schedules, h.questions⟩

end Numbered

theorem lasting_numbered : Lasting Numbered :=
  ⟨fun h hl => h.later hl, fun hw h hs => h.advancing hw hs, fun hw h hs => h.saving hw hs⟩

/-- After every history no two schedules and no two questions have one identifier. -/
theorem numbered_after (history : List Visit) : Numbered (World.start.after history).unit :=
  lasting_numbered.after ⟨.nil _, .nil _⟩ history

end Sponsorship
