import Sponsorship.Proofs.Composed
import Sponsorship.Proofs.History
import Sponsorship.Proofs.Save

/-!
# Sponsorship.Proofs.Effect

What one command does to a store whose tables are sound.

* `Effect`: it fails and leaves the tables alone, or it creates or updates a campaign, or it takes
  one further on its way.
* `Visit.effect`, `Visit.steps`: every command does one of these, by changes of the tables.
* `sound_after`: the tables are sound after every history.
* `Kept.after`, `Lasting.after`: what every change keeps holds after every history; a property is one
  of the tables alone, or one of the tables with the identifiers that are left.
* `Lasting.onward`: what holds of sound tables holds after all commands that follow.
* `Lasting.since`: what some command of a history brings about holds after the history.
* `later_after`, `lasting_issued`: identifiers are taken in their order, and one that was taken stays
  so.
-/

namespace Sponsorship

open Time Relation

/-! ## Identifiers -/

/-- Work takes identifiers in their order, whether it succeeds or fails. -/
theorem Alike.later {σ υ σ' υ' α : Type} {s : Store σ υ} {s' : Store σ' υ'} {rewords : Bool}
    {t : Task υ α} {t' : Task υ' α} (h : Alike s s' rewords t t') (w : World υ) :
    w.ids.Later (t w).2.ids := by
  induction h generalizing w with
  | call c => exact .refl _
  | check r h => exact .refl _
  | mint m h => exact h.later w.ids
  | required id a i h =>
    unfold Store.checkSubmission
    cases Store.neededSubmission i.stage with
    | none => exact .refl _
    | some kind =>
      have hcall : ∀ c : Call, (s.call c w).2.ids = w.ids := fun _ => rfl
      simp only [run_tryCatch, run_bind]
      have hc := hcall (.latestExamination id a.id kind false)
      rcases hr : s.call (.latestExamination id a.id kind false) w with ⟨r, w₁⟩
      rw [hr] at hc
      rcases r with (_ | _ | _ | _) | _ <;> exact hc ▸ .refl _
  | @bind α β x x' f f' hx hf ihx ihf =>
    have hw := ihx w
    rw [run_bind]
    rcases hr : x w with ⟨r, w₁⟩
    rw [hr] at hw
    cases r with
    | ok a => exact hw.trans (ihf a w₁)
    | error f => exact hw

/-! ## Units of work in memory -/

section Units

variable {α β : Type} {w : World Memory}

/-- Work on the store that ends in `Q` if it succeeds, and leaves the tables as they were if it
fails; identifiers that it took are gone. -/
def Leaves (t : Task Memory α) (w : World Memory) (Q : α → World Memory → Prop) : Prop :=
  match t w with
  | (.ok a, w') => Q a w'
  | (.error _, w') => w'.state = w.state ∧ w.ids.Later w'.ids

theorem Leaves.mono {t : Task Memory α} {Q Q' : α → World Memory → Prop} (h : Leaves t w Q)
    (hq : ∀ a w', Q a w' → Q' a w') : Leaves t w Q' := by
  unfold Leaves at h ⊢
  rcases hr : t w with ⟨r, w'⟩
  rw [hr] at h
  cases r with
  | ok a => exact hq a w' h
  | error f => exact h

theorem Leaves.ok {t : Task Memory α} {Q : α → World Memory → Prop} {a : α} (h : Leaves t w Q)
    (ht : (t w).1 = .ok a) : Q a (t w).2 := by
  unfold Leaves at h
  rcases hr : t w with ⟨r, w'⟩
  rw [hr] at h ht
  cases ht
  exact h

theorem Leaves.error {t : Task Memory α} {Q : α → World Memory → Prop} {f : Fault}
    (h : Leaves t w Q) (ht : (t w).1 = .error f) :
    (t w).2.state = w.state ∧ w.ids.Later (t w).2.ids := by
  unfold Leaves at h
  rcases hr : t w with ⟨r, w'⟩
  rw [hr] at h ht
  cases ht
  exact h

theorem Leaves.state {t : Task Memory α} {P : Memory → Prop}
    (h : Leaves t w fun _ w' => P w'.state) (hp : P w.state) : P (t w).2.state := by
  cases hr : (t w).1 with
  | ok a => exact h.ok hr
  | error f => rw [(h.error hr).1]; exact hp

theorem Leaves.map {t : Task Memory α} {Q : β → World Memory → Prop} {g : α → β}
    (h : Leaves t w fun a w' => Q (g a) w') : Leaves (g <$> t : Task Memory β) w Q := by
  unfold Leaves at h ⊢
  rw [run_map]
  rcases hr : t w with ⟨r, w'⟩
  rw [hr] at h
  cases r <;> exact h

theorem leaves_obey {r : Except Violation α} {k : α → Task Memory β} {Q : β → World Memory → Prop}
    (h : ∀ a, r = .ok a → Leaves (k a) w Q) : Leaves (Task.obey r >>= k : Task Memory β) w Q := by
  unfold Leaves
  rw [run_bind]
  cases r with
  | ok a => exact h a rfl
  | error rule => exact ⟨rfl, .refl _⟩

/-- The catalog is asked before a unit is opened, and it leaves the store alone. -/
theorem leaves_lookup (o : Occasion) (key : ItemKey) {k : Item × Option Variant → Task Memory β}
    {Q : β → World Memory → Prop} (h : ∀ found, Leaves (k found) w Q) :
    Leaves (Task.ofState (o.catalog.get key) >>= k : Task Memory β) w Q := by
  have hstate := o.detached key w.state
  unfold Leaves
  rw [run_bind]
  unfold Task.ofState
  rcases hget : o.catalog.get key w.state with ⟨reply, state⟩
  rw [hget] at hstate
  obtain rfl : state = w.state := hstate
  cases reply with
  | ok found => exact h found
  | error f => exact ⟨rfl, .refl _⟩

theorem leaves_transact {rewords : Bool} {body : Task Tables α} {Q : α → World Tables → Prop}
    {E : Fault → Prop} (hc : Composed Store.memory rewords body) (h : Ends body w.unit Q E) :
    Leaves (Store.memory.transact body) w fun a w' => Q a w'.unit := by
  have hl := hc.later w.unit
  unfold Leaves
  rw [transact_memory]
  rcases hb : body w.unit with ⟨r, u⟩
  rw [hb] at hl
  cases r with
  | ok a => exact h.ok hb
  | error f => exact ⟨rfl, hl⟩

/-- A unit of work ends as its work does. -/
theorem Ends.transact {body : Task Tables α} {Q : α → World Tables → Prop} {E : Fault → Prop}
    (h : Ends body w.unit Q E) :
    Ends (Store.memory.transact body) w (fun a w' => Q a w'.unit) E := by
  have ht := transact_memory body w
  rcases hb : body w.unit with ⟨r, u⟩
  rw [hb] at ht
  cases r with
  | ok a => exact .of_ok ht (h.ok hb)
  | error f => exact .of_error ht (h.error hb)

end Units

/-! ## Commands -/

/-- The campaign that a command takes further on its way. -/
def Command.subject? : Command → Option CampaignId
  | .save _ => none
  | .delete id | .complete id | .invite id | .answerInvitation id _ _ _ | .decline id _ _
  | .applyLottery id _ | .finishShipment id | .completePayment id _ | .submit id _ _ _
  | .applyVerdicts id _ _ => some id

/-- What a command that succeeds does to a store. -/
inductive Done (v : Visit) (w : World Memory) : Outcome → World Memory → Prop
  | created {r : SaveRequest} {id : CampaignId} {w' : World Memory} (hv : v.command = .save r)
      (hr : r.id = none) (hid : id = w.ids.next.1) (steps : Saves v.now r id w.unit w'.unit)
      (there : (w'.unit.state.campaign? id).isSome) : Done v w (.saved id) w'
  | updated {r : SaveRequest} {id : CampaignId} {w' : World Memory} (hv : v.command = .save r)
      (hr : r.id = some id) (steps : Saves v.now r id w.unit w'.unit) : Done v w (.saved id) w'
  | advanced {id : CampaignId} {w' : World Memory} (outcome : Outcome)
      (hv : v.command.subject? = some id) (steps : Advances v.now id w.unit w'.unit) :
      Done v w outcome w'

variable {v : Visit} {w : World Memory}

theorem leaves_advanced {α : Type} {body : Task Tables α} {c : Command} {id : CampaignId}
    {E : Fault → Prop} (hv : v.command = c) (hid : c.subject? = some id) (g : α → Outcome)
    (hc : Composed Store.memory false body)
    (hb : Ends body w.unit (fun _ w' => Advances v.now id w.unit w') E) :
    Leaves (g <$> Store.memory.transact body : Task Memory Outcome) w (Done v w) :=
  .map ((leaves_transact hc hb).mono fun a _ hs => .advanced (g a) (hv ▸ hid) hs)

/-- A request with an identifier does to the store what its update does, whatever the catalog finds. -/
theorem leaves_update {r : SaveRequest} {id : CampaignId} (hr : r.id = some id)
    {Q : World Tables → Prop}
    (hb : r.check v.assigneeCap = .ok () → ∀ item variant,
      Ends (Store.memory.updateCampaign v.now id r item variant) w.unit (fun _ w' => Q w')
        fun _ => True) :
    Leaves (v.service.save r) w fun a w' => a = id ∧ Q w'.unit := by
  refine leaves_obey fun _ hcheck => leaves_lookup v.toOccasion _ fun found => ?_
  simp only [hr]
  have hbody : Ends (do
      Store.memory.updateCampaign v.now id r found.1 found.2
      return id) w.unit (fun a w' => a = id ∧ Q w') fun _ => True :=
    .bind ((hb hcheck found.1 found.2).imp fun _ _ hq => .pure ⟨rfl, hq⟩)
  exact leaves_transact ((Alike.updateCampaign _ id r _ _).bind fun _ => .pure id) hbody

/-- A request without one does what the creation of its campaign does. -/
theorem leaves_creation {r : SaveRequest} (hr : r.id = none) {Q : CampaignId → World Tables → Prop}
    (hb : r.check v.assigneeCap = .ok () → ∀ item variant,
      Ends (Store.memory.createCampaign v.now r item variant) w.unit Q fun _ => True) :
    Leaves (v.service.save r) w fun id w' => Q id w'.unit := by
  refine leaves_obey fun _ hcheck => leaves_lookup v.toOccasion _ fun found => ?_
  simp only [hr]
  have hc : Composed Store.memory false
      (Store.memory.createCampaign v.now r found.1 found.2) := .createCampaign _ r _ _
  exact leaves_transact hc (hb hcheck found.1 found.2)

theorem leaves_save (h : Sound w.unit) {r : SaveRequest} (hv : v.command = .save r) :
    Leaves (.saved <$> v.service.save r : Task Memory Outcome) w (Done v w) := by
  have hgood : ∀ {cap : Nat}, r.check cap = .ok () →
      (r.assignees.map AssigneeInput.blogger).Nodup ∧ r.drafted.check = .ok () := by
    intro cap hcheck
    obtain ⟨_, _, ⟨_, hdistinct⟩, hdrafted⟩ := SaveRequest.check_ok.mp hcheck
    exact ⟨hdistinct, hdrafted⟩
  refine .map ?_
  cases hr : r.id with
  | none =>
    refine (leaves_creation (v := v) hr fun hcheck item variant =>
      createCampaign_saves h (hgood hcheck).2 item variant).mono fun id w' hs => ?_
    exact .created hv hr hs.1 hs.2.1 hs.2.2
  | some id =>
    refine (leaves_update (v := v) hr fun hcheck item variant =>
      updateCampaign_saves h (hgood hcheck).2 (hgood hcheck).1 item variant).mono fun a w' hs => ?_
    obtain ⟨rfl, hs⟩ := hs
    exact .updated hv hr hs

theorem Visit.leaves (h : Sound w.unit) :
    Leaves (v.service.run v.command) w (Done v w) := by
  cases hv : v.command with
  | save r => exact leaves_save h hv
  | delete id =>
    exact leaves_advanced hv rfl (fun _ => .deleted) (.call _)
      (Call.deleteCampaign_ends (E := fun _ => True) (.single .deletes))
  | complete id =>
    exact leaves_advanced hv rfl _ (.complete id)
      ((complete_ends h).imp fun _ _ h => h.2)
  | invite id =>
    exact leaves_advanced hv rfl _ (.invite id) ((invite_ends h).imp fun _ _ h => h.2)
  | answerInvitation id b accepted answers =>
    exact leaves_advanced hv rfl _ (.answerInvitation id b accepted answers)
      (answerInvitation_ends h b accepted answers)
  | decline id b reason =>
    exact leaves_advanced hv rfl _ (.decline id b reason) (decline_ends h b reason)
  | applyLottery id results =>
    exact leaves_advanced hv rfl _ (.applyLottery id results)
      ((applyLottery_ends h results).imp fun _ _ h => h.2)
  | finishShipment id =>
    exact leaves_advanced hv rfl _ (.finishShipment id)
      ((finishShipment_ends h).imp fun _ _ h => h.2)
  | completePayment id bs =>
    simp only [Service.run]
    split
    · exact ⟨rfl, .refl _⟩
    · exact leaves_advanced hv rfl _ (.completePayment id bs)
        ((completePayment_ends h bs).imp fun _ _ h => h.2)
  | submit id b kind entry =>
    exact leaves_advanced hv rfl _ (.submit _ id b kind entry) (submit_ends h b kind entry)
  | applyVerdicts id kind verdicts =>
    exact leaves_advanced hv rfl _ (.applyVerdicts id kind verdicts)
      ((applyVerdicts_ends h kind verdicts).imp fun _ _ h => h.1)

theorem Visit.done (h : Sound w.unit) {outcome : Outcome}
    (hr : (v.service.run v.command w).1 = .ok outcome) : Done v w outcome (v.apply w) :=
  (v.leaves h).ok hr

theorem Visit.undone (h : Sound w.unit) {f : Fault}
    (hr : (v.service.run v.command w).1 = .error f) :
    (v.apply w).state = w.state ∧ w.ids.Later (v.apply w).ids :=
  (v.leaves h).error hr

/-- A command leaves the tables as they were, or it is done. -/
theorem Visit.effect (h : Sound w.unit) :
    ((v.apply w).state = w.state ∧ w.ids.Later (v.apply w).ids) ∨
      ∃ outcome, Done v w outcome (v.apply w) := by
  cases hr : (v.service.run v.command w).1 with
  | ok outcome => exact .inr ⟨outcome, v.done h hr⟩
  | error f => exact .inl (v.undone h hr)

/-- The changes that a command makes: none, those of a request for a campaign that is there or is
new, or those on the way of a campaign. -/
theorem Visit.steps (h : Sound w.unit) :
    ((v.apply w).state = w.state ∧ w.ids.Later (v.apply w).ids) ∨
      (∃ r id, v.command = .save r ∧ (r.id = some id ∨ ¬ w.ids.Issued id) ∧
        Saves v.now r id w.unit (v.apply w).unit) ∨
      ∃ id, Advances v.now id w.unit (v.apply w).unit := by
  rcases v.effect h with hundone | ⟨outcome, hdone⟩
  · exact .inl hundone
  · cases hdone with
    | @created r id _ hv hr hid steps there =>
      have hnew : ¬ w.ids.Issued id := by
        rw [hid]
        exact fun hissued => Ids.next_ne_of_issued h.injective hissued rfl
      exact .inr (.inl ⟨r, id, hv, .inr hnew, steps⟩)
    | @updated r id _ hv hr steps => exact .inr (.inl ⟨r, id, hv, .inl hr, steps⟩)
    | @advanced id _ outcome hv steps => exact .inr (.inr ⟨id, steps⟩)

/-- A request without an identifier is done when its campaign is there under the next one. -/
theorem Done.creation {r : SaveRequest} {id : CampaignId} {w' : World Memory}
    (h : Done v w (.saved id) w') (hsave : v.command = .save r) (hnew : r.id = none) :
    id = w.ids.next.1 ∧ Saves v.now r id w.unit w'.unit ∧ (w'.unit.state.campaign? id).isSome := by
  cases h with
  | created hv hr hid steps there =>
    rw [hsave] at hv; cases hv
    exact ⟨hid, steps, there⟩
  | updated hv hr steps =>
    rw [hsave] at hv; cases hv
    rw [hnew] at hr; cases hr
  | advanced outcome hv steps => rw [hsave] at hv; cases hv

/-! ## Histories -/

theorem sound_start : Sound World.start.unit where
  injective := Ids.numbered_injective
  campaigns := .nil _
  assignees := .nil _
  examinations := .nil _
  questionnaires _ _ h := by cases h
  owners _ h := by cases h
  submitted _ h := by cases h

theorem Sound.apply (h : Sound w.unit) (v : Visit) : Sound (v.apply w).unit := by
  rcases v.steps h with ⟨hstate, hids⟩ | ⟨r, id, _, _, steps⟩ | ⟨id, steps⟩
  · have := h.later hids
    unfold World.unit
    rw [hstate]
    exact this
  · exact h.saves steps
  · exact h.advances steps

/-- The tables are sound after every history. -/
theorem sound_after (history : List Visit) : Sound (World.start.after history).unit :=
  World.after_induction (P := fun w => Sound w.unit) (fun _ v h => h.apply v) sound_start history

/-- A property of tables that every change of sound tables keeps. -/
structure Kept (P : Tables → Prop) : Prop where
  advancing : ∀ {now id w w'}, Sound w → P w.state → Advancing now id w w' → P w'.state
  saving : ∀ {now r id w w'}, Sound w → P w.state → Saving now r id w w' → P w'.state

namespace Kept

variable {P : Tables → Prop} {now : Instant} {r : SaveRequest} {id : CampaignId}
  {u u' : World Tables}

theorem advances (hk : Kept P) (h : Sound u) (hp : P u.state) (hs : Advances now id u u') :
    P u'.state :=
  Advances.keeps (P := fun w => P w.state) hk.advancing h hp hs

theorem saves (hk : Kept P) (h : Sound u) (hp : P u.state) (hs : Saves now r id u u') :
    P u'.state :=
  Saves.keeps (P := fun w => P w.state) hk.saving h hp hs

theorem apply (hk : Kept P) (h : Sound w.unit) (hp : P w.state.tables) (v : Visit) :
    P (v.apply w).state.tables := by
  rcases v.steps h with ⟨hstate, _⟩ | ⟨r, id, _, _, steps⟩ | ⟨id, steps⟩
  · rw [hstate]; exact hp
  · exact hk.saves h hp steps
  · exact hk.advances h hp steps

/-- What holds of empty tables and is kept by every change holds after every history. -/
theorem after (hk : Kept P) (hp : P {}) (history : List Visit) :
    P (World.start.after history).state.tables :=
  (World.after_induction (P := fun w => Sound w.unit ∧ P w.state.tables)
    (fun _ v h => ⟨h.1.apply v, hk.apply h.1 h.2 v⟩) ⟨sound_start, hp⟩ history).2

end Kept

/-- A property of tables and the identifiers that are left, which every change of sound tables keeps. -/
structure Lasting (P : World Tables → Prop) : Prop where
  later : ∀ {w : World Tables} {ids : Ids}, P w → w.ids.Later ids → P { w with ids }
  advancing : ∀ {now id w w'}, Sound w → P w → Advancing now id w w' → P w'
  saving : ∀ {now r id w w'}, Sound w → P w → Saving now r id w w' → P w'

namespace Lasting

variable {P : World Tables → Prop}

theorem apply (hl : Lasting P) (h : Sound w.unit) (hp : P w.unit) (v : Visit) :
    P (v.apply w).unit := by
  rcases v.steps h with ⟨hstate, hids⟩ | ⟨r, id, _, _, steps⟩ | ⟨id, steps⟩
  · have hp := hl.later hp hids
    unfold World.unit
    rw [hstate]
    exact hp
  · exact steps.keeps hl.saving h hp
  · exact steps.keeps hl.advancing h hp

/-- What lasts holds from any world on in which the tables are sound. -/
theorem onward (hl : Lasting P) (h : Sound w.unit) (hp : P w.unit) (future : List Visit) :
    P (w.after future).unit :=
  (World.after_induction (P := fun w => Sound w.unit ∧ P w.unit)
    (fun _ v h => ⟨h.1.apply v, hl.apply h.1 h.2 v⟩) ⟨h, hp⟩ future).2

theorem after (hl : Lasting P) (hp : P World.start.unit) (history : List Visit) :
    P (World.start.after history).unit :=
  hl.onward sound_start hp history

/-- What commands with `Q` bring about holds ever after. -/
theorem since (hl : Lasting P) {Q : World Memory → Visit → Prop} {history : List Visit}
    (hq : ∀ past v, Q (World.start.after past) v → P (v.apply (World.start.after past)).unit)
    (h : Sometime Q history) : P (World.start.after history).unit := by
  obtain ⟨past, v, future, rfl, hv⟩ := h
  rw [World.after_append]
  exact hl.onward ((sound_after past).apply v) (hq past v hv) future

end Lasting

/-! ## Identifiers that are taken -/

theorem Advancing.later {now : Instant} {id : CampaignId} {u u' : World Tables}
    (hs : Advancing now id u u') : u.ids.Later u'.ids := by
  cases hs with
  | submits hc ha hid hs he => exact Ids.later_next .examination u.ids
  | _ => exact .refl _

theorem Saving.later {now : Instant} {r : SaveRequest} {id : CampaignId} {u u' : World Tables}
    (hs : Saving now r id u u') : u.ids.Later u'.ids := by
  cases hs with
  | @opens item variant c ids hr hopen hid =>
    have hl := (r.orderly_opening now item variant).later u.ids
    rwa [hopen] at hl
  | @poses c q made ids hq hc hmade =>
    have hl := (q.orderly_renewal id (u.state.questionnaires.get? id)).later u.ids
    rwa [hmade] at hl
  | enrols hi hkept hc hfree henrol =>
    obtain ⟨_, _, rfl⟩ := AssigneeInput.enrolment_ok henrol
    exact Ids.later_next .assignee u.ids
  | _ => exact .refl _

/-- What is left of a supply. -/
theorem lasting_later (ids : Ids) : Lasting fun u => ids.Later u.ids :=
  ⟨fun h hl => h.trans hl, fun _ h hs => h.trans hs.later, fun _ h hs => h.trans hs.later⟩

theorem later_after (history : List Visit) :
    World.start.ids.Later (World.start.after history).ids :=
  (lasting_later _).after (.refl _) history

/-- An identifier stays taken. -/
theorem lasting_issued {kind : Named} (x : Id kind) : Lasting fun u => u.ids.Issued x :=
  ⟨fun hx hl => hx.later hl, fun _ hx hs => hx.later hs.later, fun _ hx hs => hx.later hs.later⟩

end Sponsorship
