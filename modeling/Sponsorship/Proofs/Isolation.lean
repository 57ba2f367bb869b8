import Sponsorship.Proofs.Confined

/-!
# Sponsorship.Proofs.Isolation

Two states that agree on a campaign, and a command for it.

* `Tables.apart`: whatever the history, a campaign is apart from all others.
* `Isolated id t w₁ w₂`: from worlds `w₁` and `w₂` the work `t` has one result and leaves the same
  rows of campaign `id`, and in both it leaves the rows of all others as they were.
* `Visit.isolated`: every command for a campaign that is apart from the others in both worlds.
* `campaign_isolation`: after any two histories.
-/

namespace Sponsorship

open Time

/-- The campaign that a command is for, unless it is one that the command creates. -/
def Command.target? : Command → Option CampaignId
  | .save r => r.id
  | c => c.subject?

variable {id : CampaignId}

/-! ## Campaigns are apart -/

/-- Identifiers that are left are fresh. -/
theorem Sound.fresh {w : World Tables} {ids : Ids} (h : Sound w) (hl : w.ids.Later ids) :
    ids.FreshIn w.state := by
  have hne : ∀ {kind : Named} {x : Id kind} {n : Nat}, w.ids.Issued x → ids.issued ≤ n →
      x ≠ ⟨ids.name n⟩ := by
    rintro kind x n ⟨m, hm, hx⟩ hn rfl
    have hname : ids.name n = w.ids.name m := hx
    rw [hl.name] at hname
    have hnm : n = m := h.injective hname
    have := hl.issued
    omega
  constructor
  · intro n hn a ha
    exact hne (h.assignees.issued a.id (List.mem_map_of_mem ha)) hn
  · intro n hn e he
    exact hne (h.examinations.issued e.id (List.mem_map_of_mem he)) hn

theorem Ids.FreshIn.others {ids : Ids} {t : Tables} (h : ids.FreshIn t) (id : CampaignId) :
    ids.FreshIn (t.others id) := by
  constructor
  · exact fun n hn a ha => h.assignees n hn a (List.mem_filter.mp ha).1
  · exact fun n hn e he => h.examinations n hn e (List.mem_filter.mp he).1

/-- No two campaigns share a row, and no answer to one is by an assignee of another. -/
theorem Sound.apart {w : World Tables} {ids : Ids} (h : Sound w) (ho : Owned w.state)
    (hf : ids.FreshIn w.state) (id : CampaignId) :
    Apart (w.state.others id) id { w with ids } where
  others := rfl
  fresh := hf.others id
  assignees a ha hid o hother hoa := by
    obtain ⟨hother, hne⟩ := List.mem_filter.mp hother
    have : o = a := List.inj_on_of_nodup_map h.assignees.nodup hother ha hoa
    subst this
    simp [hid] at hne
  examinations e he hid o hother hoe := by
    obtain ⟨hother, hne⟩ := List.mem_filter.mp hother
    have : o = e := List.inj_on_of_nodup_map h.examinations.nodup hother he hoe
    subst this
    simp [hid] at hne
  questionnaire q hq := (h.questionnaires id q hq).1
  answers x hx hlacks := by
    obtain ⟨hx, hne⟩ := List.mem_filter.mp hx
    obtain ⟨p, hp, hpx, hcampaign⟩ := ho.answers x hx
    obtain ⟨a, ha, rfl⟩ := List.mem_map.mp hp
    refine hlacks a (List.mem_filter.mpr ⟨ha, ?_⟩) hpx
    have hac : a.campaign = x.campaign := hcampaign
    rw [hac]
    exact hne

/-! ## Two runs -/

/-- Two worlds with the same rows of a campaign and the same identifiers that are left. -/
structure Agree (id : CampaignId) (w₁ w₂ : World Memory) : Prop where
  ids : w₁.ids = w₂.ids
  rows : w₁.state.tables.of id = w₂.state.tables.of id

/-- Work that from two worlds has one result and leaves the same rows of a campaign, and that leaves
the rows of all others as they were. -/
structure Isolated {α : Type} (id : CampaignId) (t : Task Memory α) (w₁ w₂ : World Memory) :
    Prop where
  result : (t w₁).1 = (t w₂).1
  agree : Agree id (t w₁).2 (t w₂).2
  others₁ : (t w₁).2.state.tables.others id = w₁.state.tables.others id
  others₂ : (t w₂).2.state.tables.others id = w₂.state.tables.others id

namespace Isolated

variable {α β : Type} {w₁ w₂ : World Memory}

theorem map {t : Task Memory α} (h : Isolated id t w₁ w₂) (g : α → β) :
    Isolated id (g <$> t : Task Memory β) w₁ w₂ := by
  constructor
  · rw [run_map, run_map, h.result]
  · rw [run_map, run_map]; exact h.agree
  · rw [run_map]; exact h.others₁
  · rw [run_map]; exact h.others₂

theorem obey {r : Except Violation α} {k : α → Task Memory β} (ha : Agree id w₁ w₂)
    (h : ∀ a, Isolated id (k a) w₁ w₂) : Isolated id (Task.obey r >>= k : Task Memory β) w₁ w₂ := by
  cases r with
  | ok a => exact h a
  | error v => exact ⟨rfl, ha, rfl, rfl⟩

/-- The catalog leaves the store alone, and it is asked before a unit is opened. -/
theorem lookup {o : Occasion} {key : ItemKey} {k : Item × Option Variant → Task Memory β}
    (ha : Agree id w₁ w₂) (hreply : (o.catalog.get key w₁.state).1 = (o.catalog.get key w₂.state).1)
    (h : ∀ found, Isolated id (k found) w₁ w₂) :
    Isolated id (Task.ofState (o.catalog.get key) >>= k : Task Memory β) w₁ w₂ := by
  have hrun : ∀ w : World Memory, (Task.ofState (o.catalog.get key) >>= k : Task Memory β) w =
      match (o.catalog.get key w.state).1 with
      | .ok found => k found w
      | .error f => (.error f, w) := by
    intro w
    have hstate := o.detached key w.state
    rw [run_bind]
    unfold Task.ofState
    rcases hget : o.catalog.get key w.state with ⟨reply, state⟩
    rw [hget] at hstate
    obtain rfl : state = w.state := hstate
    cases reply <;> rfl
  have hrun₁ := hrun w₁
  have hrun₂ := hrun w₂
  rw [← hreply] at hrun₂
  cases hget : (o.catalog.get key w₁.state).1 with
  | ok found =>
    rw [hget] at hrun₁ hrun₂
    obtain ⟨hresult, hagree, h₁, h₂⟩ := h found
    exact ⟨by rw [hrun₁, hrun₂, hresult], by rw [hrun₁, hrun₂]; exact hagree,
      by rw [hrun₁, h₁], by rw [hrun₂, h₂]⟩
  | error f =>
    rw [hget] at hrun₁ hrun₂
    exact ⟨by rw [hrun₁, hrun₂], by rw [hrun₁, hrun₂]; exact ha, by rw [hrun₁], by rw [hrun₂]⟩

/-- A unit whose work is confined to a campaign. -/
theorem transact {body : Task Tables α} {Q : α → Prop} (ha : Agree id w₁ w₂)
    (h₁ : Apart (w₁.state.tables.others id) id w₁.unit)
    (h₂ : Apart (w₂.state.tables.others id) id w₂.unit)
    (hb : ∀ F, Confined F id body Q) : Isolated id (Store.memory.transact body) w₁ w₂ := by
  obtain ⟨hown₁, hafter₁, _⟩ := hb _ w₁.unit h₁
  obtain ⟨hown₂, hafter₂, _⟩ := hb _ w₂.unit h₂
  have hunits : w₁.unit.of id = w₂.unit.of id := by
    unfold World.of World.unit
    rw [ha.ids, ha.rows]
  rw [hunits, hown₂] at hown₁
  obtain ⟨hresult, hworld⟩ := Prod.mk.inj hown₁
  have hids : (body w₁.unit).2.ids = (body w₂.unit).2.ids := (congrArg World.ids hworld).symm
  have hrows : (body w₁.unit).2.state.of id = (body w₂.unit).2.state.of id :=
    (congrArg World.state hworld).symm
  have hrest₁ := hafter₁.others
  have hrest₂ := hafter₂.others
  have ht₁ := transact_memory body w₁
  have ht₂ := transact_memory body w₂
  rcases hr₁ : body w₁.unit with ⟨r₁, u₁⟩
  rcases hr₂ : body w₂.unit with ⟨r₂, u₂⟩
  rw [hr₁] at ht₁ hresult hids hrows hrest₁
  rw [hr₂] at ht₂ hresult hids hrows hrest₂
  obtain rfl : r₂ = r₁ := hresult
  cases r₂ with
  | ok a =>
    exact ⟨by rw [ht₁, ht₂], by rw [ht₁, ht₂]; exact ⟨hids, hrows⟩,
      by rw [ht₁]; exact hrest₁, by rw [ht₂]; exact hrest₂⟩
  | error f =>
    exact ⟨by rw [ht₁, ht₂], by rw [ht₁, ht₂]; exact ⟨hids, ha.rows⟩, by rw [ht₁], by rw [ht₂]⟩

end Isolated

/-! ## Commands -/

/-- Where a campaign is apart from all others in two worlds that agree on it. -/
structure Twins (id : CampaignId) (w₁ w₂ : World Memory) : Prop extends Agree id w₁ w₂ where
  apart₁ : Apart (w₁.state.tables.others id) id w₁.unit
  apart₂ : Apart (w₂.state.tables.others id) id w₂.unit

theorem Twins.unit {α : Type} {w₁ w₂ : World Memory} (h : Twins id w₁ w₂) {body : Task Tables α}
    {Q : α → Prop} (hb : ∀ F, Confined F id body Q) (g : α → Outcome) :
    Isolated id (g <$> Store.memory.transact body : Task Memory Outcome) w₁ w₂ :=
  (Isolated.transact h.toAgree h.apart₁ h.apart₂ hb).map g

/-- Every command for a campaign that is apart from all others. -/
theorem Visit.isolated {v : Visit} {w₁ w₂ : World Memory} (hv : v.command.target? = some id)
    (h : Twins id w₁ w₂)
    (hcatalog : ∀ key, (v.catalog.get key w₁.state).1 = (v.catalog.get key w₂.state).1) :
    Isolated id (v.service.run v.command) w₁ w₂ := by
  cases hc : v.command with
  | save r =>
    rw [hc] at hv
    have hid : r.id = some id := hv
    refine .map (.obey h.toAgree fun _ => ?_) _
    refine .lookup (o := v.toOccasion) h.toAgree (hcatalog _) fun found => ?_
    simp only [hid]
    refine .transact (Q := fun _ => True) h.toAgree h.apart₁ h.apart₂ fun F => ?_
    exact (Confined.revise v.now r found.1 found.2).bind fun _ _ => .pure trivial
  | delete target =>
    rw [hc] at hv; cases hv
    exact h.unit (fun _ => .deleteCampaign) fun _ => .deleted
  | complete target =>
    rw [hc] at hv; cases hv
    exact h.unit (fun _ => .complete) _
  | invite target =>
    rw [hc] at hv; cases hv
    exact h.unit (fun _ => .invite) _
  | answerInvitation target b accepted answers =>
    rw [hc] at hv; cases hv
    exact h.unit (fun _ => .answerInvitation b accepted answers) _
  | decline target b reason =>
    rw [hc] at hv; cases hv
    exact h.unit (fun _ => .decline b reason) _
  | applyLottery target results =>
    rw [hc] at hv; cases hv
    exact h.unit (fun _ => .applyLottery results) _
  | finishShipment target =>
    rw [hc] at hv; cases hv
    exact h.unit (fun _ => .finishShipment) _
  | completePayment target bs =>
    rw [hc] at hv; cases hv
    simp only [Service.run]
    split
    · exact ⟨rfl, h.toAgree, rfl, rfl⟩
    · exact h.unit (fun _ => .completePayment bs) _
  | submit target b kind entry =>
    rw [hc] at hv; cases hv
    exact h.unit (fun _ => .submit v.now b kind entry) _
  | applyVerdicts target kind verdicts =>
    rw [hc] at hv; cases hv
    exact h.unit (fun _ => .applyVerdicts kind verdicts) _

theorem Tables.of_deleteCampaign (t : Tables) (id : CampaignId) :
    (t.deleteCampaign id).of id = {} := by
  have hmap : (t.questionnaires.erase id).restrict (fun c => decide (c = id)) = {} :=
    Keyed.ext_entries (by simp [Keyed.restrict, Keyed.erase, List.filter_filter])
  simp only [deleteCampaign, of, restrict, hmap, List.filter_filter]
  simp

theorem delete_empties {v : Visit} (hv : v.command = .delete id) (w : World Memory) :
    (v.service.run v.command w).1 = .ok .deleted ∧
      (v.service.run v.command w).2.state.tables.of id = {} := by
  rw [hv]
  exact ⟨rfl, Tables.of_deleteCampaign _ id⟩

/-- Two states, each after a history of its own, that agree on the rows of a campaign: with identifiers
that are fresh in both, a command for the campaign has one result and leaves the same rows of it, and
in both states the rows of all other campaigns stay as they are, in their order. Deleting the campaign
leaves none of its rows. -/
theorem campaign_isolation {h₁ h₂ : List Visit} {v : Visit} {ids : Ids}
    (hv : v.command.target? = some id)
    (hcatalog : ∀ key, (v.catalog.get key (World.start.after h₁).state).1 =
      (v.catalog.get key (World.start.after h₂).state).1)
    (hfresh₁ : ids.FreshIn (World.start.after h₁).state.tables)
    (hfresh₂ : ids.FreshIn (World.start.after h₂).state.tables)
    (hrows : (World.start.after h₁).state.tables.of id = (World.start.after h₂).state.tables.of id) :
    Isolated id (v.service.run v.command) { ids, state := (World.start.after h₁).state }
        { ids, state := (World.start.after h₂).state } ∧
      (v.command = .delete id → ∀ w, (v.service.run v.command w).1 = .ok .deleted ∧
        (v.service.run v.command w).2.state.tables.of id = {}) := by
  have hapart₁ := (sound_after h₁).apart (owned_after h₁) hfresh₁ id
  have hapart₂ := (sound_after h₂).apart (owned_after h₂) hfresh₂ id
  exact ⟨Visit.isolated hv ⟨⟨rfl, hrows⟩, hapart₁, hapart₂⟩ hcatalog, delete_empties⟩

def oneCampaign : List Visit := [visitAt 0 (.save reviewingRequest)]

/-- The blogger of the first campaign takes part in the second one too. -/
def twoCampaigns : List Visit := oneCampaign ++ [visitAt 1 (.save reviewingRequest)]

theorem campaign_isolation_of_twoCampaigns :
    Isolated ⟨"id-0001"⟩ ((visitAt 2 (.invite ⟨"id-0001"⟩)).service.run (.invite ⟨"id-0001"⟩))
      { ids := { name := Ids.numbered, issued := 10 }, state := (World.start.after oneCampaign).state }
      { ids := { name := Ids.numbered, issued := 10 },
        state := (World.start.after twoCampaigns).state } := by
  have hfresh : ∀ history, (World.start.after history).ids.issued ≤ 10 →
      Ids.FreshIn { name := Ids.numbered, issued := 10 }
        (World.start.after history).state.tables := by
    intro history hissued
    exact (sound_after history).fresh ⟨(later_after history).name.symm, hissued⟩
  have hrows : (World.start.after oneCampaign).state.tables.of ⟨"id-0001"⟩ =
      (World.start.after twoCampaigns).state.tables.of ⟨"id-0001"⟩ := by decide +kernel
  have hcatalog : ∀ key, ((visitAt 2 (.invite ⟨"id-0001"⟩)).catalog.get key
      (World.start.after oneCampaign).state).1 = ((visitAt 2 (.invite ⟨"id-0001"⟩)).catalog.get key
      (World.start.after twoCampaigns).state).1 := fun _ => rfl
  exact (campaign_isolation (v := visitAt 2 (.invite ⟨"id-0001"⟩)) rfl hcatalog
    (hfresh oneCampaign (by decide +kernel)) (hfresh twoCampaigns (by decide +kernel)) hrows).1

end Sponsorship
