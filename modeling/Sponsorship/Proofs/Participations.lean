import Sponsorship.Proofs.Reading
import Sponsorship.Proofs.Resave

/-!
# Sponsorship.Proofs.Participations

What a blogger takes part in. Campaigns are found in a map that loses each one when it is used, so a
second row of the same campaign would be left out; nobody takes part in a campaign twice.

* `pairUp_eq_join`: with the campaigns of the rows all different, nothing is left out.
* `Tables.open?`, `Shelf.joined`: what is to be answered, as a join of the
  stored rows.
* `participations_exact`: what the query answers after every history.
-/

namespace Sponsorship

open Time

/-- Where no two rows are of the same campaign, each is paired up with what the map had from the
start. -/
theorem pairUp_eq_join {m : Keyed CampaignId Campaign} {as : List Assignee}
    (hd : (as.map Assignee.campaign).Nodup) :
    pairUp m as =
      as.filterMap fun a => (m.get? a.campaign).map fun c => { assignee := a, campaign := c } := by
  induction as generalizing m with
  | nil => rfl
  | cons a rest ih =>
    rw [List.map_cons, List.nodup_cons] at hd
    unfold pairUp
    cases hget : m.get? a.campaign with
    | none =>
      rw [List.filterMap_cons_none (by rw [hget]; rfl)]
      exact ih hd.2
    | some c =>
      rw [List.filterMap_cons_some (by rw [hget]; rfl)]
      refine congrArg _ ((ih hd.2).trans (List.filterMap_congr fun b hb => ?_))
      -- The campaign that was used up is not that of any row after it.
      have hne : b.campaign ≠ a.campaign := fun heq => hd.1 (heq ▸ List.mem_map_of_mem hb)
      rw [Keyed.get?_erase, if_neg hne]

namespace Tables

/-- The campaign of this identifier, if it is not closed. -/
def open? (t : Tables) (id : CampaignId) : Option Campaign :=
  (t.campaign? id).filter fun c => !c.isClosed

variable {t : Tables} {id : CampaignId} {b : BloggerId}

theorem open?_eq_some_iff (hids : (t.campaigns.map Campaign.id).Nodup) {c : Campaign} :
    t.open? id = some c ↔ c ∈ t.campaigns ∧ c.id = id ∧ c.isClosed = false := by
  unfold open?
  rw [Option.filter_eq_some_iff, Bool.not_eq_true']
  constructor
  · rintro ⟨hc, hopen⟩
    obtain ⟨hmem, hid⟩ := campaign?_mem hc
    exact ⟨hmem, hid, hopen⟩
  · rintro ⟨hmem, rfl, hopen⟩
    exact ⟨find?_key hids hmem, hopen⟩

/-- Nobody takes part in a campaign twice. -/
theorem nodup_bloggerRows (h : Owned t) (b : BloggerId) :
    ((t.bloggerRows b).map Assignee.campaign).Nodup := by
  have hplaces : (t.assignees.map fun a => (a.campaign, a.blogger)).Nodup := by
    have hp := h.participations
    rw [participants, List.map_map] at hp
    exact hp
  have hrows : ((t.bloggerRows b).map fun a => (a.campaign, a.blogger)).Nodup :=
    hplaces.sublist (List.filter_sublist.map _)
  have hpairs : ((t.bloggerRows b).map fun a => (a.campaign, a.blogger)) =
      ((t.bloggerRows b).map Assignee.campaign).map fun id => (id, b) := by
    rw [List.map_map]
    refine List.map_congr_left fun a ha => ?_
    have hb : a.blogger = b := by simpa using (List.mem_filter.mp ha).2
    exact Prod.ext rfl hb
  rw [hpairs] at hrows
  exact hrows.of_map _

/-- Among the campaigns that are not closed, as they are now, each is found by its identifier. -/
theorem get?_openAmong (hids : (t.campaigns.map Campaign.id).Nodup) (s : Shelf)
    {ids : List CampaignId} (hid : id ∈ ids) :
    (Keyed.ofList (((t.openAmong ids).map s.current).map fun c => (c.id, c))).get? id =
      (t.open? id).map s.current := by
  refine Keyed.get?_ofList_eq fun c => ?_
  rw [Option.map_eq_some_iff]
  constructor
  · intro hc
    obtain ⟨x, hx, hpair⟩ := List.mem_map.mp hc
    obtain ⟨stored, hstored, rfl⟩ := List.mem_map.mp hx
    obtain ⟨hxid, rfl⟩ := Prod.mk.inj hpair
    obtain ⟨hmem, hopen⟩ := List.mem_filter.mp hstored
    refine ⟨stored, (open?_eq_some_iff hids).mpr ⟨hmem, hxid, ?_⟩, rfl⟩
    simpa using (Bool.and_eq_true_iff.mp hopen).2
  · rintro ⟨stored, hstored, rfl⟩
    obtain ⟨hmem, rfl, hopen⟩ := (open?_eq_some_iff hids).mp hstored
    refine List.mem_map.mpr ⟨s.current stored, List.mem_map_of_mem ?_, rfl⟩
    refine List.mem_filter.mpr ⟨hmem, ?_⟩
    simp [hid, hopen]

end Tables

/-- The rows of a blogger, each joined with its campaign as it is now, those of closed campaigns left
out. -/
def Shelf.joined (s : Shelf) (t : Tables) (b : BloggerId) : List Participation :=
  (t.bloggerRows b).filterMap fun a =>
    (t.open? a.campaign).map fun c => { assignee := a, campaign := s.current c }

namespace Shelf

variable {s : Shelf} {t : Tables} {w : World Memory} {b : BloggerId} {p : Participation}

theorem readParticipations_joined (h : s.Filed) (hw : ∀ c ∈ w.state.tables.campaigns, c.Refers)
    (hids : (w.state.tables.campaigns.map Campaign.id).Nodup) (howned : Owned w.state.tables)
    (cap : Nat) (now : Instant) (b : BloggerId) :
    (s.service cap now).readParticipations b w = (.ok (s.joined w.state.tables b), w.read) := by
  have hrows := Tables.nodup_bloggerRows howned b
  refine (readParticipations_eq h hw cap now b).trans ?_
  refine congrArg (fun ps => (Except.ok ps, w.read)) ((pairUp_eq_join hrows).trans ?_)
  refine List.filterMap_congr fun a ha => ?_
  rw [Tables.get?_openAmong hids s (List.mem_map_of_mem ha), Option.map_map]
  rfl

/-- The rows that are joined are those whose campaign is not closed. -/
theorem map_assignee_joined (s : Shelf) (t : Tables) (b : BloggerId) :
    (s.joined t b).map Participation.assignee =
      (t.bloggerRows b).filter fun a => (t.open? a.campaign).isSome := by
  unfold joined
  rw [List.map_filterMap, ← List.filterMap_eq_filter]
  refine List.filterMap_congr fun a _ => ?_
  cases hc : t.open? a.campaign with
  | none => simp [Option.guard, hc]
  | some c => simp [Option.guard, hc]

theorem joined_campaign (hp : p ∈ s.joined t b) :
    ∃ c, t.open? p.assignee.campaign = some c ∧ p.campaign = s.current c := by
  obtain ⟨a, _, hp⟩ := List.mem_filterMap.mp hp
  obtain ⟨c, hc, rfl⟩ := Option.map_eq_some_iff.mp hp
  exact ⟨c, hc, rfl⟩

end Shelf

/-- What a blogger takes part in, as it is answered: every row of a campaign that is not closed, once
and in the order of the rows, with the campaign that it belongs to. -/
structure ListsOpen (shelf : Shelf) (t : Tables) (b : BloggerId) (ps : List Participation) :
    Prop where
  rows : ps.map Participation.assignee =
    (t.bloggerRows b).filter fun a => (t.open? a.campaign).isSome
  once : (ps.map fun p => p.assignee.id).Nodup
  campaigns : ∀ p ∈ ps, ∃ stored, t.campaign? p.assignee.campaign = some stored ∧
    stored.isClosed = false ∧ shelf.Refreshes stored p.campaign
  owned : ∀ a ∈ t.bloggerRows b, ∃ stored, t.campaign? a.campaign = some stored

/-- After every history of commands and with every catalog held in memory, the query for what a
blogger takes part in answers with exactly the blogger's rows in campaigns that are not closed. -/
theorem participations_exact (history : List Visit) (items : List Item) (variants : List Variant)
    (cap : Nat) (now : Instant) (b : BloggerId) :
    ∃ ps, (((Shelf.stocked items variants).service cap now).ask (.participations b)
        (World.start.after history)).1 = .ok (.participations ps) ∧
      ListsOpen (.stocked items variants) (World.start.after history).state.tables b ps := by
  have h := Shelf.filed_stocked items variants
  have hsound := sound_after history
  have howned : Owned (World.start.after history).state.tables := (stored_after history).owned
  have hread := Shelf.readParticipations_joined h
    (fun c hc => ((committed_rows_valid history).campaigns c hc).refers) hsound.campaigns.nodup howned
    cap now b
  have hrows := (Shelf.stocked items variants).map_assignee_joined
    (World.start.after history).state.tables b
  refine ⟨(Shelf.stocked items variants).joined (World.start.after history).state.tables b, ?_, ?_⟩
  · simp only [Service.ask]
    rw [run_map, hread]
    rfl
  · refine ⟨hrows, ?_, fun p hp => ?_, fun a ha => ?_⟩
    · have hjoined : (((Shelf.stocked items variants).joined (World.start.after history).state.tables
          b).map Participation.assignee).Sublist (World.start.after history).state.tables.assignees := by
        rw [hrows]
        exact List.filter_sublist.trans List.filter_sublist
      have hids := hsound.assignees.nodup.sublist (hjoined.map Assignee.id)
      rw [List.map_map] at hids
      exact hids
    · obtain ⟨stored, hstored, hcurrent⟩ := Shelf.joined_campaign hp
      obtain ⟨hfound, hopen⟩ := Option.filter_eq_some_iff.mp hstored
      refine ⟨stored, hfound, by simpa using hopen, ?_⟩
      rw [hcurrent]
      exact Shelf.refreshes_current h stored
    · obtain ⟨stored, hstored, hid⟩ := List.mem_map.mp
        (howned.participants _ (List.mem_map_of_mem (List.mem_filter.mp ha).1))
      have hid : stored.id = a.campaign := hid
      exact ⟨stored, hid ▸ find?_key hsound.campaigns.nodup hstored⟩

end Sponsorship
