import Sponsorship.Proofs.Idle
import Sponsorship.Proofs.Validity
import Sponsorship.Query

/-!
# Sponsorship.Proofs.Reading

What is read of campaigns, with a catalog that is held in memory.

* `Shelf.stocked`, `Shelf.Filed`: a catalog of products and variants, each found by its identifier.
* `Shelf.current`: a campaign with the catalog's products in the place of its own.
* `refreshed_of_member`: a campaign is refreshed the same way whatever others are refreshed with it.
* `Untouched`: work that leaves the stored rows as they are; every query is such work.
* `campaign_reads_agree`: a campaign looks the same on every way of reading it.
-/

namespace Sponsorship

open Time

/-! ## Checks in a row -/

section Checks

variable {ε α β : Type} {f : α → Except ε β} {as : List α}

/-- Checks that all pass give what they give one by one. -/
theorem Except.mapM_eq_map {g : α → β} (h : ∀ a ∈ as, f a = .ok (g a)) :
    as.mapM f = .ok (as.map g) := by
  induction as with
  | nil => rfl
  | cons a rest ih =>
    have hrest := ih fun b hb => h b (List.mem_cons_of_mem a hb)
    rw [List.mapM_cons, h a List.mem_cons_self]
    exact bind_ok.mpr ⟨_, rfl, bind_ok.mpr ⟨_, hrest, rfl⟩⟩

end Checks

/-! ## The catalog -/

namespace Shelf

/-- A catalog of products and variants; of two with one identifier the later counts. -/
def stocked (items : List Item) (variants : List Variant) : Shelf :=
  variants.foldl putVariant (items.foldl putItem {})

/-- Products and variants are found by their own identifiers. -/
structure Filed (s : Shelf) : Prop where
  items : ∀ id i, s.items.get? id = some i → i.id = id
  variants : ∀ id v, s.variants.get? id = some v → v.id = id

theorem Filed.putItem {s : Shelf} (h : s.Filed) (i : Item) : (s.putItem i).Filed := by
  refine ⟨fun id j hj => ?_, h.variants⟩
  change (s.items.insert i.id i).get? id = some j at hj
  rw [Keyed.get?_insert] at hj
  split at hj
  · rename_i hid
    cases hj
    exact hid.symm
  · exact h.items id j hj

theorem Filed.putVariant {s : Shelf} (h : s.Filed) (v : Variant) : (s.putVariant v).Filed := by
  refine ⟨h.items, fun id x hx => ?_⟩
  change (s.variants.insert v.id v).get? id = some x at hx
  rw [Keyed.get?_insert] at hx
  split at hx
  · rename_i hid
    cases hx
    exact hid.symm
  · exact h.variants id x hx

theorem filed_stocked (items : List Item) (variants : List Variant) :
    (stocked items variants).Filed := by
  have hempty : ({} : Shelf).Filed := by
    constructor
    · intro id i h
      rw [Keyed.get?_empty] at h
      cases h
    · intro id v h
      rw [Keyed.get?_empty] at h
      cases h
  have hitems : ∀ (items : List Item) (s : Shelf), s.Filed → (items.foldl Shelf.putItem s).Filed := by
    intro items
    induction items with
    | nil => exact fun s h => h
    | cons i rest ih => exact fun s h => ih _ (h.putItem i)
  have hvariants : ∀ (variants : List Variant) (s : Shelf), s.Filed →
      (variants.foldl Shelf.putVariant s).Filed := by
    intro variants
    induction variants with
    | nil => exact fun s h => h
    | cons v rest ih => exact fun s h => ih _ (h.putVariant v)
  exact hvariants variants _ (hitems items {} hempty)

/-- The campaign with the catalog's product and variant in the place of its own, where the catalog has
them. -/
def current (s : Shelf) (c : Campaign) : Campaign :=
  { c with
    item := (s.items.get? c.item.id).getD c.item
    variant := c.variant.map fun v => (s.variants.get? v.id).getD v }

/-- A service that reads from the store in memory and looks products up in this catalog. -/
def service (s : Shelf) (cap : Nat) (now : Instant) : Service Memory Tables :=
  { store := .memory, catalog := .shelf s, assigneeCap := cap, now }

end Shelf

/-! ## One campaign -/

/-- Every key is among the distinct ones, unless it was met before. -/
theorem mem_distinctKeys {seen keys : List ItemKey} {k : ItemKey} (hk : k ∈ keys) (hnew : k ∉ seen) :
    k ∈ distinctKeys seen keys := by
  induction keys generalizing seen with
  | nil => cases hk
  | cons x rest ih =>
    unfold distinctKeys
    by_cases hx : x ∈ seen
    · rw [if_pos (List.contains_iff_mem.mpr hx)]
      rcases List.mem_cons.mp hk with rfl | hk
      · exact absurd hx hnew
      · exact ih hk hnew
    · rw [if_neg fun h => hx (List.contains_iff_mem.mp h)]
      by_cases hkx : k = x
      · rw [hkx]
        exact List.mem_cons_self
      · refine List.mem_cons_of_mem x (ih ?_ ?_)
        · exact (List.mem_cons.mp hk).resolve_left hkx
        · exact fun h => (List.mem_cons.mp h).elim hkx hnew

namespace Shelf

variable {s : Shelf} {keys : List ItemKey} {k : ItemKey}

/-- A product that is looked up with many others is what the catalog has. -/
theorem getAll_items (h : s.Filed) (hk : k ∈ keys) :
    (s.getAll keys).items.get? k.item = s.items.get? k.item := by
  refine Keyed.get?_ofList_eq fun i => ⟨fun hmem => ?_, fun hi => ?_⟩
  · obtain ⟨x, _, hx⟩ := List.mem_filterMap.mp hmem
    obtain ⟨j, hj, hpair⟩ := Option.map_eq_some_iff.mp hx
    obtain ⟨hid, rfl⟩ := Prod.mk.inj hpair
    rw [← hid, h.items _ _ hj]
    exact hj
  · refine List.mem_filterMap.mpr ⟨k, hk, ?_⟩
    rw [hi, Option.map_some, h.items _ _ hi]

theorem getAll_variants (h : s.Filed) {id : VariantId} (hk : k ∈ keys) (hid : k.variant = some id) :
    (s.getAll keys).variants.get? id = s.variants.get? id := by
  refine Keyed.get?_ofList_eq fun v => ⟨fun hmem => ?_, fun hv => ?_⟩
  · obtain ⟨x, _, hx⟩ := List.mem_filterMap.mp hmem
    obtain ⟨y, hy, hpair⟩ := Option.map_eq_some_iff.mp hx
    obtain ⟨hyid, rfl⟩ := Prod.mk.inj hpair
    obtain ⟨id', _, hy⟩ := Option.bind_eq_some_iff.mp hy
    rw [← hyid, h.variants _ _ hy]
    exact hy
  · refine List.mem_filterMap.mpr ⟨k, hk, ?_⟩
    rw [hid, Option.bind_some, hv, Option.map_some, h.variants _ _ hv]

end Shelf

/-- A campaign that can be refreshed: its product has an identifier, and what it refers to is up to
date. -/
structure Campaign.Refers (c : Campaign) : Prop where
  item : c.item.id.text ≠ ""
  pickInfo : c.pickInfo = .derive c.item c.variant c.banner

theorem Campaign.Valid.refers {c : Campaign} (h : c.Valid) : c.Refers := ⟨h.item, h.pickInfo⟩

/-- What a campaign refers to goes by identifiers alone. -/
theorem PickInfo.derive_congr {i i' : Item} {v v' : Option Variant} (banner : Option BannerId)
    (hi : i.id = i'.id) (hv : v.map Variant.id = v'.map Variant.id) :
    PickInfo.derive i v banner = .derive i' v' banner := by
  simp only [PickInfo.derive, hi, hv]

namespace Campaign.Refers

variable {c : Campaign}

theorem edit_item (h : c.Refers) {i : Item} (hid : i.id = c.item.id) :
    c.edit (.item i) = .ok { c with item := i } := by
  refine edit_ok.mpr ⟨checkItem_ok.mpr (hid ▸ h.item), ?_⟩
  have hinfo : PickInfo.derive i c.variant c.banner = c.pickInfo := by
    rw [h.pickInfo]
    exact PickInfo.derive_congr c.banner hid rfl
  simp only [changed, refreshPickInfo, hinfo]

theorem edit_variant (h : c.Refers) {v v' : Variant} (hv : c.variant = some v) (hid : v'.id = v.id) :
    c.edit (.variant (some v')) = .ok { c with variant := some v' } := by
  refine edit_ok.mpr ⟨rfl, ?_⟩
  have hinfo : PickInfo.derive c.item (some v') c.banner = c.pickInfo := by
    rw [h.pickInfo]
    refine PickInfo.derive_congr c.banner rfl ?_
    rw [hv, Option.map_some, Option.map_some, hid]
  simp only [changed, refreshPickInfo, hinfo]

/-- Another product of the same identifier is referred to alike. -/
theorem withItem (h : c.Refers) {i : Item} (hid : i.id = c.item.id) :
    ({ c with item := i } : Campaign).Refers := by
  refine ⟨hid ▸ h.item, ?_⟩
  change c.pickInfo = _
  rw [h.pickInfo]
  exact PickInfo.derive_congr c.banner hid.symm rfl

end Campaign.Refers

namespace Campaign

variable {found : Found} {c c₁ : Campaign}

/-- The campaign with the variant that was found in the place of its own. -/
def revariant (found : Found) (c : Campaign) : Except Violation Campaign := do
  match c.variant.bind fun v => found.variants.get? v.id with
  | some variant => c.edit (.variant (some variant))
  | none => return c

theorem refreshed_of_none (h : found.items.get? c.item.id = none) :
    c.refreshed found = c.revariant found := by
  unfold refreshed
  rw [h]
  rfl

theorem refreshed_of_some {i : Item} (h : found.items.get? c.item.id = some i)
    (hedit : c.edit (.item i) = .ok c₁) : c.refreshed found = c₁.revariant found := by
  unfold refreshed
  rw [h]
  simp only [hedit]
  rfl

end Campaign

namespace Shelf

variable {s : Shelf} {c : Campaign} {cs : List Campaign}

theorem current_item_id (h : s.Filed) (c : Campaign) : (s.current c).item.id = c.item.id := by
  unfold current
  cases hi : s.items.get? c.item.id with
  | none => rfl
  | some i => exact h.items _ _ hi

theorem current_variant_id (h : s.Filed) (c : Campaign) :
    (s.current c).variant.map Variant.id = c.variant.map Variant.id := by
  unfold current
  cases c.variant with
  | none => rfl
  | some v =>
    simp only [Option.map_some]
    cases hv : s.variants.get? v.id with
    | none => rfl
    | some x => rw [Option.getD_some, h.variants _ _ hv]

theorem current_refers (h : s.Filed) (hc : c.Refers) : (s.current c).Refers := by
  constructor
  · rw [current_item_id h]
    exact hc.item
  · change c.pickInfo = PickInfo.derive (s.current c).item (s.current c).variant c.banner
    rw [hc.pickInfo]
    exact PickInfo.derive_congr c.banner (current_item_id h c).symm (current_variant_id h c).symm

/-- A campaign that was refreshed is up to date. -/
theorem current_current (h : s.Filed) (c : Campaign) : s.current (s.current c) = s.current c := by
  have hitem : (s.items.get? (s.current c).item.id).getD (s.current c).item = (s.current c).item := by
    rw [current_item_id h]
    unfold current
    cases s.items.get? c.item.id with
    | none => rfl
    | some i => rfl
  have hvariant : (s.current c).variant.map (fun v => (s.variants.get? v.id).getD v) =
      (s.current c).variant := by
    unfold current
    rw [Option.map_map]
    cases c.variant with
    | none => rfl
    | some v =>
      simp only [Option.map_some, Function.comp]
      cases hv : s.variants.get? v.id with
      | none => simp only [Option.getD_none, hv]
      | some x => simp only [Option.getD_some, h.variants _ _ hv, hv]
  change { s.current c with
    item := (s.items.get? (s.current c).item.id).getD (s.current c).item
    variant := (s.current c).variant.map fun v => (s.variants.get? v.id).getD v } = s.current c
  rw [hitem, hvariant]

/-- The catalog's variant comes in the place of the campaign's own. -/
theorem revariant_run {found : Found} (h : s.Filed) (hc : c.Refers)
    (hfound : ∀ v, c.variant = some v → found.variants.get? v.id = s.variants.get? v.id) :
    c.revariant found =
      .ok { c with variant := c.variant.map fun v => (s.variants.get? v.id).getD v } := by
  unfold Campaign.revariant
  cases hv : c.variant with
  | none =>
    have hself : ({ c with variant := none } : Campaign) = c := by rw [← hv]
    simp only [Option.bind_none, Option.map_none, hself]
    rfl
  | some v =>
    have hself : ({ c with variant := some v } : Campaign) = c := by rw [← hv]
    simp only [Option.bind_some, hfound v hv, Option.map_some]
    cases hx : s.variants.get? v.id with
    | none =>
      simp only [Option.getD_none, hself]
      rfl
    | some x =>
      simp only [Option.getD_some]
      exact hc.edit_variant hv (h.variants _ _ hx)

/-- A campaign is refreshed the same way whatever campaigns are refreshed with it. -/
theorem refreshed_of_member (h : s.Filed) (hc : c.Refers) (hmem : c ∈ cs) :
    c.refreshed (s.getAll (distinctKeys [] (cs.map Campaign.itemKey))) = .ok (s.current c) := by
  have hkey : c.itemKey ∈ distinctKeys [] (cs.map Campaign.itemKey) :=
    mem_distinctKeys (List.mem_map_of_mem hmem) (by simp)
  have hvariant : ∀ v, c.variant = some v →
      (s.getAll (distinctKeys [] (cs.map Campaign.itemKey))).variants.get? v.id =
        s.variants.get? v.id := by
    intro v hv
    refine getAll_variants h hkey ?_
    change c.variant.map Variant.id = some v.id
    rw [hv, Option.map_some]
  have hitem : (s.getAll (distinctKeys [] (cs.map Campaign.itemKey))).items.get? c.item.id =
      s.items.get? c.item.id := getAll_items h hkey
  unfold current
  cases hi : s.items.get? c.item.id with
  | none =>
    rw [Campaign.refreshed_of_none (hitem.trans hi)]
    exact revariant_run h hc hvariant
  | some i =>
    have hid := h.items _ _ hi
    rw [Campaign.refreshed_of_some (hitem.trans hi) (hc.edit_item hid)]
    exact revariant_run h (hc.withItem hid) hvariant

theorem idle_refresh (h : s.Filed) (hcs : ∀ c ∈ cs, c.Refers) (cap : Nat) (now : Instant)
    (w : World Memory) : Idle ((s.service cap now).refresh cs) w (cs.map s.current) := by
  have hall : cs.mapM (Campaign.refreshed (s.getAll (distinctKeys [] (cs.map Campaign.itemKey)))) =
      .ok (cs.map s.current) :=
    Except.mapM_eq_map fun c hc => refreshed_of_member h (hcs c hc) hc
  unfold Service.refresh
  cases hcs' : cs.isEmpty with
  | true =>
    rw [List.isEmpty_iff.mp hcs']
    exact .pure
  | false =>
    rw [if_neg (by simp)]
    exact .bind (Task.idle_ofState rfl rfl) (Task.idle_obey hall)

end Shelf

/-! ## Queries leave rows alone -/

/-- Work that leaves the stored rows as they are, whether it succeeds or fails. -/
def Untouched {α : Type} (t : Task Memory α) : Prop :=
  ∀ w, (t w).2.state.tables = w.state.tables

namespace Untouched

variable {α β : Type}

theorem ofExcept (r : Except Fault α) : Untouched (Task.ofExcept r) := fun _ => rfl

theorem bind {x : Task Memory α} {f : α → Task Memory β} (hx : Untouched x)
    (hf : ∀ a, Untouched (f a)) : Untouched (x >>= f : Task Memory β) := by
  intro w
  have hw := hx w
  rw [run_bind]
  rcases hr : x w with ⟨r, w₁⟩
  rw [hr] at hw
  cases r with
  | ok a => exact (hf a w₁).trans hw
  | error f => exact hw

theorem map {x : Task Memory α} {f : α → β} (hx : Untouched x) :
    Untouched (f <$> x : Task Memory β) := by
  intro w
  rw [run_map]
  exact hx w

/-- A unit of work that only reads commits the tables that it began with. -/
theorem transact {body : Task Tables α} (h : Preserves id body) :
    Untouched (Store.memory.transact body) := by
  intro w
  have hw : (body w.unit).2.state = w.state.tables := h w.unit
  rw [transact_memory]
  rcases hr : body w.unit with ⟨r, u⟩
  rw [hr] at hw
  cases r with
  | ok a => exact hw
  | error f => rfl

variable {s : Shelf} {cap : Nat} {now : Instant}

theorem refresh (cs : List Campaign) : Untouched ((s.service cap now).refresh cs) := by
  unfold Service.refresh
  split
  · exact ofExcept _
  · exact bind (fun _ => rfl) fun _ => ofExcept _

theorem read {c : Call} (h : ∀ t : Tables, (t.answer c).2 = t) :
    Untouched ((s.service cap now).read c) :=
  transact (.call h)

theorem readPage (condition : ListCondition) {c : Task Tables Page} (hc : Preserves id c) :
    Untouched ((s.service cap now).readPage condition c) :=
  bind (ofExcept _) fun _ => bind (transact hc) fun _ => bind (refresh _) fun _ => ofExcept _

theorem readCampaign (id : CampaignId) : Untouched ((s.service cap now).readCampaign id) := by
  refine bind (read fun _ => rfl) fun _ => bind (refresh _) fun cs => ?_
  cases cs with
  | nil => exact ofExcept _
  | cons c rest => exact ofExcept _

theorem readAnswers (id : CampaignId) (bloggers : List BloggerId) :
    Untouched ((s.service cap now).readAnswers id bloggers) :=
  transact (.bind (.call fun _ => rfl) fun _ => .bind (.call fun _ => rfl) fun _ => .ofExcept _)

theorem readParticipations (blogger : BloggerId) :
    Untouched ((s.service cap now).readParticipations blogger) := by
  refine bind (transact ?_) fun _ => bind (refresh _) fun _ => ofExcept _
  exact .bind (.call fun _ => rfl) fun _ => .bind (.call fun _ => rfl) fun _ => .ofExcept _

/-- No query changes a stored row. -/
theorem ask (q : Query) : Untouched ((s.service cap now).ask q) := by
  cases q with
  | campaign id => exact map (readCampaign id)
  | campaigns condition => exact map (readPage condition (.call fun _ => rfl))
  | search criteria condition => exact map (readPage condition (.call fun _ => rfl))
  | ending first last => exact bind (ofExcept _) fun _ => map (read fun _ => rfl)
  | questionnaire id =>
    refine bind (read fun _ => rfl) fun found => ?_
    cases found with
    | none => exact ofExcept (.error _)
    | some questionnaire => exact ofExcept _
  | answers id bloggers => exact map (readAnswers id bloggers)
  | participations blogger => exact map (readParticipations blogger)
  | assignee id blogger => exact map (read fun _ => rfl)
  | assignees id stage => exact map (read fun _ => rfl)
  | underExamination => exact map (read fun _ => rfl)
  | stageCounts id => exact map (bind (read fun _ => rfl) fun _ => ofExcept _)
  | examinations id kind => exact map (read fun _ => rfl)
  | examination id assignee kind => exact map (read fun _ => rfl)

end Untouched

/-! ## What is read -/

theorem mem_sortCampaigns {keys : List SortKey} {cs : List Campaign} {c : Campaign} :
    c ∈ sortCampaigns keys cs ↔ c ∈ cs := by
  unfold sortCampaigns
  induction keys with
  | nil => rfl
  | cons k rest ih => rw [List.foldr_cons, List.mem_mergeSort, ih]

/-- The campaigns of a page are stored. -/
theorem Tables.mem_page {t : Tables} {p : Campaign → Bool} {condition : ListCondition}
    {c : Campaign} (h : c ∈ (t.page p condition).campaigns) : c ∈ t.campaigns := by
  have hsorted := List.mem_of_mem_drop (List.mem_of_mem_take h)
  exact (List.mem_filter.mp (mem_sortCampaigns.mp hsorted)).1

/-- The keys are those that campaigns can be sorted by. -/
def ListCondition.Sorts (condition : ListCondition) : Prop :=
  ∀ k ∈ condition.sorts, (CampaignKey.ofName? k.name).isSome = true

theorem ListCondition.checkKeys_ok {condition : ListCondition} :
    condition.checkKeys = .ok () ↔ condition.Sorts := by
  have hkey : ∀ k : SortKey,
      (∃ key, k.campaignKey = .ok key) ↔ (CampaignKey.ofName? k.name).isSome = true := by
    intro k
    unfold SortKey.campaignKey
    cases CampaignKey.ofName? k.name with
    | none => simp
    | some key => simp
  have hkeys : (∃ keys, condition.sorts.mapM SortKey.campaignKey = .ok keys) ↔
      condition.Sorts := by
    rw [Except.mapM_isOk_iff]
    simp only [hkey, Sorts]
  unfold checkKeys
  rw [Except.bind_ok, ← hkeys]
  simp only [Except.pure_ok, and_true]

/-- The rows of a blogger, in the order in which they are stored. -/
def Tables.bloggerRows (t : Tables) (b : BloggerId) : List Assignee :=
  t.assignees.filter fun a => a.blogger = b

/-- Those of the campaigns that are not closed. -/
def Tables.openAmong (t : Tables) (ids : List CampaignId) : List Campaign :=
  t.campaigns.filter fun c => ids.contains c.id && (false || !c.isClosed)

/-- What a unit of work that only reads leaves. -/
def World.read (w : World Memory) : World Memory :=
  { ids := w.ids, state := ⟨w.state.tables, w.state.commits + 1⟩ }

namespace Shelf

variable {s : Shelf} {cap : Nat} {now : Instant} {w : World Memory}

theorem readCampaign_stored (h : s.Filed) {id : CampaignId} {c : Campaign} (hc : c.Refers)
    (hstored : w.state.tables.campaign? id = some c) :
    (s.service cap now).readCampaign id w = (.ok (s.current c), w.read) := by
  have hread : (s.service cap now).read (.getCampaign id false) w = (.ok c, w.read) :=
    transact_of_idle (Call.idle_getCampaign hstored)
  have hrefresh : Idle ((s.service cap now).refresh [c]) w.read [s.current c] :=
    idle_refresh h (by simpa using hc) cap now _
  unfold Service.readCampaign
  rw [run_bind, hread]
  dsimp only
  rw [hrefresh.run_bind]
  rfl

theorem readCampaign_missing {id : CampaignId} (hnone : w.state.tables.campaign? id = none) :
    (s.service cap now).readCampaign id w = (.error (.notFound (.campaign id)), w) := by
  have hcall : Store.memory.call (.getCampaign id false) w.unit =
      (.error (.notFound (.campaign id)), w.unit) := by
    simp only [Store.call, Task.ofState, Store.memory, World.unit, Tables.answer, hnone,
      Tables.found]
  have hread : (s.service cap now).read (.getCampaign id false) w =
      (.error (.notFound (.campaign id)), w) := by
    have ht := transact_memory (Store.memory.call (.getCampaign id false)) w
    rw [hcall] at ht
    exact ht
  unfold Service.readCampaign
  rw [run_bind, hread]

theorem readPage_run (h : s.Filed) {condition : ListCondition} {c : Task Tables Page} {p : Page}
    (hkeys : condition.Sorts) (hc : Idle c w.unit p) (hp : ∀ x ∈ p.campaigns, x.Refers) :
    (s.service cap now).readPage condition c w =
      (.ok { p with campaigns := p.campaigns.map s.current }, w.read) := by
  have hchecked : Idle (Task.obey condition.checkKeys) w () :=
    Task.idle_obey (ListCondition.checkKeys_ok.mpr hkeys)
  have hread : (s.service cap now).store.transact c w = (.ok p, w.read) := transact_of_idle hc
  have hrefresh : Idle ((s.service cap now).refresh p.campaigns) w.read _ :=
    idle_refresh h hp cap now _
  unfold Service.readPage
  rw [hchecked.run_bind, run_bind, hread]
  dsimp only
  rw [hrefresh.run_bind]
  rfl

/-- What is paired up are campaigns of the map, each with an assignee of it. -/
theorem mem_pairUp {m : Keyed CampaignId Campaign} {as : List Assignee} {p : Participation}
    (h : p ∈ pairUp m as) : p.assignee ∈ as ∧ m.get? p.assignee.campaign = some p.campaign := by
  induction as generalizing m with
  | nil => cases h
  | cons a rest ih =>
    unfold pairUp at h
    cases hget : m.get? a.campaign with
    | none =>
      rw [hget] at h
      obtain ⟨ha, hm⟩ := ih h
      exact ⟨List.mem_cons_of_mem a ha, hm⟩
    | some c =>
      rw [hget] at h
      rcases List.mem_cons.mp h with rfl | h
      · exact ⟨List.mem_cons_self, hget⟩
      · obtain ⟨ha, hm⟩ := ih h
        exact ⟨List.mem_cons_of_mem a ha, (Keyed.get?_erase_some.mp hm).1⟩

/-- The campaigns that a blogger takes part in are read as they are now, those that are closed left
out, and paired up with the blogger's rows. -/
theorem readParticipations_eq (h : s.Filed) (hw : ∀ c ∈ w.state.tables.campaigns, c.Refers)
    (cap : Nat) (now : Instant) (b : BloggerId) :
    (s.service cap now).readParticipations b w =
      (.ok (pairUp (Keyed.ofList (((w.state.tables.openAmong ((w.state.tables.bloggerRows b).map
        Assignee.campaign)).map s.current).map fun c => (c.id, c))) (w.state.tables.bloggerRows b)),
        w.read) := by
  let assignees := w.state.tables.bloggerRows b
  let campaigns := w.state.tables.openAmong (assignees.map Assignee.campaign)
  have hbody : (s.service cap now).store.transact (do
      let assignees : List Assignee ← (s.service cap now).store.call (.participations b)
      let campaigns : List Campaign ← (s.service cap now).store.call
        (.campaignsAmong (assignees.map Assignee.campaign) false)
      return (assignees, campaigns)) w = (.ok (assignees, campaigns), w.read) :=
    transact_of_idle (.bind (Call.idle rfl) (.bind (Call.idle rfl) .pure))
  have hrefresh : Idle ((s.service cap now).refresh campaigns) w.read _ :=
    idle_refresh h (fun c hc => hw c (List.mem_filter.mp hc).1) cap now _
  unfold Service.readParticipations
  rw [run_bind, hbody]
  dsimp only
  rw [hrefresh.run_bind]
  rfl

/-- What is read are rows of the blogger, each with its campaign. -/
theorem readParticipations_run (h : s.Filed) (hw : ∀ c ∈ w.state.tables.campaigns, c.Refers)
    (cap : Nat) (now : Instant) (b : BloggerId) :
    ∃ ps, (s.service cap now).readParticipations b w = (.ok ps, w.read) ∧
      ∀ p ∈ ps, p.assignee ∈ w.state.tables.assignees ∧ p.assignee.blogger = b ∧
        ∃ c ∈ w.state.tables.campaigns, c.id = p.assignee.campaign ∧ p.campaign = s.current c := by
  refine ⟨_, readParticipations_eq h hw cap now b, fun p hp => ?_⟩
  obtain ⟨ha, hc⟩ := mem_pairUp hp
  obtain ⟨hmem, hb⟩ := List.mem_filter.mp ha
  obtain ⟨c', hc', hpair⟩ := List.mem_map.mp (Keyed.mem_of_get?_ofList hc)
  obtain ⟨hid, rfl⟩ := Prod.mk.inj hpair
  obtain ⟨c, hstored, hcurrent⟩ := List.mem_map.mp hc'
  rw [← hcurrent] at hid
  exact ⟨hmem, by simpa using hb, c, (List.mem_filter.mp hstored).1, hid, hcurrent.symm⟩

end Shelf

/-! ## All ways of reading -/

/-- A campaign as it is read differs from the stored one in the descriptions of its products only:
the catalog's products come in their place, where the catalog has them. -/
structure Shelf.Refreshes (s : Shelf) (stored c : Campaign) : Prop where
  rest : c = { stored with item := c.item, variant := c.variant }
  item : c.item = (s.items.get? stored.item.id).getD stored.item
  variant : c.variant = stored.variant.map fun v => (s.variants.get? v.id).getD v
  itemId : c.item.id = stored.item.id
  variantId : c.variant.map Variant.id = stored.variant.map Variant.id

theorem Shelf.refreshes_current {s : Shelf} (h : s.Filed) (c : Campaign) :
    s.Refreshes c (s.current c) where
  rest := rfl
  item := rfl
  variant := rfl
  itemId := current_item_id h c
  variantId := current_variant_id h c

/-- Each of the campaigns is what is read when it alone is asked for, and they are up to date. -/
structure Service.Agrees (s : Service Memory Tables) (w : World Memory) (cs : List Campaign) :
    Prop where
  single : ∀ c ∈ cs, (s.ask (.campaign c.id) w).1 = .ok (.campaign c)
  settled : s.refresh cs w = (.ok cs, w)

/-- The answer to a query for a page of campaigns, which are the ones of a stored page. -/
def Service.AnswersPage (s : Service Memory Tables) (w : World Memory) (q : Query)
    (condition : ListCondition) (stored : Page) : Prop :=
  (condition.Sorts ∧ ∃ p, (s.ask q w).1 = .ok (.page p) ∧ p.total = stored.total ∧
    p.campaigns.map Campaign.id = stored.campaigns.map Campaign.id ∧ s.Agrees w p.campaigns) ∨
  (¬ condition.Sorts ∧ ∃ rule, (s.ask q w).1 = .error (.validation rule))

/-- A campaign looks the same on every way of reading it, and reading changes no row. -/
structure ReadsAgree (shelf : Shelf) (s : Service Memory Tables) (w : World Memory) : Prop where
  present : ∀ id stored, w.state.tables.campaign? id = some stored →
    ∃ c, (s.ask (.campaign id) w).1 = .ok (.campaign c) ∧ shelf.Refreshes stored c ∧
      s.refresh [c] w = (.ok [c], w)
  absent : ∀ id, w.state.tables.campaign? id = none →
    (s.ask (.campaign id) w).1 = .error (.notFound (.campaign id))
  list : ∀ condition,
    s.AnswersPage w (.campaigns condition) condition
      (w.state.tables.page (fun _ => true) condition)
  search : ∀ criteria condition,
    s.AnswersPage w (.search criteria condition) condition
      (w.state.tables.page criteria.admits condition)
  participations : ∀ b, ∃ ps, (s.ask (.participations b) w).1 = .ok (.participations ps) ∧
    s.Agrees w (ps.map Participation.campaign) ∧
    ∀ p ∈ ps, p.assignee ∈ w.state.tables.assignees ∧ p.assignee.blogger = b ∧
      p.assignee.campaign = p.campaign.id
  rows : ∀ q, (s.ask q w).2.state.tables = w.state.tables

section Reads

variable {s : Shelf} {cap : Nat} {now : Instant} {w : World Memory}

/-- What is read of stored campaigns agrees with what is read of each. -/
theorem agrees_of_stored (h : s.Filed) (hids : (w.state.tables.campaigns.map Campaign.id).Nodup)
    (hw : ∀ c ∈ w.state.tables.campaigns, c.Refers) {cs : List Campaign}
    (hcs : ∀ c ∈ cs, ∃ stored ∈ w.state.tables.campaigns, c = s.current stored) :
    (s.service cap now).Agrees w cs := by
  constructor
  · intro c hc
    obtain ⟨stored, hstored, rfl⟩ := hcs c hc
    have hfound : w.state.tables.campaign? (s.current stored).id = some stored :=
      find?_key hids hstored
    simp only [Service.ask]
    rw [run_map, Shelf.readCampaign_stored h (hw stored hstored) hfound]
    rfl
  · have hrefers : ∀ c ∈ cs, c.Refers := by
      intro c hc
      obtain ⟨stored, hstored, rfl⟩ := hcs c hc
      exact Shelf.current_refers h (hw stored hstored)
    have hsame : cs.map s.current = cs := by
      conv => rhs; rw [← List.map_id cs]
      refine List.map_congr_left fun c hc => ?_
      obtain ⟨stored, _, rfl⟩ := hcs c hc
      exact Shelf.current_current h stored
    have hidle := Shelf.idle_refresh (w := w) h hrefers cap now
    rw [hsame] at hidle
    exact hidle

theorem answersPage (h : s.Filed) (hids : (w.state.tables.campaigns.map Campaign.id).Nodup)
    (hw : ∀ c ∈ w.state.tables.campaigns, c.Refers) {q : Query} {condition : ListCondition}
    {p : Campaign → Bool} {c : Task Tables Page}
    (hq : (s.service cap now).ask q = .page <$> (s.service cap now).readPage condition c)
    (hc : Idle c w.unit (w.state.tables.page p condition)) :
    (s.service cap now).AnswersPage w q condition (w.state.tables.page p condition) := by
  have hstored : ∀ x ∈ (w.state.tables.page p condition).campaigns, x ∈ w.state.tables.campaigns :=
    fun x => Tables.mem_page
  unfold Service.AnswersPage
  rw [hq]
  by_cases hkeys : condition.Sorts
  · left
    refine ⟨hkeys, { w.state.tables.page p condition with
      campaigns := (w.state.tables.page p condition).campaigns.map s.current }, ?_, rfl, ?_, ?_⟩
    · rw [run_map, Shelf.readPage_run h hkeys hc fun x hx => hw x (hstored x hx)]
      rfl
    · rw [List.map_map]
      rfl
    · refine agrees_of_stored h hids hw fun x hx => ?_
      obtain ⟨x, hmem, rfl⟩ := List.mem_map.mp hx
      exact ⟨x, hstored x hmem, rfl⟩
  · right
    refine ⟨hkeys, ?_⟩
    cases hcheck : condition.checkKeys with
    | ok u => exact absurd (ListCondition.checkKeys_ok.mp hcheck) hkeys
    | error rule =>
      refine ⟨rule, ?_⟩
      have hobey : Task.obey condition.checkKeys w = (.error (.validation rule), w) := by
        rw [hcheck]
        rfl
      rw [run_map]
      unfold Service.readPage
      rw [run_bind, hobey]
      rfl

/-- After every history of commands, with every catalog held in memory, a campaign looks the same
whether it is read alone, on a page or among those of a blogger. What is read is the stored campaign
with the catalog's products where the catalog has them, under the same identifiers; refreshed again
it stays the same. No query changes a stored row. -/
theorem campaign_reads_agree (history : List Visit) (items : List Item) (variants : List Variant)
    (cap : Nat) (now : Instant) :
    ReadsAgree (.stocked items variants) ((Shelf.stocked items variants).service cap now)
      (World.start.after history) := by
  have h := Shelf.filed_stocked items variants
  have hids := (sound_after history).campaigns.nodup
  have hw : ∀ c ∈ (World.start.after history).state.tables.campaigns, c.Refers := fun c hc =>
    ((committed_rows_valid history).campaigns c hc).refers
  constructor
  case present =>
    intro id stored hstored
    obtain ⟨hmem, _⟩ := Tables.campaign?_mem hstored
    refine ⟨(Shelf.stocked items variants).current stored, ?_, Shelf.refreshes_current h stored, ?_⟩
    · simp only [Service.ask]
      rw [run_map, Shelf.readCampaign_stored h (hw stored hmem) hstored]
      rfl
    · refine (agrees_of_stored h hids hw fun c hc => ?_).settled
      exact ⟨stored, hmem, List.mem_singleton.mp hc⟩
  case absent =>
    intro id hnone
    simp only [Service.ask]
    rw [run_map, Shelf.readCampaign_missing hnone]
    rfl
  case list => exact fun condition => answersPage h hids hw rfl (Call.idle rfl)
  case search => exact fun criteria condition => answersPage h hids hw rfl (Call.idle rfl)
  case participations =>
    intro b
    obtain ⟨ps, hread, hps⟩ := Shelf.readParticipations_run h hw cap now b
    refine ⟨ps, ?_, ?_, fun p hp => ?_⟩
    · simp only [Service.ask]
      rw [run_map, hread]
      rfl
    · refine agrees_of_stored h hids hw fun c hc => ?_
      obtain ⟨p, hp, rfl⟩ := List.mem_map.mp hc
      obtain ⟨_, _, stored, hstored, _, hcurrent⟩ := hps p hp
      exact ⟨stored, hstored, hcurrent⟩
    · obtain ⟨ha, hb, stored, _, hid, hcurrent⟩ := hps p hp
      refine ⟨ha, hb, ?_⟩
      rw [hcurrent, ← hid]
      rfl
  case rows => exact fun q => Untouched.ask q _

/-- A catalog in which the item of the campaign has a name. -/
def renamedItem : Item := { Item.placeholder ⟨"item"⟩ with name := "renamed" }

/-- A campaign that was saved with an item without a name is read with the name that it has now,
alone and in a list. -/
theorem campaign_reads_agree_of_renamed :
    ∃ c, (((Shelf.stocked [renamedItem] []).service standardAssigneeCap ⟨1, 0⟩).ask
        (.campaign ⟨"id-0001"⟩)
        (World.start.after [visitAt 0 (.save reviewingRequest)])).1 = .ok (.campaign c) ∧
      c.item = renamedItem ∧
      ∃ p, (((Shelf.stocked [renamedItem] []).service standardAssigneeCap ⟨1, 0⟩).ask
          (.campaigns ⟨0, 10, [⟨"name", true⟩]⟩)
          (World.start.after [visitAt 0 (.save reviewingRequest)])).1 = .ok (.page p) ∧
        p.campaigns = [c] := by
  have hagree := campaign_reads_agree [visitAt 0 (.save reviewingRequest)] [renamedItem] []
    standardAssigneeCap ⟨1, 0⟩
  have hitem : ((World.start.after [visitAt 0 (.save reviewingRequest)]).state.tables.campaign?
      ⟨"id-0001"⟩).map (fun c => c.item.id) = some ⟨"item"⟩ := by decide +kernel
  have hids : ((World.start.after [visitAt 0 (.save reviewingRequest)]).state.tables.page
      (fun _ => true) ⟨0, 10, [⟨"name", true⟩]⟩).campaigns.map Campaign.id = [⟨"id-0001"⟩] := by
    decide +kernel
  have hkeys : (⟨0, 10, [⟨"name", true⟩]⟩ : ListCondition).Sorts := by
    intro k hk
    rw [List.mem_singleton.mp hk]
    rfl
  obtain ⟨stored, hstored, hid⟩ := Option.map_eq_some_iff.mp hitem
  obtain ⟨c, hc, hrefreshes, _⟩ := hagree.present _ stored hstored
  rcases hagree.list ⟨0, 10, [⟨"name", true⟩]⟩ with ⟨_, p, hp, _, hpids, halike⟩ | ⟨hno, _⟩
  · refine ⟨c, hc, ?_, p, hp, ?_⟩
    · rw [hrefreshes.item, hid]
      rfl
    · obtain ⟨x, hx, hxid⟩ := List.map_eq_singleton_iff.mp (hpids.trans hids)
      have hsame := halike.single x (by rw [hx]; exact List.mem_singleton_self x)
      rw [hxid, hc] at hsame
      cases hsame
      exact hx
  · exact absurd hkeys hno

end Reads

end Sponsorship
