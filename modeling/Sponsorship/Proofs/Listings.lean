import Sponsorship.Proofs.Reading
import Sponsorship.Wire.Participation

/-!
# Sponsorship.Proofs.Listings

What the pages of a list of campaigns amount to, one after the other.

* `CampaignKey.Less`, `CampaignKey.Same`: two campaigns compared by one of their fields.
* `Precedes`, `Tied`: the order by several keys, of which the first that tells two campaigns apart
  decides, and what none of them tells apart.
* `sortCampaigns_ordered`: sorting by one key after the other, the last one first, gives this order.
  It rests on the stability of each sort.
* `Campaign.Older`: a campaign was created before another; `aged_after`: rows stand in this order.
* `Lists`, `Browses`: a list that has every campaign once, and the pages that it comes in.
* `pages_cover`: the pages of lists and searches after every history.
-/

namespace Sponsorship

open Text Time

/-! ## The order by several keys -/

namespace CampaignKey

/-- The fields that campaigns can be sorted by. -/
def names : List String := ["created_at", "name", "id"]

theorem ofName?_isSome_iff {s : String} : (ofName? s).isSome = true ↔ s ∈ names := by
  unfold ofName? names
  split <;> simp_all

/-- One campaign has the smaller value of a field. -/
def Less : CampaignKey → Campaign → Campaign → Prop
  | .createdAt, a, b => a.createdAt.before b.createdAt = true
  | .name, a, b => a.name < b.name
  | .id, a, b => a.id.text < b.id.text

def Same : CampaignKey → Campaign → Campaign → Prop
  | .createdAt, a, b => a.createdAt = b.createdAt
  | .name, a, b => a.name = b.name
  | .id, a, b => a.id = b.id

end CampaignKey

/-- The key puts one campaign before the other. -/
def SortKey.Before (k : SortKey) (a b : Campaign) : Prop :=
  ∃ key, CampaignKey.ofName? k.name = some key ∧ if k.descending then key.Less b a else key.Less a b

/-- The key does not tell two campaigns apart. -/
def SortKey.Ties (k : SortKey) (a b : Campaign) : Prop :=
  ∃ key, CampaignKey.ofName? k.name = some key ∧ key.Same a b

/-- The first of the keys that tells two campaigns apart puts one before the other. -/
inductive Precedes : List SortKey → Campaign → Campaign → Prop
  | first {k : SortKey} {rest : List SortKey} {a b : Campaign} (h : k.Before a b) :
      Precedes (k :: rest) a b
  | later {k : SortKey} {rest : List SortKey} {a b : Campaign} (h : k.Ties a b)
      (hrest : Precedes rest a b) : Precedes (k :: rest) a b

/-- None of the keys tells two campaigns apart. -/
def Tied (keys : List SortKey) (a b : Campaign) : Prop := ∀ k ∈ keys, k.Ties a b

/-! ## One key -/

theorem compare_texts_eq_gt {a b : String} : compare a b = .gt ↔ b < a := by
  refine compareOfLessAndEq_eq_gt_of_lt_iff_not_gt_and_ne fun x y => ⟨fun h => ?_, fun h => ?_⟩
  · exact ⟨String.lt_asymm h, String.ne_of_lt h⟩
  · have hle := String.not_lt.mp h.1
    exact Decidable.byContradiction fun hge => h.2 (String.le_antisymm hle (String.not_lt.mp hge))

namespace CampaignKey

variable {key : CampaignKey} {a b c : Campaign}

theorem less_asymm (h : key.Less a b) : ¬ key.Less b a := by
  cases key with
  | createdAt =>
    simp only [Less, Instant.before, Bool.or_eq_true, Bool.and_eq_true, decide_eq_true_eq] at h ⊢
    omega
  | name => exact String.lt_asymm h
  | id => exact String.lt_asymm h

/-- What is not smaller than something that is not smaller than a third is not smaller than it. -/
theorem not_less_trans (hab : ¬ key.Less b a) (hbc : ¬ key.Less c b) : ¬ key.Less c a := by
  cases key with
  | createdAt =>
    simp only [Less, Instant.before, Bool.or_eq_true, Bool.and_eq_true, decide_eq_true_eq]
      at hab hbc ⊢
    omega
  | name =>
    exact String.not_lt.mpr (String.le_trans (String.not_lt.mp hab) (String.not_lt.mp hbc))
  | id => exact String.not_lt.mpr (String.le_trans (String.not_lt.mp hab) (String.not_lt.mp hbc))

theorem same_of_not_less (hab : ¬ key.Less a b) (hba : ¬ key.Less b a) : key.Same a b := by
  cases key with
  | createdAt =>
    simp only [Less, Instant.before, Bool.or_eq_true, Bool.and_eq_true, decide_eq_true_eq]
      at hab hba
    have hseconds : a.createdAt.seconds = b.createdAt.seconds := by omega
    have hnanos : a.createdAt.nanos = b.createdAt.nanos := by omega
    exact congrArg₂ Instant.mk hseconds hnanos
  | name => exact String.le_antisymm (String.not_lt.mp hba) (String.not_lt.mp hab)
  | id =>
    have hsame := String.le_antisymm (String.not_lt.mp hba) (String.not_lt.mp hab)
    exact congrArg Id.mk hsame

end CampaignKey

namespace SortKey

variable {k : SortKey} {key : CampaignKey} {a b c : Campaign}

theorem before_iff (hk : CampaignKey.ofName? k.name = some key) :
    k.Before a b ↔ if k.descending then key.Less b a else key.Less a b := by
  simp [Before, hk]

theorem compareAscending_eq_gt (hk : CampaignKey.ofName? k.name = some key) :
    k.compareAscending a b = .gt ↔ key.Less b a := by
  cases key with
  | createdAt =>
    simp only [compareAscending, hk, CampaignKey.Less]
    have hasymm : CampaignKey.createdAt.Less a b → ¬ CampaignKey.createdAt.Less b a :=
      CampaignKey.less_asymm
    simp only [CampaignKey.Less] at hasymm
    by_cases hab : a.createdAt.before b.createdAt = true
    · simp [hab, hasymm hab]
    · by_cases hba : b.createdAt.before a.createdAt = true <;> simp [hab, hba]
  | name => simp only [compareAscending, hk, CampaignKey.Less, compare_texts_eq_gt]
  | id => simp only [compareAscending, hk, CampaignKey.Less, compare_texts_eq_gt]

/-- A campaign may come before another unless the key puts it after. -/
theorem allows_iff (hk : CampaignKey.ofName? k.name = some key) :
    k.allows a b = true ↔ ¬ k.Before b a := by
  rw [before_iff hk]
  unfold allows
  cases k.descending <;> simp [compareAscending_eq_gt hk]

theorem allows_total (hk : CampaignKey.ofName? k.name = some key) (a b : Campaign) :
    (k.allows a b || k.allows b a) = true := by
  rw [Bool.or_eq_true, allows_iff hk, allows_iff hk, ← not_and_or, before_iff hk, before_iff hk]
  rintro ⟨hba, hab⟩
  split at hba <;> rename_i hdescending <;> simp only [hdescending] at hab
  · exact CampaignKey.less_asymm hba hab
  · exact CampaignKey.less_asymm hba hab

theorem allows_trans (hk : CampaignKey.ofName? k.name = some key) (a b c : Campaign)
    (hab : k.allows a b = true) (hbc : k.allows b c = true) : k.allows a c = true := by
  rw [allows_iff hk, before_iff hk] at hab hbc ⊢
  cases hdescending : k.descending with
  | true =>
    simp only [hdescending, if_true] at hab hbc ⊢
    exact CampaignKey.not_less_trans hbc hab
  | false =>
    simp only [hdescending] at hab hbc ⊢
    exact CampaignKey.not_less_trans hab hbc

theorem ties_of_allows (hk : CampaignKey.ofName? k.name = some key) (hab : k.allows a b = true)
    (hba : k.allows b a = true) : k.Ties a b := by
  rw [allows_iff hk, before_iff hk] at hab hba
  refine ⟨key, hk, ?_⟩
  cases hdescending : k.descending with
  | true =>
    simp only [hdescending, if_true] at hab hba
    exact CampaignKey.same_of_not_less hab hba
  | false =>
    simp only [hdescending] at hab hba
    exact CampaignKey.same_of_not_less hba hab

end SortKey

/-! ## Sorting -/

/-- Of two entries of a list one stands before the other. -/
theorem pair_sublist_or {α : Type} {l : List α} {a b : α} (ha : a ∈ l) (hb : b ∈ l) (hne : a ≠ b) :
    [a, b].Sublist l ∨ [b, a].Sublist l := by
  induction l with
  | nil => cases ha
  | cons x rest ih =>
    by_cases hax : a = x
    · subst hax
      have hbrest := (List.mem_cons.mp hb).resolve_left hne.symm
      exact .inl ((List.singleton_sublist.mpr hbrest).cons_cons a)
    have harest := (List.mem_cons.mp ha).resolve_left hax
    by_cases hbx : b = x
    · subst hbx
      exact .inr ((List.singleton_sublist.mpr harest).cons_cons b)
    have hbrest := (List.mem_cons.mp hb).resolve_left hbx
    exact (ih harest hbrest).imp (·.cons x) (·.cons x)

theorem not_pair_sublist_swap {α : Type} {l : List α} {a b : α} (hl : l.Nodup)
    (hab : [a, b].Sublist l) : ¬ [b, a].Sublist l := by
  induction l with
  | nil => cases hab
  | cons x rest ih =>
    rw [List.nodup_cons] at hl
    intro hba
    cases hab with
    | cons _ hab =>
      cases hba with
      | cons _ hba => exact ih hl.2 hab hba
      | cons_cons _ hba => exact hl.1 (hab.subset (by simp))
    | cons_cons _ hab =>
      cases hba with
      | cons _ hba => exact hl.1 (hba.subset (by simp))
      | cons_cons _ hba => exact hl.1 (hab.subset (by simp))

/-- A stable sort keeps the order of two entries between which it has no choice. -/
theorem pair_sublist_of_mergeSort {α : Type} {le : α → α → Bool} {l : List α} {a b : α}
    (htrans : ∀ a b c, le a b = true → le b c = true → le a c = true)
    (htotal : ∀ a b, (le a b || le b a) = true) (hl : l.Nodup)
    (hsorted : [a, b].Sublist (l.mergeSort le)) (hba : le b a = true) : [a, b].Sublist l := by
  have hnodup : (l.mergeSort le).Nodup := (List.mergeSort_perm l le).nodup_iff.mpr hl
  have hmem : ∀ x ∈ [a, b], x ∈ l := fun x hx => List.mem_mergeSort.mp (hsorted.subset hx)
  have hne : a ≠ b := by
    rintro rfl
    exact not_pair_sublist_swap hnodup hsorted hsorted
  rcases pair_sublist_or (hmem a (by simp)) (hmem b (by simp)) hne with h | h
  · exact h
  · have hswap := List.pair_sublist_mergeSort htrans htotal hba h
    exact absurd hswap (not_pair_sublist_swap hnodup hsorted)

theorem sortCampaigns_perm (keys : List SortKey) (cs : List Campaign) :
    (sortCampaigns keys cs).Perm cs := by
  unfold sortCampaigns
  induction keys with
  | nil => exact .refl cs
  | cons k rest ih => exact (List.mergeSort_perm _ _).trans ih

/-- Of two campaigns in a sorted list the first precedes the other by the keys, or they are tied and
stand as they stood. -/
theorem sortCampaigns_ordered {keys : List SortKey} (hkeys : ∀ k ∈ keys, k.name ∈ CampaignKey.names)
    {cs : List Campaign} (hcs : cs.Nodup) {a b : Campaign}
    (hab : [a, b].Sublist (sortCampaigns keys cs)) :
    Precedes keys a b ∨ Tied keys a b ∧ [a, b].Sublist cs := by
  induction keys generalizing a b with
  | nil => exact .inr ⟨nofun, hab⟩
  | cons k rest ih =>
    obtain ⟨key, hk⟩ := Option.isSome_iff_exists.mp
      (CampaignKey.ofName?_isSome_iff.mpr (hkeys k List.mem_cons_self))
    have hnodup : (sortCampaigns rest cs).Nodup := (sortCampaigns_perm rest cs).nodup_iff.mpr hcs
    change [a, b].Sublist ((sortCampaigns rest cs).mergeSort k.allows) at hab
    have hallowed : k.allows a b = true := List.pairwise_iff_forall_sublist.mp
      (List.pairwise_mergeSort (SortKey.allows_trans hk) (SortKey.allows_total hk) _) hab
    by_cases hbefore : k.Before a b
    · exact .inl (.first hbefore)
    · have hback : k.allows b a = true := (SortKey.allows_iff hk).mpr hbefore
      have hties := SortKey.ties_of_allows hk hallowed hback
      have hkept := pair_sublist_of_mergeSort (SortKey.allows_trans hk) (SortKey.allows_total hk)
        hnodup hab hback
      rcases ih (fun k' hk' => hkeys k' (List.mem_cons_of_mem k hk')) hkept with hprecedes | ⟨htied, hstood⟩
      · exact .inl (.later hties hprecedes)
      · refine .inr ⟨fun k' hk' => ?_, hstood⟩
        rcases List.mem_cons.mp hk' with rfl | hk'
        · exact hties
        · exact htied k' hk'

/-! ## The order of rows -/

/-- One identifier was taken from the supply before the other. -/
def Ids.Earlier (ids : Ids) {kind : Named} (x y : Id kind) : Prop :=
  ∃ m n, m < n ∧ x.text = ids.name m ∧ y.text = ids.name n

/-- The campaigns stand in the order in which their identifiers were taken. -/
def Aged (w : World Tables) : Prop := (w.state.campaigns.map Campaign.id).Pairwise w.ids.Earlier

namespace Aged

variable {w w' : World Tables} {now : Instant} {r : SaveRequest} {id : CampaignId}

theorem of_sublist (h : Aged w) (hname : w'.ids.name = w.ids.name)
    (hsub : (w'.state.campaigns.map Campaign.id).Sublist (w.state.campaigns.map Campaign.id)) :
    Aged w' := by
  unfold Aged Ids.Earlier
  rw [hname]
  exact h.sublist hsub

theorem putCampaign (h : Aged w) (c : Campaign) :
    Aged { w with state := w.state.putCampaign c } := by
  refine h.of_sublist rfl ?_
  have hids : (w.state.putCampaign c).campaigns.map Campaign.id = w.state.campaigns.map Campaign.id :=
    map_amend fun a _ hid => hid.symm
  rw [hids]

theorem addCampaign (h : Aged w) (hw : Sound w) {c : Campaign} (hc : c.id = w.ids.next.1) {ids : Ids}
    (hname : ids.name = w.ids.name) : Aged { ids, state := w.state.addCampaign c } := by
  change ((w.state.campaigns ++ [c]).map Campaign.id).Pairwise ids.Earlier
  unfold Ids.Earlier
  rw [hname, List.map_append, List.pairwise_append]
  refine ⟨h, List.pairwise_singleton _ _, fun x hx y hy => ?_⟩
  obtain ⟨m, hm, hxm⟩ := hw.campaigns.issued x hx
  rw [List.map_singleton, List.mem_singleton] at hy
  refine ⟨m, w.ids.issued, hm, hxm, ?_⟩
  rw [hy, hc]
  rfl

theorem advancing (h : Aged w) (hs : Advancing now id w w') : Aged w' := by
  have hname := hs.later.name
  cases hs with
  | answers hq ha hid hs hsheet =>
    rw [Tables.saveAnswers_eq]
    exact h
  | closes hc => exact h.putCampaign _
  | deletes => exact h.of_sublist rfl (List.filter_sublist.map _)
  | _ => exact h.of_sublist hname (.refl _)

theorem saving (h : Aged w) (hw : Sound w) (hs : Saving now r id w w') : Aged w' := by
  have hname := hs.later.name
  cases hs with
  | opens hr hopen hid => exact h.addCampaign hw (SaveRequest.opening_id hopen) hname
  | revises hr hc hrev => exact h.putCampaign _
  | _ => exact h.of_sublist hname (.refl _)

end Aged

theorem lasting_aged : Lasting Aged :=
  ⟨fun h hl => h.of_sublist hl.name (.refl _), fun _ h hs => h.advancing hs,
    fun hw h hs => h.saving hw hs⟩

/-- A campaign was created before another: identifiers are numbered in the order in which they are
taken. -/
def Campaign.Older (a b : Campaign) : Prop :=
  ∃ m n, m < n ∧ a.id.text = Ids.numbered m ∧ b.id.text = Ids.numbered n

/-- After every history the rows of campaigns stand in the order in which they were created. -/
theorem aged_after (history : List Visit) :
    (World.start.after history).state.tables.campaigns.Pairwise Campaign.Older := by
  have haged := lasting_aged.after (by exact .nil) history
  have hname : (World.start.after history).ids.name = Ids.numbered := (later_after history).name
  unfold Aged Ids.Earlier at haged
  rw [List.pairwise_map] at haged
  refine haged.imp fun {a b} hab => ?_
  unfold Campaign.Older
  rwa [← hname]

/-! ## Criteria -/

theorem Text.occursIn_iff {part whole : List Char} : occursIn part whole = true ↔ part <:+: whole := by
  induction whole with
  | nil => simp [occursIn]
  | cons c cs ih => simp [occursIn, ih, List.infix_cons_iff]

theorem Text.containsIgnoringCase_iff {whole part : String} : containsIgnoringCase whole part = true ↔
    (lowercase part).toList <:+: (lowercase whole).toList := occursIn_iff

/-- A campaign has what is looked for: each criterion that is given and is not empty. -/
structure SearchCriteria.Meets (criteria : SearchCriteria) (c : Campaign) : Prop where
  name : ∀ n, criteria.name = some n → n ≠ "" →
    (lowercase n).toList <:+: (lowercase c.name).toList
  item : ∀ id, criteria.item = some id → id.text ≠ "" →
    c.item.id.text.toList.map Char.toLower = id.text.toList.map Char.toLower
  variant : ∀ id, criteria.variant = some id → id.text ≠ "" → ∃ v, c.variant = some v ∧
    v.id.text.toList.map Char.toLower = id.text.toList.map Char.toLower

/-- What a text or an identifier has to satisfy if it is given. -/
theorem all_filter_iff {α : Type} {o : Option α} {given p : α → Bool} :
    (o.filter given).all p = true ↔ ∀ a, o = some a → given a = true → p a = true := by
  cases o with
  | none => simp
  | some a =>
    rw [Option.filter_some]
    split <;> simp_all

theorem SearchCriteria.admits_iff {criteria : SearchCriteria} {c : Campaign} :
    criteria.admits c = true ↔ criteria.Meets c := by
  have hname : criteria.givenName?.all (fun n => containsIgnoringCase c.name n) = true ↔
      ∀ n, criteria.name = some n → n ≠ "" →
        (lowercase n).toList <:+: (lowercase c.name).toList := by
    unfold givenName?
    rw [all_filter_iff]
    simp [containsIgnoringCase_iff]
  have hitem : criteria.givenItem?.all
        (fun id => equalsIgnoringAsciiCase c.item.id.text id.text) = true ↔
      ∀ id, criteria.item = some id → id.text ≠ "" →
        c.item.id.text.toList.map Char.toLower = id.text.toList.map Char.toLower := by
    unfold givenItem? Id.given?
    rw [all_filter_iff]
    simp [Id.isBlank, equalsIgnoringAsciiCase]
  have hvariant : criteria.givenVariant?.all
        (fun id => c.variant.any fun v => equalsIgnoringAsciiCase v.id.text id.text) = true ↔
      ∀ id, criteria.variant = some id → id.text ≠ "" → ∃ v, c.variant = some v ∧
        v.id.text.toList.map Char.toLower = id.text.toList.map Char.toLower := by
    unfold givenVariant? Id.given?
    rw [all_filter_iff]
    simp [Id.isBlank, equalsIgnoringAsciiCase, Option.any_eq_true]
  unfold admits
  rw [Bool.and_eq_true, Bool.and_eq_true, hname, hitem, hvariant]
  exact ⟨fun h => ⟨h.1.1, h.1.2, h.2⟩, fun h => ⟨⟨h.name, h.item⟩, h.variant⟩⟩

/-! ## Pages -/

/-- The whole list that the pages with `p` are cut from, as it is read. -/
def Shelf.listing (s : Shelf) (t : Tables) (p : Campaign → Bool) (keys : List SortKey) :
    List Campaign :=
  (sortCampaigns keys (t.campaigns.filter p)).map s.current

/-- A query for the campaigns with `p`, a page at a time. It reads and nothing else. -/
def Shelf.Asks (s : Shelf) (cap : Nat) (now : Instant) (query : ListCondition → Query)
    (p : Campaign → Bool) : Prop :=
  ∀ (condition : ListCondition) (w : World Memory), condition.Sorts →
    (∀ c ∈ w.state.tables.campaigns, c.Refers) →
    (s.service cap now).ask (query condition) w =
      (.ok (.page {
        campaigns := ((s.listing w.state.tables p condition.sorts).drop condition.offset).take
          condition.limit
        total := (s.listing w.state.tables p condition.sorts).length }), w.read)

section Pages

variable {s : Shelf} {cap : Nat} {now : Instant} {query : ListCondition → Query}
  {p : Campaign → Bool}

theorem asks_of_readPage (h : s.Filed) {call : ListCondition → Task Tables Page}
    (hquery : ∀ condition, (s.service cap now).ask (query condition) =
      .page <$> (s.service cap now).readPage condition (call condition))
    (hcall : ∀ condition (u : World Tables), Idle (call condition) u (u.state.page p condition)) :
    s.Asks cap now query p := by
  intro condition w hkeys hw
  have hstored : ∀ c ∈ (w.state.tables.page p condition).campaigns, c.Refers :=
    fun c hc => hw c (Tables.mem_page hc)
  rw [hquery, run_map, Shelf.readPage_run h hkeys (hcall condition w.unit) hstored]
  simp only [Tables.page, Shelf.listing, List.map_take, List.map_drop, List.length_map]
  rfl

theorem asks_campaigns (h : s.Filed) : s.Asks cap now .campaigns fun _ => true :=
  asks_of_readPage h (fun _ => rfl) fun _ _ => Call.idle rfl

theorem asks_search (h : s.Filed) (criteria : SearchCriteria) :
    s.Asks cap now (.search criteria) criteria.admits :=
  asks_of_readPage h (fun _ => rfl) fun _ _ => Call.idle rfl

/-- Pages that follow each other make up the front of the list. -/
theorem flatMap_pages {α : Type} (l : List α) (n m : Nat) :
    (List.range m).flatMap (fun k => (l.drop (k * n)).take n) = l.take (m * n) := by
  induction m with
  | zero => simp
  | succ m ih =>
    rw [List.range_succ, List.flatMap_append, ih, List.flatMap_singleton, Nat.succ_mul,
      List.take_add]

end Pages

/-- Pages of `n` campaigns that are asked for one after the other, up to `m` of them. -/
def Service.browse (s : Service Memory Tables) (query : ListCondition → Query) (keys : List SortKey)
    (n m : Nat) : Task Memory (List Answered) :=
  (List.range m).mapM fun k => s.ask (query { offset := k * n, limit := n, sorts := keys })

theorem Shelf.Asks.browse {s : Shelf} {cap : Nat} {now : Instant} {query : ListCondition → Query}
    {p : Campaign → Bool} (h : s.Asks cap now query p) {keys : List SortKey}
    (hkeys : ∀ k ∈ keys, k.name ∈ CampaignKey.names) (n m : Nat) {w : World Memory}
    (hw : ∀ c ∈ w.state.tables.campaigns, c.Refers) :
    ((s.service cap now).browse query keys n m w).1 = .ok ((List.range m).map fun k =>
      .page { campaigns := ((s.listing w.state.tables p keys).drop (k * n)).take n
              total := (s.listing w.state.tables p keys).length }) := by
  unfold Service.browse
  generalize List.range m = ks
  induction ks generalizing w with
  | nil => rfl
  | cons k rest ih =>
    have hsorts : (⟨k * n, n, keys⟩ : ListCondition).Sorts :=
      fun k hk => CampaignKey.ofName?_isSome_iff.mpr (hkeys k hk)
    have hrest := ih (w := w.read) hw
    rw [List.mapM_cons, run_bind, h _ w hsorts hw]
    dsimp only
    rw [run_bind]
    rcases hr : (rest.mapM fun k => (s.service cap now).ask (query ⟨k * n, n, keys⟩) :
        Task Memory (List Answered)) w.read with ⟨r, w'⟩
    rw [hr] at hrest
    obtain rfl := hrest
    rfl

/-- The page says how many campaigns it has and how many there are. -/
def Page.Reports (p : Page) (total : Nat) : Prop :=
  ∃ items, items.length = p.campaigns.length ∧ p.json = .object [("offer_items", .array items),
    ("list_result", .object [("count", .nat items.length), ("total_count", .nat total)])]

theorem Page.reports (p : Page) : p.Reports p.total := by
  refine ⟨p.campaigns.map Campaign.json, List.length_map _, ?_⟩
  rw [List.length_map]
  rfl

/-- A list that has every stored campaign that is wanted once, as it is now, in the order of the keys.
Those that no key tells apart stand in the order in which they were created. -/
structure Shelf.Lists (s : Shelf) (stored : List Campaign) (wanted : Campaign → Prop)
    (keys : List SortKey) (cs : List Campaign) : Prop where
  members : ∀ c, c ∈ cs ↔ ∃ row ∈ stored, wanted row ∧ c = s.current row
  once : (cs.map Campaign.id).Nodup
  sorted : cs.Pairwise fun a b => Precedes keys a b ∨ Tied keys a b ∧ a.Older b

/-- A list as it comes in pages. Pages of any size, asked for one after the other as long as their
offsets have at most 32 bits, make up the list as far as they reach. -/
structure Service.Browses (s : Service Memory Tables) (w : World Memory)
    (query : ListCondition → Query) (keys : List SortKey) (cs : List Campaign) : Prop where
  page : ∀ offset limit, ∃ p,
    (s.ask (query { offset, limit, sorts := keys }) w).1 = .ok (.page p) ∧
      p.campaigns = (cs.drop offset).take limit ∧ p.Reports cs.length
  pages : ∀ n, 0 < n → ∃ (m : Nat) (pages : List Page), (∀ k, k < m ↔ k * n ≤ 0xFFFFFFFF) ∧
    (s.browse query keys n m w).1 = .ok (pages.map .page) ∧
    (∀ p ∈ pages, p.Reports cs.length) ∧
    pages.flatMap Page.campaigns = cs.take (m * n) ∧
    (cs.length ≤ 0x100000000 → pages.flatMap Page.campaigns = cs)

section Listings

variable {s : Shelf} {cap : Nat} {now : Instant} {w : World Memory}
  {query : ListCondition → Query} {p : Campaign → Bool} {wanted : Campaign → Prop}
  {keys : List SortKey} {a b : Campaign}

/-- The catalog's products make no difference to the order. -/
theorem CampaignKey.less_current (key : CampaignKey) :
    key.Less (s.current a) (s.current b) ↔ key.Less a b := by
  cases key <;> rfl

theorem SortKey.before_current {k : SortKey} :
    k.Before (s.current a) (s.current b) ↔ k.Before a b := by
  unfold Before
  simp only [CampaignKey.less_current]

theorem SortKey.ties_current {k : SortKey} (h : k.Ties a b) :
    k.Ties (s.current a) (s.current b) := by
  obtain ⟨key, hk, hsame⟩ := h
  refine ⟨key, hk, ?_⟩
  cases key <;> exact hsame

theorem Precedes.current (h : Precedes keys a b) : Precedes keys (s.current a) (s.current b) := by
  induction h with
  | first h => exact .first (SortKey.before_current.mpr h)
  | later h _ ih => exact .later (SortKey.ties_current h) ih

theorem Shelf.mem_listing {t : Tables} (hp : ∀ c, p c = true ↔ wanted c) {c : Campaign} :
    c ∈ s.listing t p keys ↔ ∃ row ∈ t.campaigns, wanted row ∧ c = s.current row := by
  unfold Shelf.listing
  simp only [List.mem_map, mem_sortCampaigns, List.mem_filter, hp]
  constructor
  · rintro ⟨row, ⟨hrow, hwanted⟩, rfl⟩
    exact ⟨row, hrow, hwanted, rfl⟩
  · rintro ⟨row, hrow, hwanted, rfl⟩
    exact ⟨row, ⟨hrow, hwanted⟩, rfl⟩

theorem Shelf.lists_listing {t : Tables} (hids : (t.campaigns.map Campaign.id).Nodup)
    (haged : t.campaigns.Pairwise Campaign.Older) (hp : ∀ c, p c = true ↔ wanted c)
    (hkeys : ∀ k ∈ keys, k.name ∈ CampaignKey.names) :
    s.Lists t.campaigns wanted keys (s.listing t p keys) := by
  have hperm := sortCampaigns_perm keys (t.campaigns.filter p)
  have hfiltered : ((t.campaigns.filter p).map Campaign.id).Nodup :=
    hids.sublist (List.filter_sublist.map _)
  constructor
  case members => exact fun _ => Shelf.mem_listing hp
  case once =>
    unfold Shelf.listing
    rw [List.map_map]
    exact (hperm.map Campaign.id).nodup_iff.mpr hfiltered
  case sorted =>
    unfold Shelf.listing
    rw [List.pairwise_map, List.pairwise_iff_forall_sublist]
    intro a b hab
    rcases sortCampaigns_ordered hkeys hfiltered.of_map hab with hprecedes | ⟨htied, hstood⟩
    · exact .inl hprecedes.current
    · have holder : a.Older b :=
        List.pairwise_iff_forall_sublist.mp haged (hstood.trans List.filter_sublist)
      exact .inr ⟨fun k hk => SortKey.ties_current (htied k hk), holder⟩

theorem Shelf.Asks.browses (h : s.Asks cap now query p)
    (hw : ∀ c ∈ w.state.tables.campaigns, c.Refers)
    (hkeys : ∀ k ∈ keys, k.name ∈ CampaignKey.names) :
    (s.service cap now).Browses w query keys (s.listing w.state.tables p keys) := by
  constructor
  case page =>
    intro offset limit
    have hsorts : (⟨offset, limit, keys⟩ : ListCondition).Sorts :=
      fun k hk => CampaignKey.ofName?_isSome_iff.mpr (hkeys k hk)
    exact ⟨_, congrArg Prod.fst (h ⟨offset, limit, keys⟩ w hsorts hw), rfl, Page.reports _⟩
  case pages =>
    intro n hn
    have hfit : ∀ k, k < 0xFFFFFFFF / n + 1 ↔ k * n ≤ 0xFFFFFFFF := by
      intro k
      rw [Nat.lt_succ_iff, Nat.le_div_iff_mul_le hn]
    have hconcat := flatMap_pages (s.listing w.state.tables p keys) n (0xFFFFFFFF / n + 1)
    refine ⟨0xFFFFFFFF / n + 1, (List.range (0xFFFFFFFF / n + 1)).map fun k =>
      { campaigns := ((s.listing w.state.tables p keys).drop (k * n)).take n
        total := (s.listing w.state.tables p keys).length }, hfit, ?_, ?_, ?_, ?_⟩
    · rw [h.browse hkeys n _ hw, List.map_map]
      rfl
    · intro page hpage
      obtain ⟨k, _, rfl⟩ := List.mem_map.mp hpage
      exact Page.reports _
    · rw [List.flatMap_map]
      exact hconcat
    · intro hlength
      rw [List.flatMap_map]
      refine hconcat.trans (List.take_of_length_le ?_)
      have hreach : 0xFFFFFFFF < (0xFFFFFFFF / n + 1) * n := by
        rw [← not_le, ← hfit]
        exact Nat.lt_irrefl _
      omega

theorem ListCondition.checkKeys_error {condition : ListCondition} {front back : List SortKey}
    {k : SortKey} (hsorts : condition.sorts = front ++ k :: back)
    (hfront : ∀ x ∈ front, x.name ∈ CampaignKey.names) (hk : k.name ∉ CampaignKey.names) :
    condition.checkKeys = .error (.sortKeyUnknown k.name) := by
  have hunknown : k.campaignKey = .error (.sortKeyUnknown k.name) := by
    unfold SortKey.campaignKey
    rw [Option.not_isSome_iff_eq_none.mp (CampaignKey.ofName?_isSome_iff.not.mpr hk)]
  have hknown : ∀ x ∈ front, ∃ key, x.campaignKey = .ok key := by
    intro x hx
    obtain ⟨key, hkey⟩ := Option.isSome_iff_exists.mp
      (CampaignKey.ofName?_isSome_iff.mpr (hfront x hx))
    refine ⟨key, ?_⟩
    unfold SortKey.campaignKey
    rw [hkey]
  unfold checkKeys
  rw [hsorts, Except.mapM_error hknown hunknown]
  rfl

/-- A query is refused for the first key that campaigns cannot be sorted by, wherever it stands. -/
def Service.Refuses (s : Service Memory Tables) (w : World Memory) (query : ListCondition → Query) :
    Prop :=
  ∀ offset limit keys, (∃ k ∈ keys, k.name ∉ CampaignKey.names) → ∃ front k back,
    keys = front ++ k :: back ∧ (∀ x ∈ front, x.name ∈ CampaignKey.names) ∧
      k.name ∉ CampaignKey.names ∧
      (s.ask (query { offset, limit, sorts := keys }) w).1 =
        .error (.validation (.sortKeyUnknown k.name))

theorem refuses_of_readPage {call : ListCondition → Task Tables Page}
    (hquery : ∀ condition, (s.service cap now).ask (query condition) =
      .page <$> (s.service cap now).readPage condition (call condition)) :
    (s.service cap now).Refuses w query := by
  intro offset limit keys hkeys
  obtain ⟨k, hk⟩ := Option.isSome_iff_exists.mp (List.find?_isSome
    (p := fun k : SortKey => decide (k.name ∉ CampaignKey.names)) |>.mpr (by simpa using hkeys))
  obtain ⟨hbad, front, back, hsplit, hfront⟩ := List.find?_eq_some_iff_append.mp hk
  have hgood : ∀ x ∈ front, x.name ∈ CampaignKey.names := by simpa using hfront
  have hbad : k.name ∉ CampaignKey.names := by simpa using hbad
  have hcheck : ListCondition.checkKeys ⟨offset, limit, keys⟩ = .error (.sortKeyUnknown k.name) :=
    ListCondition.checkKeys_error hsplit hgood hbad
  have hobey : Task.obey (ListCondition.checkKeys ⟨offset, limit, keys⟩) w =
      (.error (.validation (.sortKeyUnknown k.name)), w) := by
    rw [hcheck]
    rfl
  refine ⟨front, k, back, hsplit, hgood, hbad, ?_⟩
  rw [hquery, run_map]
  unfold Service.readPage
  rw [run_bind, hobey]
  rfl

/-- What pages of lists and searches amount to. -/
structure PagesCover (s : Shelf) (service : Service Memory Tables) (w : World Memory) : Prop where
  list : ∀ keys, (∀ k ∈ keys, k.name ∈ CampaignKey.names) → ∃ cs,
    s.Lists w.state.tables.campaigns (fun _ => True) keys cs ∧ service.Browses w .campaigns keys cs
  search : ∀ criteria keys, (∀ k ∈ keys, k.name ∈ CampaignKey.names) → ∃ cs,
    s.Lists w.state.tables.campaigns criteria.Meets keys cs ∧
      service.Browses w (.search criteria) keys cs
  refused : service.Refuses w .campaigns ∧ ∀ criteria, service.Refuses w (.search criteria)

/-- After every history of commands, with every catalog held in memory, the pages of a list have every
campaign once, and the pages of a search every campaign that meets all criteria that are given and are
not empty. The order is that of the keys, and then that of creation. Every page says how many campaigns
it has and how many the whole list has. Keys other than the three fields are refused. -/
theorem pages_cover (history : List Visit) (items : List Item) (variants : List Variant) (cap : Nat)
    (now : Instant) :
    PagesCover (.stocked items variants) ((Shelf.stocked items variants).service cap now)
      (World.start.after history) := by
  have h := Shelf.filed_stocked items variants
  have hids := (sound_after history).campaigns.nodup
  have haged := aged_after history
  have hw : ∀ c ∈ (World.start.after history).state.tables.campaigns, c.Refers := fun c hc =>
    ((committed_rows_valid history).campaigns c hc).refers
  constructor
  case list =>
    intro keys hkeys
    exact ⟨_, Shelf.lists_listing hids haged (fun _ => by simp) hkeys,
      (asks_campaigns h).browses hw hkeys⟩
  case search =>
    intro criteria keys hkeys
    exact ⟨_, Shelf.lists_listing hids haged (fun _ => SearchCriteria.admits_iff) hkeys,
      (asks_search h criteria).browses hw hkeys⟩
  case refused =>
    exact ⟨refuses_of_readPage fun _ => rfl, fun criteria => refuses_of_readPage fun _ => rfl⟩

end Listings

end Sponsorship
