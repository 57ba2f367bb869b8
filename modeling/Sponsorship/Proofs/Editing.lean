import Sponsorship.Proofs.Attempts
import Sponsorship.Proofs.History
import Sponsorship.Proofs.Rules

/-!
# Sponsorship.Proofs.Editing

A campaign that is edited part by part, in any order, with edits that fail among the others.

* `Campaign.Coherent`: what every edit keeps (`Campaign.Coherent.edit`); `edits_keep_coherent`.
* `SpecialCommission.Clashes`: an enabled rate where the item pays amounts, or an amount where it pays
  rates. An edit checks only the part that it changes, so a new item may clash with the special
  commission of before; `special_agrees_iff` says when that is so.
-/

namespace Sponsorship

open Time Number

/-! ## Special commissions -/

namespace SpecialCommission

/-- Nothing is negative. A disabled commission has nothing, an enabled one either a rate or an
amount. -/
structure WellFormed (s : SpecialCommission) : Prop where
  rate : s.rate.isNegative = false
  amount : 0 ≤ s.amount
  disabled : s.enabled = false → s.rate.isPositive = false ∧ ¬ 0 < s.amount
  enabled : s.enabled = true → (s.rate.isPositive = true ↔ ¬ 0 < s.amount)

/-- The commission is not of the kind that the item pays. -/
def Clashes (s : SpecialCommission) (kind : CommissionKind) : Prop :=
  s.enabled = true ∧ (kind = .fixedRate ∧ 0 < s.amount ∨
    kind = .fixedAmount ∧ s.rate.isPositive = true)

theorem check_ok {s : SpecialCommission} {kind : CommissionKind} :
    s.check kind = .ok () ↔ s.WellFormed ∧ ¬ s.Clashes kind := by
  unfold check
  simp only [Except.check_ok, demand_ok, Bool.not_eq_true', decide_eq_true_eq]
  cases henabled : s.enabled with
  | false =>
    simp only [Bool.false_eq_true, if_false, demand_ok, Bool.not_eq_true', Bool.or_eq_false_iff,
      decide_eq_false_iff_not]
    constructor
    · rintro ⟨hrate, hamount, hdisabled⟩
      refine ⟨⟨hrate, hamount, fun _ => hdisabled, fun h => ?_⟩, fun h => ?_⟩
      · rw [henabled] at h; cases h
      · rw [Clashes, henabled] at h; cases h.1
    · exact fun h => ⟨h.1.rate, h.1.amount, h.1.disabled henabled⟩
  | true =>
    simp only [if_true, Except.check_ok, demand_ok]
    have hone : ((s.rate.isPositive || decide (0 < s.amount)) = true ∧
        (!(s.rate.isPositive && decide (0 < s.amount))) = true) ↔
        (s.rate.isPositive = true ↔ ¬ 0 < s.amount) := by
      cases s.rate.isPositive <;> simp
    constructor
    · rintro ⟨hrate, hamount, hany, hnotBoth, hagrees⟩
      refine ⟨⟨hrate, hamount, fun h => ?_, fun _ => hone.mp ⟨hany, hnotBoth⟩⟩, ?_⟩
      · rw [henabled] at h; cases h
      · rintro ⟨_, ⟨rfl, hpositive⟩ | ⟨rfl, hpositive⟩⟩
        · have hnone := demand_ok.mp hagrees
          simp [hpositive] at hnone
        · have hnone := demand_ok.mp hagrees
          simp [hpositive] at hnone
    · rintro ⟨hs, hagrees⟩
      obtain ⟨hany, hnotBoth⟩ := hone.mpr (hs.enabled henabled)
      refine ⟨hs.rate, hs.amount, hany, hnotBoth, ?_⟩
      cases kind with
      | fixedRate => exact demand_ok.mpr (by simpa [Clashes, henabled] using hagrees)
      | fixedAmount => exact demand_ok.mpr (by simpa [Clashes, henabled] using hagrees)
      | unknown | multiFixedAmounts => rfl

end SpecialCommission

/-- Whether an edit changes the item or the special commission. -/
def Edit.SetsItemOrSpecial : Edit → Prop
  | .item _ | .special _ => True
  | _ => False

namespace Campaign

/-! ## What every edit keeps -/

/-- Every part of the campaign keeps the rules for this part, and what is derived is up to date. -/
structure Coherent (c : Campaign) : Prop where
  name : c.name ≠ ""
  texts : c.texts.productFeatures ≠ "" ∧ c.texts.cautionaryPoints ≠ "" ∧
    c.texts.referenceInfo ≠ "" ∧ c.texts.otherInfo ≠ ""
  item : c.item.id.text ≠ ""
  banner : ∀ b, c.banner = some b → c.hasCoupon = true ∧ b.text ≠ ""
  kinds : (c.schedules.map Schedule.kind).Nodup
  obligatory : ∀ k ∈ [ScheduleKind.invitation, .articlePosting, .payment],
    ∃ s ∈ c.schedules, s.kind = k
  special : c.special.WellFormed
  pickInfo : c.pickInfo = .derive c.item c.variant c.banner

variable {id : CampaignId} {d : CampaignDetails} {now : Instant} {c c' : Campaign} {e : Edit}
  {es : List Edit}

namespace Coherent

theorem of_create (h : create id d now = .ok c) : c.Coherent := by
  obtain ⟨hname, htexts, hitem, hcoupon, hspecial, hset, rfl⟩ := create_ok.mp h
  obtain ⟨hkinds, hobligatory⟩ := Schedule.checkSet_ok hset
  exact {
    name := hname
    texts := OfferTexts.check_ok.mp htexts
    item := checkItem_ok.mp hitem
    banner := checkCoupon_ok.mp hcoupon
    kinds := hkinds
    obligatory := fun k hk => List.mem_map.mp (hobligatory k hk)
    special := (SpecialCommission.check_ok.mp hspecial).1
    pickInfo := rfl }

theorem edit (h : c.Coherent) (hedit : c.edit e = .ok c') : c'.Coherent := by
  obtain ⟨hcheck, rfl⟩ := edit_ok.mp hedit
  cases e with
  | name name => exact { h with name := requireText_ok.mp hcheck }
  | item item => exact { h with item := checkItem_ok.mp hcheck, pickInfo := rfl }
  | variant variant => exact { h with pickInfo := rfl }
  | special special => exact { h with special := (SpecialCommission.check_ok.mp hcheck).1 }
  | coupon hasCoupon banner =>
    exact { h with banner := checkCoupon_ok.mp hcheck, pickInfo := rfl }
  | schedules schedules =>
    obtain ⟨hkinds, hobligatory⟩ := Schedule.checkSet_ok hcheck
    exact { h with kinds := hkinds, obligatory := fun k hk => List.mem_map.mp (hobligatory k hk) }
  | texts texts => exact { h with texts := OfferTexts.check_ok.mp hcheck }
  | flags | target | mail | drafted | closed => exact { h with }

theorem edits (h : c.Coherent) (es : List Edit) : (attempts Campaign.edit c es).Coherent :=
  attempts_keep h (fun _ _ _ hc hedit => hc.edit hedit) es

/-- The variant that the catalog is asked for is the one that is referred to, unless it is blank. -/
theorem pickInfo_variant (h : c.Coherent) {v : VariantId} (hv : c.itemKey.variant = some v)
    (hne : v.text ≠ "") : c.pickInfo.variant = some v := by
  have hvariant : c.variant.map Variant.id = some v := hv
  rw [h.pickInfo, PickInfo.derive, hvariant]
  exact Id.given?_eq_some hne

theorem pickInfo_banners (h : c.Coherent) : c.pickInfo.banners.length ≤ 1 := by
  rw [h.pickInfo, PickInfo.derive]
  cases Id.given? c.banner with
  | none => exact Nat.zero_le 1
  | some b => exact Nat.le_refl 1

end Coherent

theorem edit_identity (h : c.edit e = .ok c') : c'.id = c.id ∧ c'.createdAt = c.createdAt := by
  obtain ⟨_, rfl⟩ := edit_ok.mp h
  cases e <;> exact ⟨rfl, rfl⟩

/-- Edits in any order, those that fail among them, keep a campaign coherent and leave its identifier
and its date alone; what fails changes nothing. -/
theorem edits_keep_coherent (hcreate : create id d now = .ok c) (es : List Edit) :
    (attempts Campaign.edit c es).Coherent ∧
    (∀ v, (attempts Campaign.edit c es).itemKey.variant = some v → v.text ≠ "" →
      (attempts Campaign.edit c es).pickInfo.variant = some v) ∧
    (attempts Campaign.edit c es).pickInfo.banners.length ≤ 1 ∧
    (attempts Campaign.edit c es).id = id ∧
    (attempts Campaign.edit c es).createdAt = now ∧
    ∀ e v, (attempts Campaign.edit c es).edit e = .error v →
      attempts Campaign.edit c (es ++ [e]) = attempts Campaign.edit c es := by
  have hcoherent : (attempts Campaign.edit c es).Coherent := (Coherent.of_create hcreate).edits es
  have hidentity : (attempts Campaign.edit c es).id = c.id ∧
      (attempts Campaign.edit c es).createdAt = c.createdAt := by
    refine attempts_keep (I := fun (c' : Campaign) => c'.id = c.id ∧ c'.createdAt = c.createdAt)
      ⟨rfl, rfl⟩ (fun c₁ e c₂ h hedit => ?_) es
    obtain ⟨hid, hdate⟩ := edit_identity hedit
    exact ⟨hid.trans h.1, hdate.trans h.2⟩
  obtain ⟨_, _, _, _, _, _, rfl⟩ := create_ok.mp hcreate
  refine ⟨hcoherent, fun v => hcoherent.pickInfo_variant, hcoherent.pickInfo_banners, hidentity.1,
    hidentity.2, fun e v hfails => ?_⟩
  rw [attempts_concat, attempt_error hfails]

/-- A product that pays a commission of one kind. -/
def itemPaying (kind : CommissionKind) : Item :=
  { Item.placeholder ⟨"item"⟩ with
    minimum := { kind, rate := Format.single.ofInt 5 }
    maximum := { kind, rate := Format.single.ofInt 8 } }

/-- A campaign with a rate of its own, for a product that pays rates. -/
def rateDetails : CampaignDetails :=
  { reviewingRequest.details (itemPaying .fixedRate) none
      [⟨⟨"id-0002"⟩, .invitation, some ⟨0, 0⟩, some ⟨1, 0⟩⟩,
        ⟨⟨"id-0003"⟩, .articlePosting, some ⟨0, 0⟩, some ⟨1, 0⟩⟩,
        ⟨⟨"id-0004"⟩, .payment, none, some ⟨1, 0⟩⟩] with
    special := { enabled := true, rate := Format.double.ofInt 7 } }

theorem rateDetails_create :
    create ⟨"id-0001"⟩ rateDetails ⟨0, 0⟩ = .ok (restore ⟨"id-0001"⟩ rateDetails ⟨0, 0⟩) := by
  decide +kernel

/-- The schedules and the second banner are refused. -/
def mixedEdits : List Edit :=
  [.variant (some (.placeholder ⟨""⟩)), .coupon true (some ⟨"banner"⟩), .schedules [],
    .coupon false (some ⟨"other"⟩), .variant (some (.placeholder ⟨"variant"⟩))]

theorem edits_keep_coherent_of_mixedEdits :
    create ⟨"id-0001"⟩ rateDetails ⟨0, 0⟩ = .ok (restore ⟨"id-0001"⟩ rateDetails ⟨0, 0⟩) ∧
    (attempts Campaign.edit (restore ⟨"id-0001"⟩ rateDetails ⟨0, 0⟩) mixedEdits).pickInfo =
      { item := ⟨"item"⟩, variant := some ⟨"variant"⟩, banners := [⟨"banner"⟩] } ∧
    (attempts Campaign.edit (restore ⟨"id-0001"⟩ rateDetails ⟨0, 0⟩) mixedEdits).Coherent :=
  ⟨rateDetails_create, by decide +kernel, (edits_keep_coherent rateDetails_create mixedEdits).1⟩

/-! ## Special commissions and items -/

/-- As `es` were tried, an item was put in that clashes with the special commission of then, and no
other item and no other commission came after it. -/
def Outdated (c : Campaign) (es : List Edit) : Prop :=
  ∃ past item future, es = past ++ .item item :: future ∧ item.id.text ≠ "" ∧
    (attempts Campaign.edit c past).special.Clashes item.minimum.kind ∧
    ¬ Succeeds Campaign.edit (attempts Campaign.edit c (past ++ [.item item])) future
      Edit.SetsItemOrSpecial

/-- An edit that fails, or that changes neither the item nor the special commission, is no remedy. -/
theorem Outdated.concat (h : Outdated c es)
    (he : e.SetsItemOrSpecial → ∃ v, (attempts Campaign.edit c es).edit e = .error v) :
    Outdated c (es ++ [e]) := by
  obtain ⟨past, item, future, rfl, hitem, hclash, hlast⟩ := h
  refine ⟨past, item, future ++ [e], by simp, hitem, hclash, fun hs => ?_⟩
  rcases hs.concat_cases with hs | ⟨hsets, c', hok⟩
  · exact hlast hs
  · obtain ⟨v, herror⟩ := he hsets
    rw [List.append_cons, attempts_append, hok] at herror
    cases herror

theorem outdated_of_clashes (hc : ¬ c.special.Clashes c.item.minimum.kind) (es : List Edit) :
    (attempts Campaign.edit c es).special.Clashes
      (attempts Campaign.edit c es).item.minimum.kind → Outdated c es := by
  refine attempts_history (I := fun es (c' : Campaign) =>
    c'.special.Clashes c'.item.minimum.kind → Outdated c es) (fun h => absurd h hc) ?_ ?_ es
  · intro es e c' ih hedit hclash
    obtain ⟨hcheck, rfl⟩ := edit_ok.mp hedit
    cases e with
    | item item =>
      refine ⟨es, item, [], rfl, checkItem_ok.mp hcheck, hclash, ?_⟩
      rintro ⟨past, e, future, _, hnil, _⟩
      cases past <;> cases hnil
    | special special => exact absurd hclash (SpecialCommission.check_ok.mp hcheck).2
    | _ => exact (ih hclash).concat fun hsets => hsets.elim
  · intro es e v ih hfails hclash
    exact (ih hclash).concat fun _ => ⟨v, hfails⟩

theorem Outdated.clashes (h : Outdated c es) :
    (attempts Campaign.edit c es).special.Clashes
      (attempts Campaign.edit c es).item.minimum.kind := by
  obtain ⟨past, item, future, rfl, hitem, hclash, hlast⟩ := h
  have hkept := attempts_keep_of_not_succeeds (g := fun c : Campaign => (c.special, c.item))
    (fun c₁ e c₂ he hedit => ?_) hlast
  · obtain ⟨hspecial, hcurrent⟩ := Prod.mk.inj hkept
    have hput : attempts Campaign.edit c (past ++ [.item item]) =
        (attempts Campaign.edit c past).changed (.item item) := by
      rw [attempts_concat]
      exact attempt_ok (edit_ok.mpr ⟨checkItem_ok.mpr hitem, rfl⟩)
    rw [List.append_cons, attempts_append, hspecial, hcurrent, hput]
    exact hclash
  · obtain ⟨_, rfl⟩ := edit_ok.mp hedit
    cases e with
    | item | special => exact absurd trivial he
    | _ => rfl

/-- The special commission agrees with the item, whatever was tried, unless it is outdated. -/
theorem special_agrees_iff (hcreate : create id d now = .ok c) (es : List Edit) :
    (attempts Campaign.edit c es).special.check (attempts Campaign.edit c es).item.minimum.kind =
      .ok () ↔ ¬ Outdated c es := by
  have hwellFormed : (attempts Campaign.edit c es).special.WellFormed :=
    ((Coherent.of_create hcreate).edits es).special
  have hagrees : ¬ c.special.Clashes c.item.minimum.kind := by
    obtain ⟨_, _, _, _, hspecial, _, rfl⟩ := create_ok.mp hcreate
    exact (SpecialCommission.check_ok.mp hspecial).2
  rw [SpecialCommission.check_ok, and_iff_right hwellFormed]
  exact not_congr ⟨outdated_of_clashes hagrees es, Outdated.clashes⟩

/-- An item is not compared with the special commission that is there. -/
theorem rate_outlives_item :
    create ⟨"id-0001"⟩ rateDetails ⟨0, 0⟩ = .ok (restore ⟨"id-0001"⟩ rateDetails ⟨0, 0⟩) ∧
    (attempts Campaign.edit (restore ⟨"id-0001"⟩ rateDetails ⟨0, 0⟩)
        [.item (itemPaying .fixedAmount)]).special.check
      (attempts Campaign.edit (restore ⟨"id-0001"⟩ rateDetails ⟨0, 0⟩)
        [.item (itemPaying .fixedAmount)]).item.minimum.kind = .error .specialRateForAmount :=
  ⟨rateDetails_create, by decide +kernel⟩

/-- An amount is refused with the first item and accepted with the second. -/
theorem special_agrees_iff_of_rateDetails :
    Outdated (restore ⟨"id-0001"⟩ rateDetails ⟨0, 0⟩)
      [.special { enabled := true, amount := 300 }, .item (itemPaying .fixedAmount)] ∧
    ¬ Outdated (restore ⟨"id-0001"⟩ rateDetails ⟨0, 0⟩)
      [.special { enabled := true, amount := 300 }, .item (itemPaying .fixedAmount),
        .special { enabled := true, amount := 300 }] := by
  constructor
  · by_contra hnot
    exact absurd ((special_agrees_iff rateDetails_create _).mpr hnot) (by decide +kernel)
  · exact (special_agrees_iff rateDetails_create _).mp (by decide +kernel)

end Campaign

end Sponsorship
