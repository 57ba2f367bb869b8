import Sponsorship.Catalog.Item
import Sponsorship.Schedule

/-!
# Campaigns

A campaign offers a product to bloggers who write about it.

* `CampaignDetails`: everything about a campaign that can be edited.
* `Campaign`: the details with an identifier and a date of creation.
* `Campaign.restore`: a campaign from its details; `Campaign.refreshPickInfo` brings what is derived
  from them up to date.
* `Campaign.create`: a campaign that keeps every rule.
* `Edit`, `Campaign.edit`: changes of one part at a time, each of which keeps the rules of its part
  (`checkEdit`).
-/

namespace Sponsorship

open Number Time

/-- What an assignee of the campaign goes through. -/
structure WorkflowFlags where
  hasSample : Bool := false
  needsPreliminaryReview : Bool := false
  needsAfterReview : Bool := false
  needsPrMark : Bool := false
  postRequired : Bool := false
  hasLottery : Bool := false
  deriving DecidableEq, Repr

structure MailToggles where
  invitation : Bool := false
  offerDetail : Bool := false
  passedPreliminaryReview : Bool := false
  failedPreliminaryReview : Bool := false
  articlePost : Bool := false
  passedAfterReview : Bool := false
  failedAfterReview : Bool := false
  deriving DecidableEq, Repr

structure OfferTexts where
  productFeatures : String
  cautionaryPoints : String
  referenceInfo : String
  otherInfo : String
  deriving DecidableEq, Repr

def OfferTexts.check (t : OfferTexts) : Except Violation Unit := do
  requireText .productFeatures t.productFeatures
  requireText .cautionaryPoints t.cautionaryPoints
  requireText .referenceInfo t.referenceInfo
  requireText .otherInfo t.otherInfo

/-- A commission of the campaign's own, as a rate or as an amount. -/
structure SpecialCommission where
  enabled : Bool := false
  rate : Double := Format.double.zero
  amount : Int := 0
  deriving DecidableEq, Repr

/-- The rules for a special commission of a campaign whose item pays commissions of kind `kind`:
nothing is negative, a disabled one is zero, an enabled one has either a rate or an amount, and
which of them must agree with the kind. -/
def SpecialCommission.check (s : SpecialCommission) (kind : CommissionKind) :
    Except Violation Unit := do
  demand (!s.rate.isNegative) .specialRateNegative
  demand (0 ≤ s.amount) .specialAmountNegative
  let hasRate := s.rate.isPositive
  let hasAmount : Bool := 0 < s.amount
  if s.enabled then
    demand (hasRate || hasAmount) .specialEmpty
    demand (!(hasRate && hasAmount)) .specialAmbiguous
    match kind with
    | .fixedRate => demand (!hasAmount) .specialAmountForRate
    | .fixedAmount => demand (!hasRate) .specialRateForAmount
    | _ => pure ()
  else
    demand (!(hasRate || hasAmount)) .specialDisabled

/-- A banner goes with a coupon, and its identifier is not blank. -/
def checkCoupon (hasCoupon : Bool) (banner : Option BannerId) : Except Violation Unit :=
  match banner with
  | none => .ok ()
  | some b => do
    demand hasCoupon .bannerWithoutCoupon
    demand (!b.isBlank) .bannerBlank

/-- Everything about a campaign that can be edited. -/
structure CampaignDetails where
  name : String
  item : Item
  variant : Option Variant
  hasCoupon : Bool
  banner : Option BannerId
  special : SpecialCommission
  flags : WorkflowFlags
  target : PostTarget
  texts : OfferTexts
  mail : MailToggles
  isClosed : Bool
  schedules : List Schedule
  drafted : DraftedInfo
  deriving DecidableEq, Repr

structure Campaign extends CampaignDetails where
  id : CampaignId
  createdAt : Instant
  /-- The catalog entries that the campaign refers to, kept up to date by every change. -/
  pickInfo : PickInfo
  deriving DecidableEq, Repr

/-- A change of one part of a campaign. -/
inductive Edit
  | name (name : String)
  | item (item : Item)
  | variant (variant : Option Variant)
  | special (special : SpecialCommission)
  | coupon (hasCoupon : Bool) (banner : Option BannerId)
  | schedules (schedules : List Schedule)
  | texts (texts : OfferTexts)
  | flags (flags : WorkflowFlags)
  | target (target : PostTarget)
  | mail (mail : MailToggles)
  | drafted (drafted : DraftedInfo)
  | closed (isClosed : Bool)
  deriving DecidableEq, Repr

def checkItem (item : Item) : Except Violation Unit := demand (!item.id.isBlank) (.required .itemId)

/-- The rule for the part that is changed, in a campaign about item `current`. -/
def checkEdit (current : Item) : Edit → Except Violation Unit
  | .name name => requireText .name name
  | .item item => checkItem item
  | .special special => special.check current.minimum.kind
  | .coupon hasCoupon banner => checkCoupon hasCoupon banner
  | .schedules schedules => Schedule.checkSet schedules
  | .texts texts => texts.check
  | .variant _ | .flags _ | .target _ | .mail _ | .drafted _ | .closed _ => .ok ()

namespace Campaign

/-- What the catalog is asked for on behalf of the campaign. -/
def itemKey (c : Campaign) : ItemKey := { item := c.item.id, variant := c.variant.map Variant.id }

/-- A campaign with its details as they are, whether they keep the rules or not. -/
def restore (id : CampaignId) (d : CampaignDetails) (createdAt : Instant) : Campaign :=
  { d with id, createdAt, pickInfo := .derive d.item d.variant d.banner }

/-- The campaign with the catalog entries that its parts refer to now. -/
def refreshPickInfo (c : Campaign) : Campaign :=
  { c with pickInfo := .derive c.item c.variant c.banner }

def create (id : CampaignId) (d : CampaignDetails) (createdAt : Instant) :
    Except Violation Campaign := do
  requireText .name d.name
  d.texts.check
  checkItem d.item
  checkCoupon d.hasCoupon d.banner
  d.special.check d.item.minimum.kind
  Schedule.checkSet d.schedules
  return restore id d createdAt

def changed (c : Campaign) : Edit → Campaign
  | .name name => { c with name }
  | .item item => { c with item }.refreshPickInfo
  | .variant variant => { c with variant }.refreshPickInfo
  | .special special => { c with special }
  | .coupon hasCoupon banner => { c with hasCoupon, banner }.refreshPickInfo
  | .schedules schedules => { c with schedules }
  | .texts texts => { c with texts }
  | .flags flags => { c with flags }
  | .target target => { c with target }
  | .mail mail => { c with mail }
  | .drafted drafted => { c with drafted }
  | .closed isClosed => { c with isClosed }

/-- One change. The special commission is checked against the current item. -/
def edit (c : Campaign) (e : Edit) : Except Violation Campaign := do
  checkEdit c.item e
  return c.changed e

/-- Several changes, up to the first that fails. -/
def edits (c : Campaign) (es : List Edit) : Except Violation Campaign := es.foldlM edit c

end Campaign

end Sponsorship
