import Sponsorship.Fault

/-!
# Catalog items

What the product catalog says about a product, and the part of it that a campaign keeps.

* `Commission`: a kind of commission with its rate; `Commission.isSound` ties the two.
* `Item`, `Variant`: a product and a special variant of it.
* `DraftedInfo`: the product as it was when the campaign was saved.
* `PickInfo`: the catalog entries that a campaign refers to.
-/

namespace Sponsorship

open Number

structure Commission where
  kind : CommissionKind
  rate : Single
  deriving DecidableEq, Repr

namespace Commission

def unknown : Commission := { kind := .unknown, rate := Format.single.zero }

/-- A known kind has a positive rate, the unknown kind has none. -/
def isSound (c : Commission) : Bool :=
  match c.kind with
  | .unknown => c.rate.isZero
  | _ => c.rate.isPositive

def create (kind : CommissionKind) (rate : Single) : Except Violation Commission :=
  let c : Commission := { kind, rate }
  if c.isSound then .ok c else .error (.unsoundCommission kind rate)

end Commission

/-- The address of a product for some devices. -/
structure PlatformUrl where
  platform : Platform
  url : String
  deriving DecidableEq, Repr

structure Item where
  id : ItemId
  imageUrl : String
  name : String
  minimum : Commission
  maximum : Commission
  urls : List PlatformUrl
  hasTieup : Bool
  contentName : String
  selfBackEnabled : Bool
  isVariant : Bool
  deriving DecidableEq, Repr

namespace Item

/-- A product of which only the identifier is known. -/
def placeholder (id : ItemId) : Item :=
  { id, imageUrl := "", name := "", minimum := .unknown, maximum := .unknown, urls := [],
    hasTieup := false, contentName := "", selfBackEnabled := false, isVariant := false }

def isKnown (i : Item) : Bool := !i.id.isBlank && !i.name.isEmpty

end Item

structure Variant where
  id : VariantId
  imageUrl : String
  name : String
  minimum : Commission
  maximum : Commission
  urls : List PlatformUrl
  deriving DecidableEq, Repr

namespace Variant

/-- A variant of which only the identifier is known. -/
def placeholder (id : VariantId) : Variant :=
  { id, imageUrl := "", name := "", minimum := .unknown, maximum := .unknown, urls := [] }

def isKnown (v : Variant) : Bool := !v.id.isBlank && !v.name.isEmpty

end Variant

/-- What the catalog is asked for: a product and, if wanted, its variant. -/
structure ItemKey where
  item : ItemId
  variant : Option VariantId
  deriving DecidableEq, Repr

/-- The product as it was when the campaign was saved. It outlives the catalog's entry. -/
structure DraftedInfo where
  name : String
  contentName : String
  imageUrl : String
  url : String
  minimum : Commission
  maximum : Commission
  deriving DecidableEq, Repr

/-- The rules for a drafted product: no empty text, sound commissions, and a minimum rate that
does not exceed the maximum. -/
def DraftedInfo.check (d : DraftedInfo) : Except Violation Unit := do
  requireText .draftedName d.name
  requireText .draftedContentName d.contentName
  requireText .draftedImageUrl d.imageUrl
  requireText .draftedUrl d.url
  demand d.minimum.isSound .draftedMinimumUnsound
  demand d.maximum.isSound .draftedMaximumUnsound
  demand (!d.maximum.rate.lt d.minimum.rate) .draftedRangeReversed

def DraftedInfo.create (d : DraftedInfo) : Except Violation DraftedInfo := do
  d.check
  return d

/-- The catalog entries that a campaign refers to. -/
structure PickInfo where
  item : ItemId
  variant : Option VariantId
  banners : List BannerId
  deriving DecidableEq, Repr

/-- The references of an item, a variant and a banner; a blank variant or banner is none. -/
def PickInfo.derive (item : Item) (variant : Option Variant) (banner : Option BannerId) : PickInfo :=
  { item := item.id
    variant := Id.given? (variant.map Variant.id)
    banners := (Id.given? banner).toList }

end Sponsorship
