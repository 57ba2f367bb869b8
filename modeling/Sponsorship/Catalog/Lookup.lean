import Sponsorship.Catalog.Item
import Sponsorship.Keyed

/-!
# Looking up products

* `Found`: what a lookup of many products brings.
* `Catalog`: lookups over a state `σ`.
* `Shelf`, `Catalog.shelf`: a catalog that is held in memory.
-/

namespace Sponsorship

/-- Products and variants by identifier; those that the catalog does not have are left out. -/
structure Found where
  items : Keyed ItemId Item := {}
  variants : Keyed VariantId Variant := {}

/-- Lookups in a product catalog. -/
structure Catalog (σ : Type) where
  /-- One product and, if wanted, its variant. -/
  get : ItemKey → σ → Except Fault (Item × Option Variant) × σ
  /-- Many products at once. -/
  getAll : List ItemKey → σ → Except Fault Found × σ

structure Shelf where
  items : Keyed ItemId Item := {}
  variants : Keyed VariantId Variant := {}

namespace Shelf

def putItem (s : Shelf) (i : Item) : Shelf := { s with items := s.items.insert i.id i }

def putVariant (s : Shelf) (v : Variant) : Shelf := { s with variants := s.variants.insert v.id v }

/-- A product and its variant. A variant that is not there is known by its identifier only. -/
def get (s : Shelf) (key : ItemKey) : Except Fault (Item × Option Variant) :=
  match s.items.get? key.item with
  | none => .error (.notFound (.item key.item))
  | some item =>
    .ok (item, (Id.given? key.variant).map fun id =>
      (s.variants.get? id).getD (.placeholder id))

def getAll (s : Shelf) (keys : List ItemKey) : Found :=
  { items := Keyed.ofList (keys.filterMap fun key =>
      (s.items.get? key.item).map fun i => (i.id, i))
    variants := Keyed.ofList (keys.filterMap fun key =>
      (key.variant.bind s.variants.get?).map fun v => (v.id, v)) }

end Shelf

namespace Catalog

variable {σ : Type}

/-- The catalog held in memory, which no lookup changes. -/
def shelf (s : Shelf) : Catalog σ where
  get key state := (s.get key, state)
  getAll keys state := (.ok (s.getAll keys), state)

/-- A catalog that cannot be reached. -/
def unreachable : Catalog σ where
  get _ state := (.error (.infrastructure .refused), state)
  getAll _ state := (.error (.infrastructure .refused), state)

end Catalog

end Sponsorship
