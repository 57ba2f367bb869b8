import Sponsorship.Catalog.Lookup
import Sponsorship.Sql.Link

/-!
# A catalog in a database

Products are kept as documents, by kind and identifier. Each statement stands for itself.

* `Link.putItem`, `Link.putVariant`: write a product.
* `Link.catalog`: lookups.
-/

namespace Sponsorship.Sql

namespace Link

variable {σ α : Type}

/-- Writes the document of a product, in the place of one with the same identifier. -/
def put (l : Link σ) (kind : ProductKind) (id : String) (payload : Json) : Exchange σ Unit :=
  l.write (.insert .catalog (productFields kind id payload) ["kind", "id"])

def putItem (l : Link σ) (i : Item) : Exchange σ Unit := l.put .item i.id.text i.json

def putVariant (l : Link σ) (v : Variant) : Exchange σ Unit := l.put .variant v.id.text v.json

/-- The documents of products. All of them have to be readable. -/
def products (l : Link σ) (kind : ProductKind) (ids : List String) (r : Reader α) :
    Exchange σ (List α) := do
  let payloads ← l.all (.payloads kind ids) (.sole "payload" (.document fun d => .ok d))
  readable ((payloads.mapM r).mapError fun e => .corrupt "catalog_item.payload" (.payload e))

/-- One product and, if wanted, its variant. A variant that is not there is known by its identifier
only. -/
def lookUp (l : Link σ) (key : ItemKey) : Exchange σ (Item × Option Variant) := do
  match ← l.products .item [key.item.text] Item.reader with
  | [] => throw (.notFound (.item key.item))
  | item :: _ =>
    match Id.given? key.variant with
    | none => return (item, none)
    | some id =>
      match ← l.products .variant [id.text] Variant.reader with
      | variant :: _ => return (item, some variant)
      | [] => return (item, some (.placeholder id))

def lookUpAll (l : Link σ) (keys : List ItemKey) : Exchange σ Found := do
  let items ← l.products .item (keys.map fun key => key.item.text) Item.reader
  let variants ← l.products .variant (keys.filterMap fun key => key.variant.map Id.text)
    Variant.reader
  return { items := Keyed.ofList (items.map fun i => (i.id, i))
           variants := Keyed.ofList (variants.map fun v => (v.id, v)) }

def catalog (l : Link σ) : Catalog σ where
  get := l.lookUp
  getAll := l.lookUpAll

end Link

end Sponsorship.Sql
