import Sponsorship.Sql.Column

/-!
# Layout of the catalog

* `ProductKind`: what a row describes.
* `productFields`: what is written.
-/

namespace Sponsorship.Sql

inductive ProductKind
  | item
  | variant
  deriving DecidableEq, Repr

def ProductKind.name : ProductKind → String
  | .item => "item"
  | .variant => "df_item"

def productFields (kind : ProductKind) (id : String) (payload : Json) : List Field :=
  [⟨"kind", .text kind.name⟩, ⟨"id", .text id⟩, ⟨"payload", .json payload⟩]

end Sponsorship.Sql
