import Sponsorship.Json.Value
import Sponsorship.Keyed

/-!
# Canonical JSON

* `Json.canonical`: the fields of every object sorted by name; of two fields with one name the later
  counts.
-/

namespace Sponsorship.Json

/-- Fields sorted by name, each name once. -/
def sortFields (fields : List (String × Json)) : List (String × Json) :=
  (Keyed.ofList fields).entries.mergeSort fun a b => decide (a.1 ≤ b.1)

mutual

def canonical : Json → Json
  | .array items => .array (canonicalItems items)
  | .object fields => .object (sortFields (canonicalFields fields))
  | v => v

def canonicalItems : List Json → List Json
  | [] => []
  | v :: vs => v.canonical :: canonicalItems vs

def canonicalFields : List (String × Json) → List (String × Json)
  | [] => []
  | (k, v) :: rest => (k, v.canonical) :: canonicalFields rest

end

end Sponsorship.Json
