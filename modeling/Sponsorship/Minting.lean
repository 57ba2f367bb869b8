import Sponsorship.Fault

/-!
# Work that takes new identifiers

* `Minting`: a result or a fault, and the identifiers that are left. Identifiers taken by work that
  fails are gone.
* `Minting.mint`: take one.
-/

namespace Sponsorship

/-- Work that may fail and that takes identifiers from a supply. -/
abbrev Minting (α : Type) := ExceptT Fault (StateM Ids) α

namespace Minting

def mint (kind : Named) : Minting (Id kind) := fun ids =>
  let (id, ids) := ids.next
  (.ok id, ids)

def obey {α : Type} (r : Except Violation α) : Minting α :=
  fun ids => (r.mapError .validation, ids)

end Minting

end Sponsorship
