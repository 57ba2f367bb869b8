import Sponsorship.Id
import Sponsorship.Json.Record
import Sponsorship.Time.Timestamp
import Sponsorship.Vocabulary

/-!
# Wire forms of simple values

Identifiers are texts, words are their wire names, instants are timestamps.
-/

namespace Sponsorship

open Time

namespace Reader

def id {kind : Named} : Reader (Id kind) := fun d => (text d).map Id.mk

def word {α : Type} [Vocabulary α] : Reader α := named (Vocabulary.named α)

def instant : Reader Instant := fun d => do
  match Instant.parse? (← text d) with
  | some t => return t
  | none => throw .invalidDate

def keyedById {kind : Named} {α : Type} (r : Reader α) : Reader (Keyed (Id kind) α) := fun d =>
  (pairs r d).map fun entries => Keyed.ofList (entries.map fun e => (⟨e.1⟩, e.2))

end Reader

namespace Json

variable {α : Type} {kind : Named}

def ofId (id : Id kind) : Json := .string id.text

def ofIds (ids : List (Id kind)) : Json := .array (ids.map ofId)

def word [Vocabulary α] (a : α) : Json := .string (wire a)

def instant (t : Instant) : Json := .string t.text

def orNull (f : α → Json) : Option α → Json
  | some a => f a
  | none => .null

def list (f : α → Json) (as : List α) : Json := .array (as.map f)

/-- An object with the keys of a map. -/
def keyedById (f : α → Json) (m : Keyed (Id kind) α) : Json :=
  .object (m.entries.map fun e => (e.1.text, f e.2))

end Json

end Sponsorship
