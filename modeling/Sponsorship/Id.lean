/-!
# Identifiers

* `Id`: a text that names something of one kind, so that names of different kinds do not mix.
* `Ids`: a supply of new identifiers; how many were taken is part of it.
-/

namespace Sponsorship

inductive Named
  | campaign
  | assignee
  | schedule
  | examination
  | question
  | blogger
  | item
  | variant
  | banner
  | entry
  deriving DecidableEq, Repr

structure Id (kind : Named) where
  text : String
  deriving DecidableEq, Repr, Inhabited

abbrev CampaignId := Id .campaign
abbrev AssigneeId := Id .assignee
abbrev ScheduleId := Id .schedule
abbrev ExaminationId := Id .examination
abbrev QuestionId := Id .question
/-- The name a blogger goes by on the service that the campaigns run on. -/
abbrev BloggerId := Id .blogger
abbrev ItemId := Id .item
/-- Names the special variant of a catalog item. -/
abbrev VariantId := Id .variant
abbrev BannerId := Id .banner
/-- Names a submitted draft or article. -/
abbrev EntryId := Id .entry

namespace Id

variable {kind : Named}

/-- An empty text names nothing. -/
def isBlank (id : Id kind) : Bool := id.text.isEmpty

/-- The identifier, unless it is blank. -/
def given? (id : Option (Id kind)) : Option (Id kind) := id.filter fun i => !i.isBlank

end Id

/-- A supply of new identifiers: `name n` is the one after `n` others. -/
structure Ids where
  name : Nat → String
  issued : Nat := 0

namespace Ids

def next {kind : Named} (ids : Ids) : Id kind × Ids :=
  (⟨ids.name ids.issued⟩, { ids with issued := ids.issued + 1 })

/-- The identifier after `n` others in a numbered supply: four digits or more. -/
def numbered (n : Nat) : String :=
  let digits := Nat.toDigits 10 (n + 1)
  "id-" ++ String.ofList (List.replicate (4 - digits.length) '0' ++ digits)

/-- Identifiers in counting order. -/
def counting : Ids := { name := numbered }

end Ids

end Sponsorship
