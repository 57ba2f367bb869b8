import Sponsorship.Campaign
import Sponsorship.Text.Blank

/-!
# Lists of campaigns

* `SortKey`, `ListCondition`: which part of a list is asked for, and in which order.
* `CampaignKey`: what campaigns can be sorted by.
* `SearchCriteria`: which campaigns belong to a list.
* `Page`: a part of a list, and the length of the whole.
-/

namespace Sponsorship

open Text

structure SortKey where
  name : String
  descending : Bool
  deriving DecidableEq, Repr

/-- At most `limit` entries after the first `offset`, sorted by keys of which the first counts
most. -/
structure ListCondition where
  offset : Nat
  limit : Nat
  sorts : List SortKey
  deriving DecidableEq, Repr

/-- A condition whose sort keys are not blank. -/
def ListCondition.create (offset limit : Nat) (sorts : List SortKey) :
    Except Violation ListCondition := do
  demand (sorts.all fun s => !isBlankText s.name) .sortKeyBlank
  return { offset, limit, sorts }

inductive CampaignKey
  | createdAt
  | name
  | id
  deriving DecidableEq, Repr

def CampaignKey.ofName? : String → Option CampaignKey
  | "created_at" => some .createdAt
  | "name" => some .name
  | "id" => some .id
  | _ => none

/-- What campaigns are sorted by for a key. -/
def SortKey.campaignKey (key : SortKey) : Except Violation CampaignKey :=
  match CampaignKey.ofName? key.name with
  | some k => .ok k
  | none => .error (.sortKeyUnknown key.name)

/-- Campaigns are sorted by their own keys only. -/
def ListCondition.checkKeys (c : ListCondition) : Except Violation Unit := do
  let _ ← c.sorts.mapM SortKey.campaignKey

/-- What a campaign has to match; a criterion that is absent or blank is none. -/
structure SearchCriteria where
  name : Option String := none
  item : Option ItemId := none
  variant : Option VariantId := none
  deriving DecidableEq, Repr

namespace SearchCriteria

def givenName? (c : SearchCriteria) : Option String := c.name.filter fun n => !n.isEmpty
def givenItem? (c : SearchCriteria) : Option ItemId := Id.given? c.item
def givenVariant? (c : SearchCriteria) : Option VariantId := Id.given? c.variant

end SearchCriteria

/-- A part of a list, and the length of the whole. -/
structure Page where
  campaigns : List Campaign
  total : Nat
  deriving DecidableEq, Repr

end Sponsorship
