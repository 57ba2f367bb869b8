import Sponsorship.Http.Parameters

/-!
# Orders

What requests ask for, and the parts of requests that say so.

* `Order`: what a request asks for once it is understood; `Wanted` is the same with what can be
  wrong before anything is looked up.
* `LotteryBody`, `InvitationBody`, `SubmissionBody`, `VerdictsBody`: bodies of requests.
* `pageAsked`, `criteriaAsked`: the query of a list.
-/

namespace Sponsorship.Http

open Text

inductive Order
  | liveness
  | readiness
  | command (command : Command)
  | query (query : Query)

/-- What a request asks for, unless it breaks a rule that shows without looking anything up. -/
abbrev Wanted := Except Refusal (Except Violation Order)

namespace Wanted

def command (c : Command) : Wanted := .ok (.ok (.command c))

def query (q : Query) : Wanted := .ok (.ok (.query q))

/-- A query that depends on something with rules of its own. -/
def queryWith {α : Type} (r : Except Violation α) (q : α → Query) : Wanted :=
  .ok (r.map fun a => .query (q a))

end Wanted

/-! ## Bodies -/

/-- The lottery's results; the second field is a form that is no longer in use. -/
structure LotteryBody where
  results : Keyed BloggerId LotteryResult
  former : Keyed BloggerId Bool

def LotteryBody.reader : Reader LotteryBody := Record.reader "LotteryResultsRequest" <|
  LotteryBody.mk <$> .defaulting "lottery_results" (.keyedById LotteryResult.reader) {}
    <*> .defaulting "legacy_lottery_results" (.keyedById .bool) {}

structure InvitationBody where
  accepted : Bool
  answers : Keyed QuestionId String

def InvitationBody.reader : Reader InvitationBody := Record.reader "InvitationRequest" <|
  InvitationBody.mk <$> .required "accepted" .bool
    <*> .defaulting "answers" (.keyedById .text) {}

def declineReader : Reader String := Record.reader "DeclineRequest" (.required "reason" .text)

def bloggersReader : Reader (List BloggerId) :=
  Record.reader "AmebaIdsRequest" (.required "ameba_ids" (.list .id))

structure SubmissionBody where
  kind : EntryKind
  entry : Option EntryId

def SubmissionBody.reader : Reader SubmissionBody := Record.reader "SubmissionRequest" <|
  SubmissionBody.mk <$> .required "entry_type" .word <*> .optional "entry_id" .id

structure VerdictsBody where
  kind : EntryKind
  verdicts : Keyed BloggerId Verdict

def VerdictsBody.reader : Reader VerdictsBody := Record.reader "ExaminationResultsRequest" <|
  VerdictsBody.mk <$> .required "entry_type" .word
    <*> .required "verdicts" (.keyedById Verdict.reader)

/-! ## Queries of lists -/

/-- The number of campaigns on a page, if nothing else is asked for. -/
def standardLimit : Nat := 50

/-- Which page is asked for. An empty sort key is none. -/
def pageAsked (ps : Parameters) : Except Refusal (Except Violation ListCondition) := do
  let offset ← ps.defaulting "offset" Parameters.nat32 0
  let limit ← ps.defaulting "limit" Parameters.nat32 standardLimit
  let sort ← ps.optional "sort" Parameters.text
  let descending ← ps.defaulting "desc" Parameters.bool false
  let key := sort.filter fun s => !s.isEmpty
  return ListCondition.create offset limit (key.toList.map fun name => { name, descending })

/-- What is searched for. A criterion of blanks is none. -/
def criteriaAsked (ps : Parameters) : Except Refusal SearchCriteria := do
  let given (name : String) : Except Refusal (Option String) :=
    return (← ps.optional name Parameters.text).filter fun s => !isBlankText s
  return { name := ← given "name", item := (← given "item_id").map Id.mk,
           variant := (← given "df_item_id").map Id.mk }

end Sponsorship.Http
