import Sponsorship.Http.Routes

/-!
# Answering requests

* `probe`, `outcomeBody`, `answerBody`: the bodies of responses.
* `carryOut`: the response to an order.
* `respond`: the response to a request.
-/

namespace Sponsorship.Http

def version : String := "0.1.0"

def probe (isReady : Bool) : Response :=
  { status := if isReady then 200 else 503
    body := some (.object [("status", .string (if isReady then "ok" else "unavailable")),
      ("version", .string version)]) }

/-- The body of an answer to a command. -/
def outcomeBody : Outcome → Json
  | .saved id => .object [("offer_item_id", .ofId id)]
  | .deleted => .object [("status", .string "ok")]
  | .completed finished => .object [("finished", .nat finished)]
  | .reported r => r.json
  | .assignee a => a.json
  | .examination e => e.json

/-- The body of an answer to a query. -/
def answerBody : Answered → Json
  | .ids campaignIds => .object [("offer_item_ids", .ofIds campaignIds)]
  | a => a.json

variable {σ υ : Type}

/-- The response to the result of a task. -/
def responseOf (correlation : String) : Except Fault Json → Response
  | .ok body => .ok body
  | .error fault => .ofFault correlation fault

/-- Carries out an order. `isReady` looks whether the store can be reached. -/
def carryOut (s : Service σ υ) (isReady : StateM (World σ) Bool) (correlation : String) :
    Order → StateM (World σ) Response
  | .liveness => return probe true
  | .readiness => return probe (← isReady)
  | .command c => fun w =>
    let (r, w) := s.run c w
    (responseOf correlation (r.map outcomeBody), w)
  | .query q => fun w =>
    let (r, w) := s.ask q w
    (responseOf correlation (r.map answerBody), w)

def respond (s : Service σ υ) (isReady : StateM (World σ) Bool) (correlation : String)
    (r : Request) : StateM (World σ) Response := do
  let response ← match r.order with
    | .error refusal => pure (Response.refuse refusal)
    | .ok (.error rule) => pure (Response.ofFault correlation (.validation rule))
    | .ok (.ok order) => carryOut s isReady correlation order
  return if r.method = "HEAD" then { response with body := none } else response

end Sponsorship.Http
