import Sponsorship.Http.Order

/-!
# Routes

Which path and method stand for which order.

* `Segment`, `parameters?`: patterns of paths.
* `Action`, `Route`, `routes`: what each method does at each pattern.
* `Request.order`: the order of a request, or why there is none.
-/

namespace Sponsorship.Http

inductive Segment
  | fixed (text : String)
  /-- Any text that is not empty. -/
  | parameter
  deriving DecidableEq, Repr

/-- What a method does with the parameters of a path and a request. -/
structure Action where
  method : String
  order : List String → Request → Wanted

/-- A pattern of paths and what each method does there. -/
structure Route where
  pattern : List Segment
  actions : List Action

/-- The parameters of a path that has the form of a pattern, still encoded. -/
def parameters? : List Segment → List String → Option (List String)
  | [], [] => some []
  | .fixed f :: pattern, s :: path => if f = s then parameters? pattern path else none
  | .parameter :: pattern, s :: path =>
    if s.isEmpty then none else (parameters? pattern path).map (s :: ·)
  | _, _ => none

def plain (method : String) (order : Request → Wanted) : Action :=
  { method, order := fun _ r => order r }

def atCampaign (method : String) (order : CampaignId → Request → Wanted) : Action :=
  { method
    order := fun path r =>
      match path with
      | [id] => order ⟨id⟩ r
      | _ => .error .noRoute }

/-- Actions at something that belongs to a campaign. -/
def atMember {kind : Named} (method : String) (order : CampaignId → Id kind → Request → Wanted) :
    Action :=
  { method
    order := fun path r =>
      match path with
      | [id, member] => order ⟨id⟩ ⟨member⟩ r
      | _ => .error .noRoute }

/-- A command that needs nothing but the campaign. -/
def bare (c : CampaignId → Command) : Action := atCampaign "POST" fun id _ => Wanted.command (c id)

def campaigns (rest : List Segment) : List Segment :=
  [.fixed "api", .fixed "v1", .fixed "offer-items"] ++ rest

def bloggers (rest : List Segment) : List Segment :=
  [.fixed "api", .fixed "v1", .fixed "assignees"] ++ rest

def probeRoutes : List Route :=
  [{ pattern := [.fixed "health"], actions := [plain "GET" fun _ => .ok (.ok .liveness)] },
    { pattern := [.fixed "health", .fixed "ready"],
      actions := [plain "GET" fun _ => .ok (.ok .readiness)] }]

/-- Campaigns as a whole. Fixed names come before identifiers. -/
def campaignRoutes : List Route :=
  [{ pattern := campaigns []
     actions :=
       [plain "POST" fun r => do Wanted.command (.save (← r.read SaveRequest.reader)),
        plain "GET" fun r => do Wanted.queryWith (← pageAsked r.target.parameters) .campaigns] },
    { pattern := campaigns [.fixed "search"]
      actions :=
        [plain "GET" fun r => do
          let criteria ← criteriaAsked r.target.parameters
          Wanted.queryWith (← pageAsked r.target.parameters) (.search criteria)] },
    { pattern := campaigns [.fixed "ending"]
      actions :=
        [plain "GET" fun r => do
          let ps := r.target.parameters
          Wanted.query (.ending (← Parameters.required ps "since" Parameters.instant)
            (← Parameters.required ps "until" Parameters.instant))] },
    { pattern := campaigns [.parameter]
      actions :=
        [atCampaign "GET" fun id _ => Wanted.query (.campaign id),
         atCampaign "DELETE" fun id _ => Wanted.command (.delete id)] },
    { pattern := campaigns [.parameter, .fixed "complete"], actions := [bare .complete] },
    { pattern := campaigns [.parameter, .fixed "questionnaire"]
      actions := [atCampaign "GET" fun id _ => Wanted.query (.questionnaire id)] },
    { pattern := campaigns [.parameter, .fixed "question-answers"]
      actions :=
        [atCampaign "POST" fun id r => do Wanted.query (.answers id (← r.read bloggersReader))] }]

def courseRoutes : List Route :=
  [{ pattern := campaigns [.parameter, .fixed "invite"], actions := [bare .invite] },
    { pattern := campaigns [.parameter, .fixed "lottery-results"]
      actions :=
        [atCampaign "POST" fun id r => do
          let body ← r.read LotteryBody.reader
          if body.former.isEmpty then Wanted.command (.applyLottery id body.results)
          else return .error .formerLotteryResults] },
    { pattern := campaigns [.parameter, .fixed "finished-shipment"],
      actions := [bare .finishShipment] },
    { pattern := campaigns [.parameter, .fixed "payment-completed"]
      actions :=
        [atCampaign "POST" fun id r => do
          Wanted.command (.completePayment id (← r.read bloggersReader))] },
    { pattern := campaigns [.parameter, .fixed "examination-results"]
      actions :=
        [atCampaign "POST" fun id r => do
          let body ← r.read VerdictsBody.reader
          Wanted.command (.applyVerdicts id body.kind body.verdicts)] }]

def participantRoutes : List Route :=
  [{ pattern := campaigns [.parameter, .fixed "assignees"]
     actions :=
       [atCampaign "GET" fun id r => do
          let stage ← Parameters.optional r.target.parameters "stage" Parameters.word
          Wanted.query (.assignees id stage)] },
    { pattern := campaigns [.parameter, .fixed "assignee-counts"]
      actions := [atCampaign "GET" fun id _ => Wanted.query (.stageCounts id)] },
    { pattern := campaigns [.parameter, .fixed "assignees", .parameter]
      actions := [atMember "GET" fun id blogger _ => Wanted.query (.assignee id blogger)] },
    { pattern := campaigns [.parameter, .fixed "assignees", .parameter, .fixed "invitation"]
      actions :=
        [atMember "POST" fun id blogger r => do
          let body ← r.read InvitationBody.reader
          Wanted.command (.answerInvitation id blogger body.accepted body.answers)] },
    { pattern := campaigns [.parameter, .fixed "assignees", .parameter, .fixed "decline"]
      actions :=
        [atMember "POST" fun id blogger r => do
          Wanted.command (.decline id blogger (← r.read declineReader))] },
    { pattern := campaigns [.parameter, .fixed "assignees", .parameter, .fixed "submission"]
      actions :=
        [atMember "POST" fun id blogger r => do
          let body ← r.read SubmissionBody.reader
          Wanted.command (.submit id blogger body.kind body.entry)] },
    { pattern := campaigns [.parameter, .fixed "examinations"]
      actions :=
        [atCampaign "GET" fun id r => do
          Wanted.query (.examinations id
            (← Parameters.required r.target.parameters "entry_type" Parameters.word))] },
    { pattern := campaigns [.parameter, .fixed "examinations", .parameter]
      actions :=
        [atMember "GET" fun id assignee r => do
          Wanted.query (.examination id assignee
            (← Parameters.required r.target.parameters "entry_type" Parameters.word))] },
    { pattern := bloggers [.fixed "under-examination"]
      actions := [plain "GET" fun _ => Wanted.query .underExamination] },
    { pattern := bloggers [.parameter, .fixed "offer-items"]
      actions :=
        [{ method := "GET"
           order := fun path _ =>
             match path with
             | [blogger] => Wanted.query (.participations ⟨blogger⟩)
             | _ => .error .noRoute }] }]

/-- All routes; of several that fit the first counts. -/
def routes : List Route := probeRoutes ++ campaignRoutes ++ courseRoutes ++ participantRoutes

/-- The method whose action answers a request: a request for the head only is treated like one for
the whole. -/
def Request.effectiveMethod (r : Request) : String := if r.method = "HEAD" then "GET" else r.method

def Request.order (r : Request) : Wanted :=
  let path := r.target.segments
  match routes.findSome? fun route => (parameters? route.pattern path).map fun ps => (route, ps) with
  | none => .error .noRoute
  | some (route, ps) =>
    match route.actions.find? fun a => a.method = r.effectiveMethod with
    | none => .error .wrongMethod
    | some action =>
      match ps.mapM pathDecode? with
      | none => .error .undecodablePath
      | some ps => action.order ps r

end Sponsorship.Http
