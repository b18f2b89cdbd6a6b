import Eligibility.Gate
import Eligibility.Http.Cors
import Eligibility.Http.Host
import Eligibility.Http.Payload
import Eligibility.Http.Target
import Eligibility.Statement.Build
import Eligibility.Version
set_option autoImplicit false

/-!
# HTTP: the application

The application builds statements for its own scenarios and checks signed ones
before they reach the verification authority.  A request passes the trusted
hosts, then the rules for other origins, and then comes to its route; whatever a
route answers gets the headers that protect a browser.

A route lets through only so many requests a minute from one client.  Who counts them,
and by which clock, is no part of the application: it is asked whether one more request
is within the limit, once the payload of the request was found to be good.
-/

namespace Eligibility.Http

open Statement (Choices)

variable [Uri.Idna]

/-! ## Routes -/

/-- Where a request can go. -/
inductive Route where
  | health
  | scenarios
  | statement (scenario : String)
  | verify (scenario : String)
  deriving DecidableEq, Repr

/-- The method of a route. -/
def Route.method : Route → String
  | .health | .scenarios => "GET"
  | .statement _ | .verify _ => "POST"

/-- How many requests a minute from one client come to a route. -/
def Route.limit : Route → Nat
  | .health => 500
  | .scenarios => 200
  | .statement _ | .verify _ => 60

/-- The path without a line break at its very end. -/
def withoutLineEnd (path : String) : String :=
  match path.toList.reverse with
  | '\n' :: rest => String.ofList rest.reverse
  | _ => path

/-- The route of a path. -/
def Route.ofPath? (path : String) : Option Route :=
  match Text.pieces '/' (withoutLineEnd path) with
  | ["", "health"] => some .health
  | ["", "api", "v1", "scenarios"] => some .scenarios
  | ["", "api", "v1", "scenarios", id, "statement"] =>
    if id = "" then none else some (.statement id)
  | ["", "api", "v1", "scenarios", id, "verify"] =>
    if id = "" then none else some (.verify id)
  | _ => none

/-! ## What routes answer -/

/-- An application. -/
structure App where
  settings : Settings
  authority : Option Authority.Channel
  /-- The time of day. -/
  now : Calendar.Stamp
  /-- Whether a request to a route is within the limit of the route. -/
  admits : Route → Request → Bool

/-- The application of the settings.  Without an authority of its own it asks the one of the
settings, if they hold a key. -/
def App.make (settings : Settings) (now : Calendar.Stamp) (admits : Route → Request → Bool)
    (authority : Option Authority.Channel) (send : Authority.Request → Authority.Answer) :
    App where
  settings := settings
  now := now
  admits := admits
  authority := match authority, Authority.Client.ofSettings settings with
    | some channel, _ => some channel
    | none, .ok client => some ⟨client, send⟩
    | none, .error _ => none

/-- What becomes of a request: a response, unless something fails inside, and what was used and sent
for it. -/
structure Handled where
  response : Option Response
  choices : Choices
  sent : List Authority.Request := []

/-- The health of the application. -/
def App.health (app : App) : Response :=
  ⟨200, .json (.object [("status", .text "healthy"), ("service", .text "trait-verify-api"),
    ("version", .text version), ("authority_configured", .boolean app.authority.isSome)]), []⟩

/-- The scenarios. -/
def listScenarios : Response := ⟨200, .json (.array (Scenario.all.map (·.toJson))), []⟩

/-- The response to a body that is no payload. -/
def refusePayload : PayloadFault → Response
  | .fields faults => ⟨422, .faults faults, []⟩
  | .unreadable => .detail 400 unreadableMessage

/-- The response to a request beyond the limit of its route. -/
def refuseExcess (route : Route) : Response :=
  ⟨429, .json (.object [("error", .text ("Rate limit exceeded: " ++ toString route.limit ++
    " per 1 minute"))]), []⟩

/-- Do something for a request to a route that is within its limit. -/
def App.withinLimit (app : App) (route : Route) (r : Request) (choices : Choices)
    (go : Handled) : Handled :=
  if app.admits route r then go else ⟨some (refuseExcess route), choices, []⟩

/-- Do something with a payload and a scenario, in this order; the limit of the route is asked for
in between. -/
def App.withPayload {α : Type} (app : App) (check : Json → Field.Checked α) (route : Route)
    (r : Request) (scenario : String) (choices : Choices) (go : α → Scenario → Handled) :
    Handled :=
  match payload check r with
  | .error fault => ⟨some (refusePayload fault), choices, []⟩
  | .ok a =>
    app.withinLimit route r choices <|
      match Scenario.find? scenario with
      | none => ⟨some (.detail 404 ("Unknown scenario: " ++ scenario)), choices, []⟩
      | some s => go a s

/-- The order of a statement for a scenario. -/
def orderFor (s : Scenario) (p : StatementPayload) : Statement.Order where
  address := .text p.address
  resources :=
    { provider := .text s.provider.word
      traits := s.traits.mapValues .text
      action := .text s.action
      verification := .ofText? p.verification }

/-- The response to a statement that cannot be built, unless the fault is the application's own. -/
def refuseBuild (fault : Statement.BuildFault) : Option Response :=
  match fault with
  | .outOfCalendar => none
  | .resource fault => if fault.isGrammar then some (.detail 400 fault.message) else none
  | fault => some (.detail 400 fault.message)

/-- The response with a new statement. -/
def ofBuilt (b : Statement.Built) : Response :=
  ⟨200, .json (.object [("message", .text b.message), ("nonce", .text b.nonce),
    ("issued_at", .text b.issuedAt), ("expiration_time", .text b.expirationTime)]), []⟩

/-- Build the statement of a scenario. -/
def App.statement (app : App) (choices : Choices) (p : StatementPayload) (s : Scenario) : Handled :=
  match Statement.build app.settings app.now choices (orderFor s p) with
  | (.ok built, choices) => ⟨some (ofBuilt built), choices, []⟩
  | (.error fault, choices) => ⟨refuseBuild fault, choices, []⟩

/-- The status for an outcome. -/
def statusOf : Authority.Outcome → Nat
  | .verified => 200
  | .notVerified => 404
  | .requirementsUnmet => 400

/-- The response with a decision, or with what a statement that was not forwarded misses; there is
none if what the authority answered cannot be written again. -/
def ofDecision (d : Decision) : Option Response :=
  match d.response with
  | none => Response.json? 400 d.verdict.toJson
  | some response =>
    if response.rewritable then Response.json? (statusOf response.outcome) d.toJson else none

/-- The response to a statement on which nothing is decided, unless the fault is the application's
own. -/
def refuseGate : Gate.Fault → Option Response
  | .scan .blank => some (.detail 400 Resource.ScanFault.blank.message)
  | .scan (.trait _) => none
  | .noAuthority => some (.detail 503 Gate.noAuthorityMessage)
  | .authority fault => some (.detail 502 fault.message)
  | .unreadable _ => none

/-- Verify a signed statement of a scenario. -/
def App.verify (app : App) (choices : Choices) (p : VerifyPayload) (s : Scenario) : Handled :=
  match Gate.ofScenario s with
  | .error _ => ⟨none, choices, []⟩
  | .ok gate =>
    let sent := gate.verify app.authority p.message p.signature
    ⟨match sent.result with
      | .ok decision => ofDecision decision
      | .error fault => refuseGate fault, choices, sent.requests⟩

/-- What a route makes of a request with its method. -/
def App.route (app : App) (choices : Choices) (r : Request) (route : Route) : Handled :=
  match route with
  | .health => app.withinLimit route r choices ⟨some app.health, choices, []⟩
  | .scenarios => app.withinLimit route r choices ⟨some listScenarios, choices, []⟩
  | .statement id =>
    app.withPayload StatementPayload.check route r id choices (app.statement choices)
  | .verify id => app.withPayload VerifyPayload.check route r id choices (app.verify choices)

/-! ## A request -/

/-- The headers that protect a browser. -/
def protection : Headers :=
  [("x-content-type-options", "nosniff"), ("x-frame-options", "DENY"),
   ("strict-transport-security", "max-age=31536000; includeSubDomains"),
   ("content-security-policy", "default-src 'self'")]

/-- What becomes of a request: it is handled, or belongs to another place. -/
inductive Outcome where
  | handled (h : Handled)
  | moved (r : Request)

/-- The path without slashes at its end, if it has some and then has a route. -/
def slashless? (path : String) : Option String :=
  let short := Text.dropTrailing '/' path
  if short ≠ path && (Route.ofPath? short).isSome then some short else none

/-- What becomes of a request that is admitted. -/
def App.dispatch (app : App) (choices : Choices) (r : Request) : Outcome :=
  match Route.ofPath? r.path with
  | some route =>
    if r.method = route.method then .handled (app.route choices r route)
    else
      .handled ⟨some { Response.detail 405 "Method Not Allowed" with
        headers := [("allow", route.method)] }, choices, []⟩
  | none =>
    match slashless? r.path with
    | some short => .moved { r with path := pathOf short }
    | none => .handled ⟨some (.detail 404 "Not Found"), choices, []⟩

/-- The rules for other origins. -/
def App.cors (app : App) : Cors := { origins := app.settings.allowedOrigins }

/-- The response of a route as the browser gets it; what failed inside is only called so. -/
def App.finish (app : App) (r : Request) (h : Handled) : Handled :=
  let response := match h.response with
    | some response => response.add (protection ++ app.cors.headersFor r)
    | none => .plain 500 "Internal Server Error"
  { h with response := some response }

/-- What becomes of a request. -/
def App.step (app : App) (choices : Choices) (r : Request) : Outcome :=
  match standing app.settings.trustedHosts ((r.header? "host").getD "") with
  | .refused => .handled ⟨some (.plain 400 "Invalid host header"), choices, []⟩
  | .elsewhere host => .moved { r.withHeader "host" host with path := pathOf r.path }
  | .admitted =>
    match app.cors.preflight? r with
    | some response => .handled ⟨some response, choices, []⟩
    | none =>
      match app.dispatch choices r with
      | .handled h => .handled (app.finish r h)
      | .moved r => .moved r

/-- The greatest number of places that a client goes on to. -/
def maxMoves : Nat := 20

/-- The response that a client gets that goes where it is sent. -/
def App.handle (app : App) (choices : Choices) (r : Request) : Handled :=
  follow maxMoves r
where
  /-- Go on to at most `moves` other places. -/
  follow (moves : Nat) (r : Request) : Handled :=
    match app.step choices r, moves with
    | .handled h, _ =>
      if r.method = "HEAD" then { h with response := h.response.map (·.withoutContent) } else h
    | .moved r, moves + 1 => follow moves r
    | .moved _, 0 => ⟨none, choices, []⟩

end Eligibility.Http
