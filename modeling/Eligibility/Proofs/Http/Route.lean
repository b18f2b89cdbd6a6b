import Eligibility.Http.Application
set_option autoImplicit false

/-!
# HTTP: requests that come to a route

A request for a trusted host, with the path and the method of a route, is answered by
that route and by nothing in front of it; with a good payload it comes to what the route
is for, unless it is beyond the limit of the route.  What stands around the route adds headers,
and turns a failure into a response that only says that there was one; the status, the
content and what was sent to the authority are those of the route.
-/

namespace Eligibility.Http

open Statement (Choices)

/-- The status and the content of what a request comes to, if there is a response. -/
def Handled.answer? (h : Handled) : Option (Nat × Content) :=
  h.response.map fun response => (response.status, response.content)

/-- What is answered when something fails inside. -/
def failure : Nat × Content := (500, .text "Internal Server Error")

namespace App

variable {app : App} {r : Request} {route : Route}

/-- A request comes to a route: its host is trusted, and its path and method are those of the
route. -/
structure Reaches (app : App) (r : Request) (route : Route) : Prop where
  admitted : standing app.settings.trustedHosts ((r.header? "host").getD "") = .admitted
  path : Route.ofPath? r.path = some route
  method : r.method = route.method

theorem Reaches.method_ne_options (h : app.Reaches r route) : r.method ≠ "OPTIONS" := by
  rw [h.method]
  cases route <;> simp [Route.method]

theorem Reaches.method_ne_head (h : app.Reaches r route) : r.method ≠ "HEAD" := by
  rw [h.method]
  cases route <;> simp [Route.method]

/-- Only a request that asks first is answered by the rules for other origins. -/
theorem preflight?_eq_none {cors : Cors} (h : r.method ≠ "OPTIONS") : cors.preflight? r = none := by
  unfold Cors.preflight?
  cases r.header? "origin" with
  | none => rfl
  | some origin =>
    cases r.header? "access-control-request-method" with
    | none => rfl
    | some method => simp [h]

theorem handle_of_reaches [Uri.Idna] (h : app.Reaches r route) (choices : Choices) :
    app.handle choices r = app.finish r (app.route choices r route) := by
  have hstep : app.step choices r = .handled (app.finish r (app.route choices r route)) := by
    simp only [step, h.admitted, preflight?_eq_none h.method_ne_options, dispatch, h.path, h.method,
      ↓reduceIte]
  unfold handle handle.follow
  rw [hstep]
  simp [h.method_ne_head]

/-- A request for a statement is for the builder once its payload and its scenario are found. -/
theorem route_statement [Uri.Idna] {choices : Choices} {id : String} {p : StatementPayload}
    {s : Scenario}
    (hpayload : payload StatementPayload.check r = .ok p)
    (hadmits : app.admits (.statement id) r = true) (hfind : Scenario.find? id = some s) :
    app.route choices r (.statement id) = app.statement choices p s := by
  simp only [route, withPayload, withinLimit, hpayload, hadmits, hfind, ↓reduceIte]

/-- A request for a verification is for the gate once its payload and its scenario are found. -/
theorem route_verify [Uri.Idna] {choices : Choices} {id : String} {p : VerifyPayload} {s : Scenario}
    (hpayload : payload VerifyPayload.check r = .ok p)
    (hadmits : app.admits (.verify id) r = true) (hfind : Scenario.find? id = some s) :
    app.route choices r (.verify id) = app.verify choices p s := by
  simp only [route, withPayload, withinLimit, hpayload, hadmits, hfind, ↓reduceIte]

/-- Beyond the limit of its route, a request with a good payload is refused, whatever the
scenario. -/
theorem route_verify_of_excess [Uri.Idna] {choices : Choices} {id : String} {p : VerifyPayload}
    (hpayload : payload VerifyPayload.check r = .ok p)
    (hexcess : app.admits (.verify id) r = false) :
    app.route choices r (.verify id) = ⟨some (refuseExcess (.verify id)), choices, []⟩ := by
  simp [route, withPayload, withinLimit, hpayload, hexcess]

/-- A request is answered with the status and the content that its route answers with. -/
theorem answer?_handle [Uri.Idna] (h : app.Reaches r route) (choices : Choices) :
    (app.handle choices r).answer? = some ((app.route choices r route).answer?.getD failure) := by
  rw [handle_of_reaches h]
  unfold finish Handled.answer?
  cases (app.route choices r route).response with
  | none => rfl
  | some response => rfl

/-- What is sent for a request is what its route sends. -/
theorem sent_handle [Uri.Idna] (h : app.Reaches r route) (choices : Choices) :
    (app.handle choices r).sent = (app.route choices r route).sent := by
  rw [handle_of_reaches h]
  rfl

end App

/-! ## Payloads -/

section

variable {α : Type} {app : App} {check : Json → Field.Checked α} {route : Route} {r : Request}
  {id : String} {choices : Choices} {go : α → Scenario → Handled}

/-- An answer of success comes from the route, with the payload of the request and a scenario that
is known. -/
theorem withPayload_succeeds {content : Content}
    (h : (app.withPayload check route r id choices go).answer? = some (200, content)) :
    ∃ a s, payload check r = .ok a ∧ Scenario.find? id = some s ∧
      (go a s).answer? = some (200, content) := by
  unfold App.withPayload App.withinLimit at h
  cases hpayload : payload check r with
  | error fault =>
    rw [hpayload] at h
    cases fault <;> simp [Handled.answer?, refusePayload, Response.detail] at h
  | ok a =>
    rw [hpayload] at h
    cases hadmits : app.admits route r with
    | false => simp [hadmits, Handled.answer?, refuseExcess] at h
    | true =>
      simp only [hadmits, ↓reduceIte] at h
      cases hfind : Scenario.find? id with
      | none =>
        rw [hfind] at h
        simp [Handled.answer?, Response.detail] at h
      | some s =>
        rw [hfind] at h
        exact ⟨a, s, rfl, rfl, h⟩

end

/-! ## A scenario -/

/-- The first scenario. -/
def followersScenario : Scenario where
  id := "x-followers-100"
  name := "X Followers > 100"
  description := "Verify X account with more than 100 followers"
  provider := .x
  action := "claim_demo_x_airdrop"
  traits := [("followers", "gt:100")]

theorem find?_followersScenario : Scenario.find? "x-followers-100" = some followersScenario := by
  decide

end Eligibility.Http
