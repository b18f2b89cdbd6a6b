import Eligibility.Proofs.Gate.Decision
import Eligibility.Proofs.Gate.Forward
import Eligibility.Proofs.Http.Route
set_option autoImplicit false

/-!
# HTTP: statements that are verified

The status of an answer tells what became of a signed statement: it was refused, there
is no authority to ask, the authority told one of its outcomes, or it failed.  An answer
of the authority that cannot be read, or cannot be written again because a number in it
is not finite, cannot be passed on, so then what became of the statement is told by no
status of its own.  A request beyond the limit does not come so far.
-/

namespace Eligibility

/-! ## Decisions as JSON -/

namespace Decision

/-- What the authority told of the statement. -/
def outcome? (d : Decision) : Option Authority.Outcome := d.response.map (·.outcome)

/-- What the authority answered can be written again, every number in it being finite. -/
def IsWritable (d : Decision) : Prop := ∀ response, d.response = some response →
  response.rewritable = true ∧ Json.membersFinite response.body = true

end Decision

theorem Validation.itemsFinite_mismatches (ms : List Validation.Mismatch) :
    Json.itemsFinite (ms.map (·.toJson)) = true := by
  induction ms with
  | nil => rfl
  | cons m ms ih =>
    have hm : m.toJson.isFinite = true := by
      cases hfound : m.found <;>
        simp [Validation.Mismatch.toJson, Json.isFinite, Json.membersFinite, Json.ofText?, hfound]
    simp [Json.itemsFinite, hm, ih]

/-- A verdict has no numbers. -/
theorem Validation.Verdict.isFinite_toJson (v : Validation.Verdict) : v.toJson.isFinite = true := by
  simp [Validation.Verdict.toJson, Json.isFinite, Json.membersFinite,
    Validation.itemsFinite_mismatches]

/-- A decision has the numbers that the authority answered with. -/
theorem Decision.isFinite_toJson {verdict : Validation.Verdict} {response : Authority.Response} :
    (Decision.mk verdict (some response)).toJson.isFinite =
      Json.membersFinite response.body := by
  simp [Decision.toJson, Authority.Response.toJson, Json.isFinite, Json.membersFinite,
    Validation.Verdict.isFinite_toJson]

namespace Http

open Authority (Channel Response Outcome)
open Statement (Choices)
open Validation (Verdict)

/-! ## What is answered -/

/-- The status and the content for what becomes of a statement at a gate. -/
def answerOf : Except Gate.Fault Decision → Nat × Content
  | .ok d => ((ofDecision d).map fun response => (response.status, response.content)).getD failure
  | .error fault =>
    ((refuseGate fault).map fun response => (response.status, response.content)).getD failure

theorem answerOf_refused (verdict : Verdict) :
    answerOf (.ok ⟨verdict, none⟩) = (400, .json verdict.toJson) := by
  simp [answerOf, ofDecision, Http.Response.json?, verdict.isFinite_toJson]

theorem isWritable_told {verdict : Verdict} {response : Authority.Response} :
    (Decision.mk verdict (some response)).IsWritable ↔
      response.rewritable = true ∧ Json.membersFinite response.body = true := by
  simp [Decision.IsWritable]

theorem answerOf_told {verdict : Verdict} {response : Authority.Response}
    (h : (Decision.mk verdict (some response)).IsWritable) :
    answerOf (.ok ⟨verdict, some response⟩) =
      (statusOf response.outcome, .json (Decision.mk verdict (some response)).toJson) := by
  obtain ⟨hrewritable, hfinite⟩ := isWritable_told.mp h
  simp [answerOf, ofDecision, Http.Response.json?, Decision.isFinite_toJson, hrewritable, hfinite]

theorem answerOf_broken {verdict : Verdict} {response : Authority.Response}
    (h : ¬ (Decision.mk verdict (some response)).IsWritable) :
    answerOf (.ok ⟨verdict, some response⟩) = failure := by
  rw [isWritable_told, not_and] at h
  cases hrewritable : response.rewritable with
  | false => simp [answerOf, ofDecision, hrewritable]
  | true =>
    simp [answerOf, ofDecision, Http.Response.json?, Decision.isFinite_toJson, hrewritable,
      h hrewritable]

theorem answerOf_unasked : answerOf (.error .noAuthority) =
    (503, (Http.Response.detail 503 Gate.noAuthorityMessage).content) := rfl

theorem answerOf_fault (fault : Authority.Fault) : answerOf (.error (.authority fault)) =
    (502, (Http.Response.detail 502 fault.message).content) := rfl

theorem answerOf_unreadable (why : Authority.Unreadable) :
    answerOf (.error (.unreadable why)) = failure := rfl

section

variable {app : App} {r : Request} {id : String} {p : VerifyPayload} {s : Scenario} {g : Gate}

/-- What is answered and sent for a signed statement is what becomes of it at the gate. -/
theorem App.handle_verify [Uri.Idna] (choices : Choices) (hreaches : app.Reaches r (.verify id))
    (hpayload : payload VerifyPayload.check r = .ok p)
    (hadmits : app.admits (.verify id) r = true) (hfind : Scenario.find? id = some s)
    (hgate : Gate.ofScenario s = .ok g) :
    (app.handle choices r).answer? =
        some (answerOf (g.verify app.authority p.message p.signature).result) ∧
      (app.handle choices r).sent = (g.verify app.authority p.message p.signature).requests := by
  rw [answer?_handle hreaches, sent_handle hreaches, route_verify hpayload hadmits hfind]
  cases hresult : (g.verify app.authority p.message p.signature).result with
  | ok d => simp [App.verify, hgate, hresult, Handled.answer?, answerOf]
  | error fault => simp [App.verify, hgate, hresult, Handled.answer?, answerOf]

end

theorem content_refuseExcess (id : String) : (refuseExcess (.verify id)).content =
    .json (.object [("error", .text "Rate limit exceeded: 60 per 1 minute")]) := by
  have htext : "Rate limit exceeded: " ++ toString (60 : Nat) ++ " per 1 minute" =
      "Rate limit exceeded: 60 per 1 minute" := by decide
  rw [refuseExcess, Route.limit, htext]

/-! ## The contract -/

/-- What the application promises of a signed statement on which its gate has a verdict: each status
tells one thing that became of the statement at the gate, and what is refused is not sent on. -/
structure AnswersVerdict (verdict : Verdict) (authority : Option Channel)
    (done : Authority.Sent (Except Gate.Fault Decision)) (h : Handled) : Prop where
  sent : h.sent = done.requests
  refused : (h.answer? = some (400, .json verdict.toJson) ∧ h.sent = []) ↔ verdict.isValid = false
  unasked : (h.answer?.map (·.1) = some 503 ∧ h.sent = []) ↔
    verdict.isValid = true ∧ authority = none
  accepted : h.answer?.map (·.1) = some 200 ↔
    ∃ d, done.result = .ok d ∧ d.isAccepted = true ∧ d.IsWritable
  notVerified : h.answer?.map (·.1) = some 404 ↔
    ∃ d, done.result = .ok d ∧ d.outcome? = some .notVerified ∧ d.IsWritable
  requirementsUnmet : (h.answer?.map (·.1) = some 400 ∧ h.sent ≠ []) ↔
    ∃ d, done.result = .ok d ∧ d.outcome? = some .requirementsUnmet ∧ d.IsWritable
  /-- What the authority told is passed on as it was decided. -/
  told : ∀ d, done.result = .ok d → d.isForwarded = true → d.IsWritable →
    h.answer?.map (·.2) = some (.json d.toJson)
  fault : h.answer?.map (·.1) = some 502 ↔
    ∃ fault, done.result = .error (.authority fault)
  /-- What cannot be read or cannot be written again is told as a failure inside. -/
  broken : h.answer? = some failure ↔
    (∃ d, done.result = .ok d ∧ d.isForwarded = true ∧ ¬ d.IsWritable) ∨
      ∃ why, done.result = .error (.unreadable why)

/-- The contract holds for whatever becomes of the statement. -/
theorem answersVerdict_of_verifies {g : Gate} {authority : Option Channel}
    {message signature : String} {done : Authority.Sent (Except Gate.Fault Decision)}
    (hdone : g.Verifies authority message signature done) {verdict : Verdict}
    (hcheck : g.check message = .ok verdict) {h : Handled}
    (hanswer : h.answer? = some (answerOf done.result)) (hsent : h.sent = done.requests) :
    AnswersVerdict verdict authority done h := by
  have hverdict : ∀ other, g.check message = .ok other → other = verdict := by
    intro other hother
    exact Except.ok.inj (hother.symm.trans hcheck)
  cases hdone with
  | unread hfault => simp [hcheck] at hfault
  | refused hother hinvalid =>
    obtain rfl := hverdict _ hother
    rw [answerOf_refused] at hanswer
    constructor <;> simp [hanswer, hsent, hinvalid, failure, Decision.isAccepted,
      Decision.outcome?, Decision.isForwarded]
  | unasked hother hvalid hnone =>
    obtain rfl := hverdict _ hother
    rw [answerOf_unasked] at hanswer
    constructor <;> simp [hanswer, hsent, hvalid, hnone, failure]
  | answered hother hvalid hsome hread =>
    next verdict _ response =>
    obtain rfl := hverdict _ hother
    by_cases hwritable : (Decision.mk verdict (some response)).IsWritable
    · rw [answerOf_told hwritable] at hanswer
      cases houtcome : response.outcome <;>
      constructor <;> simp [hanswer, hsent, hvalid, hsome, houtcome, hwritable,
        statusOf, failure, Decision.outcome?, Decision.isForwarded, Decision.isAccepted]
    · rw [answerOf_broken hwritable] at hanswer
      constructor <;> simp [hanswer, hsent, hvalid, hsome, hwritable, failure,
        Decision.isForwarded]
  | unanswered hother hvalid hsome hread =>
    next why =>
    obtain rfl := hverdict _ hother
    cases why with
    | fault fault =>
      simp only [Gate.Fault.ofFailure, answerOf_fault] at hanswer
      constructor <;> simp [hanswer, hsent, hvalid, hsome, failure, Gate.Fault.ofFailure]
    | unreadable why =>
      simp only [Gate.Fault.ofFailure, answerOf_unreadable] at hanswer
      constructor <;> simp [hanswer, hsent, hvalid, hsome, failure, Gate.Fault.ofFailure]

/-- Validation comes before forwarding.  A gate asks the authority about a statement once if it
finds the statement valid, and else not at all; and for every scenario the application answers with
what became of the statement, unless what the authority answered cannot be read or written again.
Beyond the limit of requests it only says so, and asks nobody. -/
theorem validatesFirst_answersVerdict [Uri.Idna] (message signature : String) :
    (∀ (g : Gate) (authority : Option Channel), g.ValidatesFirst authority message signature) ∧
    ∀ (app : App) (choices : Choices) (r : Request) (id : String) (s : Scenario),
      app.Reaches r (.verify id) →
      payload VerifyPayload.check r = .ok ⟨message, signature⟩ → Scenario.find? id = some s →
      ∃ g, Gate.ofScenario s = .ok g ∧
        (app.admits (.verify id) r = true → ∀ verdict, g.check message = .ok verdict →
          AnswersVerdict verdict app.authority (g.verify app.authority message signature)
            (app.handle choices r)) ∧
        (app.admits (.verify id) r = false →
          (app.handle choices r).answer? = some (429, .json (.object
            [("error", .text "Rate limit exceeded: 60 per 1 minute")])) ∧
          (app.handle choices r).sent = []) := by
  constructor
  · intro g authority
    exact g.validatesFirst authority message signature
  · intro app choices r id s hreaches hpayload hfind
    obtain ⟨⟨g, hg⟩, -, -⟩ := Gate.ofScenario_of_mem (List.mem_of_find?_eq_some hfind)
    refine ⟨g, hg, ?_, ?_⟩
    · intro hadmits verdict hcheck
      obtain ⟨hanswer, hsent⟩ := App.handle_verify choices hreaches hpayload hadmits hfind hg
      have hdone := g.verifies_verify app.authority message signature
      exact answersVerdict_of_verifies hdone hcheck hanswer hsent
    · intro hexcess
      rw [App.answer?_handle hreaches, App.sent_handle hreaches,
        App.route_verify_of_excess hpayload hexcess, ← content_refuseExcess id]
      exact ⟨rfl, rfl⟩

/-! ## Answers of an authority -/

/-- An application whose authority verifies every statement, with one body. -/
def verifyingApp (body : Mapping Json) : App where
  settings := {}
  authority := some ⟨⟨"https://verify.base.dev/v1", "key", Authority.Client.defaultTimeout,
    by decide⟩, fun _ => .json 200 (.object body) true⟩
  now := ⟨0, some 0, by decide⟩
  admits := fun _ _ => true

/-- A statement that meets the scenario of followers. -/
def followersStatement : String := "Resources:\n- urn:verify:provider:x:followers:gt:100\n- " ++
  "urn:verify:action:claim_demo_x_airdrop"

/-- A request to verify it. -/
def signedRequest : Request where
  method := "POST"
  path := "/api/v1/scenarios/x-followers-100/verify"
  headers := [("host", "localhost"), ("content-type", "application/json")]
  body := "\x7b\"message\": \"Resources:\\n- urn:verify:provider:x:followers:gt:100\\n- " ++
    "urn:verify:action:claim_demo_x_airdrop\", \"signature\": \"0xsig\"\x7d"

theorem payload_signedRequest :
    payload VerifyPayload.check signedRequest = .ok ⟨followersStatement, "0xsig"⟩ := by
  rw [← Outcome.toOption_eq_some]
  decide +kernel

theorem reaches_signedRequest (body : Mapping Json) :
    (verifyingApp body).Reaches signedRequest (.verify "x-followers-100") where
  admitted := by
    have htrusted : standing ({} : Settings).trustedHosts "localhost" = .admitted := by
      decide +kernel
    exact htrusted
  path := by decide +kernel
  method := rfl

/-- The statement meets the gate of its scenario. -/
theorem check_followersStatement : ∃ g, Gate.ofScenario followersScenario = .ok g ∧
    g.check followersStatement = .ok ⟨[]⟩ :=
  ⟨_, by rfl, by rfl⟩

/-- The statement is accepted if the authority answers that it is verified. -/
theorem verify_followersStatement {g : Gate} (hcheck : g.check followersStatement = .ok ⟨[]⟩)
    (body : Mapping Json) :
    (g.verify (verifyingApp body).authority followersStatement "0xsig").result =
      .ok ⟨⟨[]⟩, some ⟨.verified, 200, body, true⟩⟩ := by
  rw [verifyingApp, Gate.verify_of_answered hcheck rfl rfl]
  rfl

section

attribute [local instance] Uri.Idna.plain

/-- A token that the authority answers with reaches the one who asks for it. -/
theorem validatesFirst_answersVerdict_token :
    ∃ g d, Gate.ofScenario followersScenario = .ok g ∧
      (g.verify (verifyingApp [("token", .text "tok")]).authority
        followersStatement "0xsig").result = .ok d ∧ d.isAccepted = true ∧
      ((verifyingApp [("token", .text "tok")]).handle ⟨id, 0⟩
        signedRequest).answer?.map (·.1) = some 200 := by
  obtain ⟨-, happs⟩ := validatesFirst_answersVerdict followersStatement "0xsig"
  obtain ⟨g, hg, hanswers, -⟩ := happs (verifyingApp [("token", .text "tok")])
    ⟨id, 0⟩ signedRequest "x-followers-100" followersScenario (reaches_signedRequest _)
    payload_signedRequest find?_followersScenario
  obtain ⟨g', hg', hcheck⟩ := check_followersStatement
  obtain rfl := Except.ok.inj (hg.symm.trans hg')
  have hdone := verify_followersStatement hcheck [("token", .text "tok")]
  refine ⟨g, _, hg, hdone, rfl, ?_⟩
  exact (hanswers rfl _ hcheck).accepted.mpr ⟨_, hdone, rfl, isWritable_told.mpr ⟨rfl, rfl⟩⟩

/-- An accepted statement is not answered as one if the authority adds a number that is not
finite. -/
theorem accepted_not_answered :
    ∃ g d, Gate.ofScenario followersScenario = .ok g ∧
      (verifyingApp [("expires_in", .real (.infinite false))]).Reaches
        signedRequest (.verify "x-followers-100") ∧
      payload VerifyPayload.check signedRequest = .ok ⟨followersStatement, "0xsig"⟩ ∧
      (g.verify (verifyingApp [("expires_in", .real (.infinite false))]).authority
        followersStatement "0xsig").result = .ok d ∧ d.isAccepted = true ∧
      ((verifyingApp [("expires_in", .real (.infinite false))]).handle ⟨id, 0⟩
        signedRequest).answer?.map (·.1) = some 500 := by
  obtain ⟨g, hg, hcheck⟩ := check_followersStatement
  have hdone := verify_followersStatement hcheck [("expires_in", .real (.infinite false))]
  obtain ⟨hanswer, -⟩ := App.handle_verify ⟨id, 0⟩
    (reaches_signedRequest [("expires_in", .real (.infinite false))]) payload_signedRequest
    rfl find?_followersScenario hg
  refine ⟨g, _, hg, reaches_signedRequest _, payload_signedRequest, hdone, rfl, ?_⟩
  rw [hanswer, hdone,
    answerOf_broken (by simp [isWritable_told, Json.membersFinite, Json.isFinite])]
  rfl

end

end Http

end Eligibility
