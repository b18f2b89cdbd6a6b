import Eligibility.Gate
import Eligibility.Proofs.Outcome
set_option autoImplicit false

/-!
# The gate: validation before forwarding

A gate asks the authority about a statement only after the statement was found valid,
and then exactly once.  What the authority says of it has one of three outcomes, which
the status and the body of its answer tell, or it is a fault; and the decision says
which.  An answer that cannot be read is neither.
-/

namespace Eligibility

/-! ## What an answer tells -/

namespace Authority

/-- The status of an answer, if there is one. -/
def Answer.status? : Answer → Option Int
  | .json status _ _ | .text status _ | .unreadable status _ => some status
  | .unreachable _ => none

/-- The body of an answer can be read, if there is one. -/
def Answer.IsReadable (a : Answer) : Prop := ∀ status why, a ≠ .unreadable status why

/-- What tells an outcome.  Two of them have a status of their own; that the traits miss the
requirements is told by a JSON object that says so. -/
def Answer.Tells (a : Answer) : Outcome → Prop
  | .verified => a.status? = some 200
  | .notVerified => a.status? = some 404
  | .requirementsUnmet => ∃ members rewritable, a = .json 400 (.object members) rewritable ∧
      Mapping.get? "message" members = some (.text "verification_traits_not_satisfied")

theorem exists_respond {status : Int} {body : Mapping Json} {rewritable : Bool}
    {outcome : Outcome} :
    (∃ response, respond status body rewritable = .ok response ∧ response.outcome = outcome) ↔
      classify status body = some outcome := by
  unfold respond
  cases classify status body with
  | none => simp
  | some found => simp

/-- Only an object can say that the traits miss the requirements. -/
theorem membersOf_says_unmet {body : Json} :
    ((membersOf body).get? "message").bind Json.text? = some unmetMessage ↔
      ∃ members, body = .object members ∧
        Mapping.get? "message" members = some (.text unmetMessage) := by
  cases body with
  | object members => simp [membersOf, Option.bind_eq_some_iff, Json.text?_eq_some]
  | null | boolean _ | whole _ | real _ | text _ | array _ => simp [membersOf, Mapping.get?]

/-- What is no response is told as a fault of the authority. -/
theorem respond_eq_error {status : Int} {body : Mapping Json} {rewritable : Bool}
    {failure : Failure} (h : respond status body rewritable = .error failure) :
    ∃ fault, failure = .fault fault := by
  unfold respond at h
  split at h
  · simp at h
  · exact ⟨_, (Except.error.inj h).symm⟩

/-- An answer has an outcome exactly if it can be read and tells it. -/
theorem Answer.tells_iff {a : Answer} {outcome : Outcome} :
    (a.IsReadable ∧ a.Tells outcome) ↔
      ∃ response, a.read = .ok response ∧ response.outcome = outcome := by
  cases a with
  | unreachable reason => cases outcome <;> simp [Answer.Tells, Answer.status?, Answer.read]
  | unreadable status why => simp [Answer.IsReadable, Answer.read]
  | text status body =>
    simp only [Answer.read, exists_respond]
    cases outcome with
    | verified => simp [Answer.IsReadable, Answer.Tells, Answer.status?, classify_eq_verified]
    | notVerified => simp [Answer.IsReadable, Answer.Tells, Answer.status?, classify_eq_notVerified]
    | requirementsUnmet => simp [Answer.Tells, classify_eq_requirementsUnmet, Mapping.get?]
  | json status body rewritable =>
    simp only [Answer.read, exists_respond]
    cases outcome with
    | verified => simp [Answer.IsReadable, Answer.Tells, Answer.status?, classify_eq_verified]
    | notVerified => simp [Answer.IsReadable, Answer.Tells, Answer.status?, classify_eq_notVerified]
    | requirementsUnmet =>
      rw [classify_eq_requirementsUnmet, membersOf_says_unmet]
      constructor
      · rintro ⟨-, members, _, heq, hmessage⟩
        obtain ⟨rfl, rfl, -⟩ := Answer.json.inj heq
        exact ⟨rfl, members, rfl, hmessage⟩
      · rintro ⟨rfl, members, rfl, hmessage⟩
        exact ⟨by simp [Answer.IsReadable], members, rewritable, rfl, hmessage⟩

/-- An answer without a response is a fault exactly if it can be read. -/
theorem Answer.isReadable_of_read {a : Answer} {failure : Failure}
    (h : a.read = .error failure) :
    a.IsReadable ↔ ∃ fault, failure = .fault fault := by
  cases a with
  | json | text =>
    simp only [Answer.IsReadable, ne_eq, reduceCtorEq, not_false_eq_true, implies_true, true_iff]
    exact respond_eq_error h
  | unreadable status why =>
    obtain rfl := Except.error.inj h
    simp [Answer.IsReadable]
  | unreachable reason =>
    obtain rfl := Except.error.inj h
    simp [Answer.IsReadable]

/-- An answer is a fault exactly if it can be read and tells no outcome. -/
theorem Answer.read_eq_fault_iff {a : Answer} :
    (∃ fault, a.read = .error (.fault fault)) ↔
      a.IsReadable ∧ ∀ outcome, ¬ a.Tells outcome := by
  have htells : ∀ outcome, a.IsReadable ∧ a.Tells outcome ↔
      ∃ response, a.read = .ok response ∧ response.outcome = outcome :=
    fun outcome => Answer.tells_iff
  cases hread : a.read with
  | ok response =>
    have htold : a.Tells response.outcome :=
      ((htells response.outcome).mpr ⟨response, hread, rfl⟩).2
    simp only [reduceCtorEq, exists_false, false_iff, not_and]
    intro _ hnone
    exact hnone response.outcome htold
  | error failure =>
    have hreadable := Answer.isReadable_of_read hread
    simp only [hread, reduceCtorEq, false_and, exists_false, iff_false, not_and] at htells
    simp only [Except.error.injEq, ← hreadable]
    exact ⟨fun h => ⟨h, fun outcome => htells outcome h⟩, And.left⟩

/-- An answer is no fault and has no outcome exactly if it cannot be read. -/
theorem Answer.read_eq_unreadable_iff {a : Answer} :
    (∃ why, a.read = .error (.unreadable why)) ↔ ¬ a.IsReadable := by
  cases a with
  | unreadable status why => simp [Answer.IsReadable, Answer.read]
  | json | text =>
    simp only [Answer.IsReadable, ne_eq, reduceCtorEq, not_false_eq_true, implies_true, not_true,
      iff_false]
    intro ⟨why, h⟩
    obtain ⟨fault, hfault⟩ := respond_eq_error h
    simp at hfault
  | unreachable reason => simp [Answer.IsReadable, Answer.read]

end Authority

/-! ## What a gate does with a statement -/

namespace Gate

open Authority (Answer Channel Response)
open Validation (Verdict)

variable {g : Gate} {authority : Option Channel} {message signature : String}

/-- A statement is forwarded if the gate finds it valid and there is an authority to ask. -/
structure Forwards (g : Gate) (authority : Option Channel) (message : String) (channel : Channel) :
    Prop where
  valid : ∃ verdict, g.check message = .ok verdict ∧ verdict.isValid = true
  asks : authority = some channel

/-- What the authority answers to a statement that is forwarded. -/
def answerTo (channel : Channel) (message signature : String) : Answer :=
  channel.send (channel.client.request message signature)

/-- Everything that can become of a statement at a gate, with what is sent for it. -/
inductive Verifies (g : Gate) (authority : Option Channel) (message signature : String) :
    Authority.Sent (Except Fault Decision) → Prop where
  /-- The statement cannot be read. -/
  | unread {fault} (h : g.check message = .error fault) :
    Verifies g authority message signature ⟨.error (.scan fault), []⟩
  /-- The statement misses something. -/
  | refused {verdict} (h : g.check message = .ok verdict) (hinvalid : verdict.isValid = false) :
    Verifies g authority message signature ⟨.ok ⟨verdict, none⟩, []⟩
  | unasked {verdict} (h : g.check message = .ok verdict) (hvalid : verdict.isValid = true)
    (hnone : authority = none) : Verifies g authority message signature ⟨.error .noAuthority, []⟩
  | answered {verdict channel response} (h : g.check message = .ok verdict)
    (hvalid : verdict.isValid = true) (hsome : authority = some channel)
    (hread : (answerTo channel message signature).read = .ok response) :
    Verifies g authority message signature
      ⟨.ok ⟨verdict, some response⟩, [channel.client.request message signature]⟩
  | unanswered {verdict channel failure} (h : g.check message = .ok verdict)
    (hvalid : verdict.isValid = true) (hsome : authority = some channel)
    (hread : (answerTo channel message signature).read = .error failure) :
    Verifies g authority message signature
      ⟨.error (.ofFailure failure), [channel.client.request message signature]⟩

theorem submit_eq (channel : Channel) (message signature : String) :
    channel.submit message signature =
      ⟨(answerTo channel message signature).read, [channel.client.request message signature]⟩ := rfl

theorem verifies_forward {verdict : Verdict} (hcheck : g.check message = .ok verdict)
    (hvalid : verdict.isValid = true) :
    Verifies g authority message signature (forward verdict authority message signature) := by
  cases authority with
  | none => exact .unasked hcheck hvalid rfl
  | some channel =>
    simp only [forward, submit_eq]
    cases hread : (answerTo channel message signature).read with
    | ok response => exact .answered hcheck hvalid rfl hread
    | error failure => exact .unanswered hcheck hvalid rfl hread

/-- Nothing else can become of a statement. -/
theorem verifies_verify (g : Gate) (authority : Option Channel) (message signature : String) :
    Verifies g authority message signature (g.verify authority message signature) := by
  unfold verify
  cases hcheck : g.check message with
  | error fault => exact .unread hcheck
  | ok verdict =>
    by_cases hvalid : verdict.isValid = true
    · simp only [hvalid, ↓reduceIte]
      exact verifies_forward hcheck hvalid
    · simp only [hvalid, Bool.false_eq_true, ↓reduceIte]
      exact .refused hcheck (Bool.not_eq_true _ ▸ hvalid)

/-- A valid statement is decided by what the answer of the authority says. -/
theorem verify_of_answered {verdict : Verdict} {channel : Channel} {response : Response}
    (hcheck : g.check message = .ok verdict) (hvalid : verdict.isValid = true)
    (hread : (answerTo channel message signature).read = .ok response) :
    g.verify (some channel) message signature =
      ⟨.ok ⟨verdict, some response⟩, [channel.client.request message signature]⟩ := by
  simp only [verify, hcheck, hvalid, forward, submit_eq, hread, ↓reduceIte]

/-! ## The contract -/

/-- The fault of a submission is none of the gate itself. -/
@[simp] theorem noAuthority_ne_ofFailure (failure : Authority.Failure) :
    .noAuthority ≠ Fault.ofFailure failure := by
  cases failure <;> simp [Fault.ofFailure]

@[simp] theorem scan_ne_ofFailure (fault : Resource.ScanFault) (failure : Authority.Failure) :
    .scan fault ≠ Fault.ofFailure failure := by
  cases failure <;> simp [Fault.ofFailure]

/-- What a gate promises: it asks about a statement once if the statement is valid and there is an
authority, and else not at all; and what it decides is what the authority tells. -/
structure ValidatesFirst (g : Gate) (authority : Option Channel) (message signature : String) :
    Prop where
  silent : (∀ channel, ¬ g.Forwards authority message channel) →
    (g.verify authority message signature).requests = []
  once : ∀ channel, g.Forwards authority message channel →
    ∃ request, (g.verify authority message signature).requests = [request] ∧
      request.body = .object [("message", .text message), ("signature", .text signature)]
  accepted : (∃ d, (g.verify authority message signature).result = .ok d ∧ d.isAccepted = true) ↔
    ∃ channel, g.Forwards authority message channel ∧
      (answerTo channel message signature).IsReadable ∧
      (answerTo channel message signature).status? = some 200
  outcome : ∀ outcome, (∃ d response, (g.verify authority message signature).result = .ok d ∧
      d.response = some response ∧ response.outcome = outcome) ↔
    ∃ channel, g.Forwards authority message channel ∧
      (answerTo channel message signature).IsReadable ∧
      (answerTo channel message signature).Tells outcome
  fault : (∃ fault, (g.verify authority message signature).result = .error (.authority fault)) ↔
    ∃ channel, g.Forwards authority message channel ∧
      (answerTo channel message signature).IsReadable ∧
      ∀ outcome, ¬ (answerTo channel message signature).Tells outcome
  /-- What cannot be read is told as no fault of the authority. -/
  unreadable : (∃ why, (g.verify authority message signature).result = .error (.unreadable why)) ↔
    ∃ channel, g.Forwards authority message channel ∧
      ¬ (answerTo channel message signature).IsReadable

theorem forwards_iff {verdict : Verdict} (hcheck : g.check message = .ok verdict)
    {channel : Channel} : g.Forwards authority message channel ↔
      verdict.isValid = true ∧ authority = some channel := by
  constructor
  · intro h
    obtain ⟨verdict', hcheck', hvalid⟩ := h.valid
    obtain rfl := Except.ok.inj (hcheck.symm.trans hcheck')
    exact ⟨hvalid, h.asks⟩
  · intro h
    exact ⟨⟨verdict, hcheck, h.1⟩, h.2⟩

theorem not_forwards_of_error {fault : Resource.ScanFault} (hcheck : g.check message = .error fault)
    (channel : Channel) : ¬ g.Forwards authority message channel := by
  intro h
  obtain ⟨verdict, hok, -⟩ := h.valid
  simp [hcheck] at hok

/-- A decision on a statement that was not forwarded has no response, so it is not accepted. -/
theorem not_isAccepted {d : Decision} (h : d.response = none) : d.isAccepted = false := by
  simp [Decision.isAccepted, h]

/-- The contract holds where nothing is sent and nothing comes from the authority. -/
theorem validatesFirst_of_silent (hnot : ∀ channel, ¬ g.Forwards authority message channel)
    (hrequests : (g.verify authority message signature).requests = [])
    (hresponse : ∀ d, (g.verify authority message signature).result = .ok d → d.response = none)
    (hfault : ∀ failure, (g.verify authority message signature).result ≠
      .error (.ofFailure failure)) :
    g.ValidatesFirst authority message signature where
  silent := fun _ => hrequests
  once := fun channel hforwards => absurd hforwards (hnot channel)
  accepted := by
    constructor
    · intro ⟨d, hd, haccepted⟩
      simp [not_isAccepted (hresponse d hd)] at haccepted
    · intro ⟨channel, hforwards, _⟩
      exact absurd hforwards (hnot channel)
  outcome := by
    intro outcome
    constructor
    · intro ⟨d, response, hd, hsome, _⟩
      simp [hresponse d hd] at hsome
    · intro ⟨channel, hforwards, _⟩
      exact absurd hforwards (hnot channel)
  fault := by
    constructor
    · intro ⟨fault, hf⟩
      exact absurd hf (hfault (.fault fault))
    · intro ⟨channel, hforwards, _⟩
      exact absurd hforwards (hnot channel)
  unreadable := by
    constructor
    · intro ⟨why, hwhy⟩
      exact absurd hwhy (hfault (.unreadable why))
    · intro ⟨channel, hforwards, _⟩
      exact absurd hforwards (hnot channel)

/-- The channel of a statement that is forwarded is the one that there is. -/
theorem exists_forwards {channel : Channel} (h : g.Forwards authority message channel)
    {P : Channel → Prop} :
    (∃ other, g.Forwards authority message other ∧ P other) ↔ P channel := by
  constructor
  · intro ⟨other, hother, hP⟩
    obtain rfl := Option.some.inj (hother.asks.symm.trans h.asks)
    exact hP
  · intro hP
    exact ⟨channel, h, hP⟩

theorem ofFailure_eq_authority {failure : Authority.Failure} {fault : Authority.Fault} :
    Fault.ofFailure failure = .authority fault ↔ failure = .fault fault := by
  cases failure <;> simp [Fault.ofFailure]

theorem ofFailure_eq_unreadable {failure : Authority.Failure} {why : Authority.Unreadable} :
    Fault.ofFailure failure = .unreadable why ↔ failure = .unreadable why := by
  cases failure <;> simp [Fault.ofFailure]

/-- The contract holds where the answer of the authority is passed on. -/
theorem validatesFirst_of_forwards {channel : Channel} {verdict : Verdict}
    (hforwards : g.Forwards authority message channel) (hvalid : verdict.isValid = true)
    (hverify : g.verify authority message signature =
      ⟨match (answerTo channel message signature).read with
        | .ok response => .ok ⟨verdict, some response⟩
        | .error failure => .error (.ofFailure failure),
        [channel.client.request message signature]⟩) :
    g.ValidatesFirst authority message signature := by
  have htells : ∀ outcome, (∃ d response,
      (g.verify authority message signature).result = .ok d ∧
        d.response = some response ∧ response.outcome = outcome) ↔
      (answerTo channel message signature).IsReadable ∧
        (answerTo channel message signature).Tells outcome := by
    intro outcome
    rw [Answer.tells_iff, hverify]
    cases (answerTo channel message signature).read with
    | error failure => simp
    | ok response => simp
  refine ⟨?_, ?_, ?_, ?_, ?_, ?_⟩
  · intro hnot
    exact absurd hforwards (hnot channel)
  · intro other hother
    obtain rfl := Option.some.inj (hother.asks.symm.trans hforwards.asks)
    exact ⟨_, by rw [hverify], rfl⟩
  · rw [exists_forwards hforwards]
    refine Iff.trans ?_ (htells .verified)
    rw [hverify]
    cases (answerTo channel message signature).read with
    | error failure => simp
    | ok response => simp [Decision.isAccepted, hvalid]
  · intro outcome
    rw [exists_forwards hforwards]
    exact htells outcome
  · rw [exists_forwards hforwards, ← Answer.read_eq_fault_iff, hverify]
    cases (answerTo channel message signature).read with
    | error failure => simp [ofFailure_eq_authority]
    | ok response => simp
  · rw [exists_forwards hforwards, ← Answer.read_eq_unreadable_iff, hverify]
    cases (answerTo channel message signature).read with
    | error failure => simp [ofFailure_eq_unreadable]
    | ok response => simp

/-- Every gate keeps the contract, for every statement and every authority. -/
theorem validatesFirst (g : Gate) (authority : Option Channel) (message signature : String) :
    g.ValidatesFirst authority message signature := by
  have hcases := verifies_verify g authority message signature
  generalize hsent : g.verify authority message signature = sent at hcases
  cases hcases with
  | unread hcheck =>
    refine validatesFirst_of_silent (not_forwards_of_error hcheck) ?_ ?_ ?_ <;> simp [hsent]
  | refused hcheck hinvalid =>
    have hnot : ∀ channel, ¬ g.Forwards authority message channel := by
      simp [forwards_iff hcheck, hinvalid]
    refine validatesFirst_of_silent hnot ?_ ?_ ?_ <;> simp [hsent]
  | unasked hcheck hvalid hnone =>
    have hnot : ∀ channel, ¬ g.Forwards authority message channel := by
      simp [forwards_iff hcheck, hnone]
    refine validatesFirst_of_silent hnot ?_ ?_ ?_ <;> simp [hsent]
  | answered hcheck hvalid hsome hread =>
    have hforwards := (forwards_iff hcheck).mpr ⟨hvalid, hsome⟩
    exact validatesFirst_of_forwards hforwards hvalid (by rw [hsent, hread])
  | unanswered hcheck hvalid hsome hread =>
    have hforwards := (forwards_iff hcheck).mpr ⟨hvalid, hsome⟩
    exact validatesFirst_of_forwards hforwards hvalid (by rw [hsent, hread])

end Gate

end Eligibility
