import Eligibility.Authority.Client
import Eligibility.Scenario
import Eligibility.Validation.Compare
set_option autoImplicit false

/-!
# The gate

A gate stands between a client and the verification authority.  It holds what a
relying party expects of one provider, checks a statement against it without any
request, and forwards only a statement that has no mismatch.  What it expects
comes from trusted code and is read when the gate is made, so a gate that exists
expects only traits that can be read and are well typed.  The provider is passed as its
word.
-/

namespace Eligibility

open Trait (Raw Requirement)
open Validation (Mismatch Verdict)

/-- A trait that a gate expects. -/
structure Expectation where
  name : String
  /-- The requirement as it was written. -/
  raw : String
  requirement : Requirement
  parses : Requirement.parse name (.text raw) = .ok requirement
  wellTyped : requirement.isWellTyped = true
  deriving Repr

/-- The expectation of a name and the text of a raw value. -/
def Expectation.read (name raw : String) : Except Trait.Fault Expectation :=
  match h : Requirement.parse name (.text raw) with
  | .error fault => .error fault
  | .ok requirement =>
    if wellTyped : requirement.isWellTyped then .ok ⟨name, raw, requirement, h, wellTyped⟩
    else
      .error (.unsupportedOperator requirement.operator requirement.value.kind name requirement.raw)

/-- What a relying party expects of a statement. -/
structure Gate where
  provider : String
  expected : List Expectation
  /-- The action that the statement must ask for. -/
  action : Option String := none
  deriving Repr

/-- What a gate decides: the verdict, and the response of the authority to a statement that was
forwarded. -/
structure Decision where
  verdict : Verdict
  response : Option Authority.Response := none
  deriving Repr

namespace Decision

/-- Whether the statement was forwarded. -/
def isForwarded (d : Decision) : Bool := d.response.isSome

/-- Whether the statement is valid and the authority verified it. -/
def isAccepted (d : Decision) : Bool :=
  d.verdict.isValid && d.response.any fun r => r.outcome = .verified

/-- The decision as JSON. -/
def toJson (d : Decision) : Json :=
  .object [("accepted", .boolean d.isAccepted), ("validation", d.verdict.toJson),
    ("authority", (d.response.map (·.toJson)).getD .null)]

end Decision

namespace Gate

/-- The gate of a provider, expected traits and perhaps an action.  Every raw value is written
before the first one is read. -/
def make (provider : String) (expected : Mapping Raw) (action : Option String) :
    Except Trait.Fault Gate := do
  let texts ← expected.mapM fun (name, raw) => do return (name, ← raw.render)
  let expected ← texts.mapM fun (name, raw) => Expectation.read name raw
  return ⟨provider, expected, action⟩

/-- The gate of a scenario. -/
def ofScenario (s : Scenario) : Except Trait.Fault Gate :=
  make s.provider.word (s.traits.mapValues .text) (some s.action)

/-- What a mismatch of the action is called. -/
def actionTrait : String := "action"

/-- The mismatch of the action, if there is one. -/
def compareAction (expected found : Option String) : Option Mismatch :=
  match expected with
  | none => none
  | some action =>
    if found = some action then none
    else some ⟨actionTrait, action, found, if found = none then .missing else .unexpectedAction⟩

/-- The expected traits, each as it was written. -/
def sides (g : Gate) : Mapping Validation.Side :=
  g.expected.map fun e => (e.name, .raw (.text e.raw))

/-- What a statement misses of the expectations. -/
def check (g : Gate) (message : String) : Except Resource.ScanFault Verdict := do
  let findings ← Resource.scan message
  let verdict ← (Validation.compareAll
    ((findings.traitsFor g.provider).mapValues .requirement) g.sides).mapError .trait
  return ⟨verdict.mismatches ++ (compareAction g.action findings.action).toList⟩

/-- Why a gate decides nothing. -/
inductive Fault where
  | scan (fault : Resource.ScanFault)
  /-- The statement is valid and there is no authority to ask. -/
  | noAuthority
  | authority (fault : Authority.Fault)
  /-- The answer of the authority could not be read. -/
  | unreadable (why : Authority.Unreadable)
  deriving Repr

/-- The fault of a submission without a response. -/
def Fault.ofFailure : Authority.Failure → Fault
  | .fault fault => .authority fault
  | .unreadable why => .unreadable why

/-- The wording of a missing authority. -/
def noAuthorityMessage : String := "No verification authority configured"

/-- The decision on a valid statement. -/
def forward (verdict : Verdict) (authority : Option Authority.Channel)
    (message signature : String) : Authority.Sent (Except Fault Decision) :=
  match authority with
  | none => ⟨.error .noAuthority, []⟩
  | some channel =>
    let sent := channel.submit message signature
    ⟨match sent.result with
      | .ok response => .ok ⟨verdict, some response⟩
      | .error failure => .error (.ofFailure failure), sent.requests⟩

/-- Check a statement and forward it if nothing is missing. -/
def verify (g : Gate) (authority : Option Authority.Channel) (message signature : String) :
    Authority.Sent (Except Fault Decision) :=
  match g.check message with
  | .error fault => ⟨.error (.scan fault), []⟩
  | .ok verdict =>
    if verdict.isValid then forward verdict authority message signature
    else ⟨.ok ⟨verdict, none⟩, []⟩

end Gate

end Eligibility
