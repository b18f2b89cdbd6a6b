import Eligibility.Json.Writer
set_option autoImplicit false

/-!
# Validation: mismatches and verdicts

A verdict lists every expectation that a statement does not meet.  It is valid
exactly when the list is empty, so validity is not stored.
-/

namespace Eligibility.Validation

/-- Why an expectation is not met. -/
inductive Reason where
  | missing
  | notStrictEnough
  | unsupportedOperator
  | invalidValue
  | unexpectedAction
  deriving DecidableEq, Repr

/-- The word of a reason. -/
def Reason.word : Reason → String
  | .missing => "missing"
  | .notStrictEnough => "not_strict_enough"
  | .unsupportedOperator => "unsupported_operator"
  | .invalidValue => "invalid_value"
  | .unexpectedAction => "unexpected_action"

/-- An expectation that a statement does not meet. -/
structure Mismatch where
  trait : String
  expected : String
  found : Option String
  reason : Reason
  deriving DecidableEq, Repr

/-- The mismatch as JSON. -/
def Mismatch.toJson (m : Mismatch) : Json :=
  .object [("trait", .text m.trait), ("expected", .text m.expected), ("found", .ofText? m.found),
    ("reason", .text m.reason.word)]

/-- What a comparison with the expectations found. -/
structure Verdict where
  mismatches : List Mismatch
  deriving DecidableEq, Repr

namespace Verdict

/-- Whether every expectation is met. -/
def isValid (v : Verdict) : Bool := v.mismatches.isEmpty

/-- The verdict as JSON. -/
def toJson (v : Verdict) : Json :=
  .object [("valid", .boolean v.isValid), ("mismatches", .array (v.mismatches.map (·.toJson)))]

/-- The verdict as JSON text. -/
def toText (v : Verdict) (indent : Option Nat) : String := Json.write indent v.toJson

end Verdict

end Eligibility.Validation
