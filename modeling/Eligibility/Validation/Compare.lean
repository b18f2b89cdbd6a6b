import Eligibility.Mapping
import Eligibility.Resource.Scan
import Eligibility.Trait.Strictness
import Eligibility.Validation.Basic
set_option autoImplicit false

/-!
# Validation: comparing traits

Each expected trait is compared with the one of the same name that was found.
A side that is found to be nothing counts as one that is not found.  A side that
cannot be read counts against the statement and is no fault; the one exception is
a number with more digits than are read or written.
-/

namespace Eligibility.Validation

open Trait (Fault Raw Requirement)

/-- A trait in a comparison: as a caller wrote it, or already read. -/
inductive Side where
  | raw (raw : Raw)
  | requirement (requirement : Requirement)
  deriving DecidableEq, Repr

namespace Side

/-- The text of a side, whatever its length. -/
def written : Side → String
  | raw r => r.written
  | requirement r => r.raw

/-- The text of a side in a mismatch. -/
def text : Side → Except Fault String
  | raw r => r.render
  | requirement r => .ok r.raw

/-- Whether a side is nothing. -/
def isAbsent : Side → Bool
  | raw .absent => true
  | _ => false

/-- The requirement of a side. -/
def read (name : String) : Side → Except Fault Requirement
  | raw r => Requirement.parse name r
  | requirement r => .ok r

end Side

/-- The requirements of both sides; none if the grammar does not allow one of them. -/
def readBoth (name : String) (found expected : Side) :
    Except Fault (Option (Requirement × Requirement)) :=
  match expected.read name with
  | .error fault => if fault.isGrammar then .ok none else .error fault
  | .ok expected =>
    match found.read name with
    | .error fault => if fault.isGrammar then .ok none else .error fault
    | .ok found => .ok (some (found, expected))

/-- Why a requirement that was found does not meet the expected one. -/
def reasonAgainst? (found expected : Requirement) : Option Reason :=
  if !expected.isWellTyped || !found.isWellTyped then some .unsupportedOperator
  else if found.atLeastAsStrict expected then none
  else some .notStrictEnough

/-- The mismatch of one trait, if there is one. -/
def compare (name : String) (found : Option Side) (expected : Side) :
    Except Fault (Option Mismatch) := do
  let expectedText ← expected.text
  match found.filter (!·.isAbsent) with
  | none => return some ⟨name, expectedText, none, .missing⟩
  | some found =>
    let foundText ← found.text
    let reason := match ← readBoth name found expected with
      | none => some Reason.invalidValue
      | some (f, e) => reasonAgainst? f e
    return reason.map fun reason => ⟨name, expectedText, some foundText, reason⟩

section

variable {name : String} {given : Option Side} {found expected : Side} {expectedText : String}

/-- An expected trait of which nothing was found is missing. -/
theorem compare_of_absent (hexpected : expected.text = .ok expectedText)
    (h : given.filter (!·.isAbsent) = none) :
    compare name given expected = .ok (some ⟨name, expectedText, none, .missing⟩) := by
  simp only [compare, hexpected, h]
  rfl

/-- What was found is written, and then both sides are read. -/
theorem compare_of_present {foundText : String} (hexpected : expected.text = .ok expectedText)
    (h : given.filter (!·.isAbsent) = some found) (hfound : found.text = .ok foundText) :
    compare name given expected = (readBoth name found expected).map fun both =>
      (match both with
        | none => some Reason.invalidValue
        | some (f, e) => reasonAgainst? f e).map fun reason =>
          ⟨name, expectedText, some foundText, reason⟩ := by
  simp only [compare, hexpected, h, hfound]
  cases readBoth name found expected <;> rfl

end

/-- The mismatches of the expected traits, in their order. -/
def compareAll (found expected : Mapping Side) : Except Fault Verdict := do
  let results ← expected.mapM fun (name, side) => compare name (Mapping.get? name found) side
  return ⟨results.filterMap id⟩

/-- The mismatches of the traits of a provider in a statement. -/
def compareStatement (message provider : String) (expected : Mapping Side) :
    Except Resource.ScanFault Verdict := do
  let found ← Resource.traitsIn message provider
  (compareAll (found.mapValues .requirement) expected).mapError .trait

end Eligibility.Validation
