import Eligibility.Mapping
import Eligibility.Resource.Line
set_option autoImplicit false

/-!
# Resources: building the section

The resources of a statement always stand in one order: the provider, its
traits in the caller's order, the action, the verification.  A part that the
caller leaves empty is left out; traits without a provider are too.

A part that is a member of an enumeration, as a provider may be, is passed as its word.
-/

namespace Eligibility.Resource

open Trait (Fault Raw Requirement)

/-- What a caller asks a statement to hold. -/
structure Request where
  provider : Json := .null
  traits : Mapping Raw := []
  action : Json := .null
  verification : Json := .null
  /-- Whether an operator that does not fit its value is refused. -/
  strict : Bool := false
  deriving Repr

/-- Refuse a trait whose operator does not fit its value. -/
def requireWellTyped (name : String) (raw : Raw) : Except Fault Unit := do
  let requirement ← Requirement.parse name raw
  let _ ← requirement.ensureWellTyped

/-- The line of one trait, checked first if `strict`. -/
def checkedTrait (strict : Bool) (provider : Json) (name : String) (raw : Raw) :
    Except Fault String := do
  if strict then requireWellTyped name raw
  trait provider (.text name) raw

/-- The lines of a provider and its traits. -/
def scopeLines (r : Request) : Except Fault (List String) :=
  if r.provider.isVacant then .ok []
  else do
    let scope ← provider r.provider
    let traits ← r.traits.mapM fun (name, raw) => checkedTrait r.strict r.provider name raw
    return scope :: traits

/-- The line of a part that may be left out. -/
def partLine (line : Json → Except Fault String) (part : Json) : Except Fault (List String) :=
  if part.isVacant then .ok [] else return [← line part]

/-- The resources of a request, in order. -/
def ofRequest (r : Request) : Except Fault (List String) := do
  let scope ← scopeLines r
  let action ← partLine action r.action
  let verification ← partLine verification r.verification
  return scope ++ action ++ verification

end Eligibility.Resource
