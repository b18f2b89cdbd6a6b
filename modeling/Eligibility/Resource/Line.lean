import Eligibility.Text.Split
import Eligibility.Trait.Requirement
set_option autoImplicit false

/-!
# Resources: lines

A resource is a URN under `urn:verify:`.  It names a provider, a trait of a
provider, the action that is asked for, or the verification that the statement
belongs to.  `traitOf?` reads a trait of one provider back and is silent about
every line that is none.
-/

namespace Eligibility.Resource

open Trait (Fault Requirement Raw uriText token)

/-- What every provider line and trait line starts with. -/
def providerLead : String := "urn:verify:provider:"

/-- What every action line starts with. -/
def actionLead : String := "urn:verify:action:"

/-- What every verification line starts with. -/
def verificationLead : String := "urn:verify:verificationid:"

/-- The line that names a provider. -/
def provider (given : Json) : Except Fault String := do
  let p ← token "provider" given
  return providerLead ++ p

/-- The line of a trait of a provider. -/
def trait (given name : Json) (raw : Raw) : Except Fault String := do
  let scope ← provider given
  let body ← Trait.encode name raw
  return scope ++ ":" ++ body

/-- The line of an action. -/
def action (given : Json) : Except Fault String := do
  let a ← uriText "action" given
  return actionLead ++ a

/-- The line of a verification. -/
def verification (given : Json) : Except Fault String := do
  let v ← uriText "verification id" given
  return verificationLead ++ v

/-- The name, the operator word and the value text of the part of a trait line after its scope. -/
def traitParts? (s : String) : Option (String × String × String) :=
  match Text.cutAt ':' s with
  | (name, some rest) =>
    match Text.cutAt ':' rest with
    | (word, some text) => some (name, word, text)
    | (_, none) => none
  | (_, none) => none

/-- The requirement of a trait line, from the part of it after its scope. -/
def readTrait (line body : String) : Except Fault Requirement :=
  match traitParts? body with
  | none => .error (.malformedLine line .notThreeParts)
  | some (name, word, text) =>
    if name.isEmpty then .error (.malformedLine line .emptyName)
    else match Trait.Operator.ofText? word with
      | none => .error (.malformedLine line (.unknownOperator word))
      | some operator =>
        if text.isEmpty then .error (.malformedLine line .emptyValue)
        else if !Uri.isPathText name || !Uri.isPathText text then
          .error (.malformedLine line .notUriText)
        else match Requirement.read name operator text with
          | .error (.emptyChoice _) => .error (.malformedLine line .emptyChoice)
          | result => result

/-- The trait of the provider that a line holds; none if the line is no trait line of it. -/
def traitOf? (line : String) (given : Json) : Except Fault (Option Requirement) := do
  let scope ← provider given
  match Text.after? (scope ++ ":") line with
  | none => return none
  | some body => return some (← readTrait line body)

end Eligibility.Resource
