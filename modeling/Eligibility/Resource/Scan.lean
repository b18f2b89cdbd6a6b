import Eligibility.Mapping
import Eligibility.Resource.Line
import Eligibility.Resource.Section
set_option autoImplicit false

/-!
# Resources: scanning a statement

A scan reads every resource line once and gathers what it finds.  A trait line
that cannot be read is kept as malformed and stepped over, so it ends as a
missing trait and never as a fault; of two traits with the same provider and
name the last one counts, so a weaker repetition cannot hide behind a correct
line.
-/

namespace Eligibility.Resource

open Trait (Fault Requirement)

/-- What one resource line says. -/
inductive Reading where
  /-- The provider that the following traits are about. -/
  | scope (provider : String)
  | trait (provider : String) (requirement : Requirement)
  | action (action : String)
  | verification (id : String)
  /-- A line that starts as one of the above and does not follow its grammar. -/
  | malformed
  /-- Any other resource. -/
  | foreign
  deriving DecidableEq, Repr

/-- Something that a scan remarks on. -/
inductive Warning where
  /-- A trait that replaces an earlier one. -/
  | duplicateTrait (name provider winner loser : String)
  /-- An action that replaces a different one. -/
  | otherAction (winner loser : String)
  deriving DecidableEq, Repr

/-- The wording of a warning. -/
def Warning.message : Warning → String
  | .duplicateTrait name provider winner loser =>
    "Duplicate trait '" ++ name ++ "' for provider '" ++ provider ++
      "'; last occurrence (" ++ winner ++ ") wins over " ++ loser
  | .otherAction winner loser =>
    "Multiple actions in statement; using " ++ Text.quoted winner ++ " over " ++ Text.quoted loser

/-- A provider line after its lead. -/
def readProvider (line rest : String) : Except Fault Reading :=
  match Text.cutAt ':' rest with
  | (provider, tail) =>
    if provider.isEmpty then .ok .malformed
    else if tail.isNone then .ok (.scope provider)
    else match traitOf? line (.text provider) with
      | .ok (some requirement) => .ok (.trait provider requirement)
      | .ok none => .ok .foreign
      | .error fault => if fault.isGrammar then .ok .malformed else .error fault

/-- What a resource line says.  The only fault is a number with too many digits. -/
def read (line : String) : Except Fault Reading :=
  match Text.after? providerLead line with
  | some rest => readProvider line rest
  | none =>
    match Text.after? actionLead line with
    | some action => .ok (if action.isEmpty then .malformed else .action action)
    | none =>
      match Text.after? verificationLead line with
      | some id => .ok (if id.isEmpty then .malformed else .verification id)
      | none => .ok .foreign

/-- What the resources of a statement say together. -/
structure Findings where
  resources : List String := []
  providers : List String := []
  /-- The requirements of each provider, by name, in the order in which they were first seen. -/
  traits : Mapping (Mapping Requirement) := []
  action : Option String := none
  verification : Option String := none
  malformed : List String := []
  warnings : List Warning := []
  deriving DecidableEq, Repr

namespace Findings

/-- The requirements of a provider. -/
def traitsFor (f : Findings) (provider : String) : Mapping Requirement :=
  (f.traits.get? provider).getD []

/-- Add a trait; an earlier one of the same name gives way. -/
def addTrait (f : Findings) (provider : String) (r : Requirement) : Findings :=
  let present := f.traitsFor provider
  let warnings := match present.get? r.name with
    | some old => [Warning.duplicateTrait r.name provider r.raw old.raw]
    | none => []
  { f with
    traits := f.traits.put provider (present.put r.name r)
    warnings := f.warnings ++ warnings }

/-- Add an action; an earlier one gives way. -/
def addAction (f : Findings) (action : String) : Findings :=
  let warnings := match f.action with
    | some old => if old = action then [] else [Warning.otherAction action old]
    | none => []
  { f with action := some action, warnings := f.warnings ++ warnings }

/-- Add what a line says. -/
def add (f : Findings) (line : String) (reading : Reading) : Findings :=
  let f := { f with resources := f.resources ++ [line] }
  match reading with
  | .scope provider =>
    if provider ∈ f.providers then f else { f with providers := f.providers ++ [provider] }
  | .trait provider requirement => f.addTrait provider requirement
  | .action action => f.addAction action
  | .verification id => { f with verification := some id }
  | .malformed => { f with malformed := f.malformed ++ [line] }
  | .foreign => f

end Findings

/-- What the lines say, each with its reading. -/
def readAll (lines : List String) : Except Fault (List (String × Reading)) :=
  lines.mapM fun line => do return (line, ← read line)

/-- What resource lines say together. -/
def gather (lines : List String) : Except Fault Findings := do
  let readings ← readAll lines
  return readings.foldl (fun f (line, reading) => f.add line reading) {}

/-- Why a statement cannot be scanned. -/
inductive ScanFault where
  /-- The statement has no text. -/
  | blank
  /-- A trait that is no fault of the grammar but still cannot be read. -/
  | trait (fault : Fault)
  deriving Repr

/-- The wording of a fault. -/
def ScanFault.message : ScanFault → String
  | .blank => "statement text is empty"
  | .trait fault => fault.message

/-- The resources of a statement, unless it has no text. -/
def linesOfStatement (message : String) : Except ScanFault (List String) :=
  if Text.isBlankText message then .error .blank else .ok (linesOf message)

/-- What the resources of a statement say. -/
def scan (message : String) : Except ScanFault Findings := do
  let lines ← linesOfStatement message
  (gather lines).mapError .trait

/-- The requirements of a provider in a statement. -/
def traitsIn (message provider : String) : Except ScanFault (Mapping Requirement) :=
  return (← scan message).traitsFor provider

/-- The requirements of a provider in a statement, each in its raw form. -/
def rawTraitsIn (message provider : String) : Except ScanFault (Mapping String) :=
  return (← traitsIn message provider).mapValues (·.raw)

theorem linesOfStatement_eq_ok {message : String} (h : Text.isBlankText message = false) :
    linesOfStatement message = .ok (linesOf message) := by
  simp [linesOfStatement, h]

theorem scan_blank {message : String} (h : Text.isBlankText message = true) :
    scan message = .error .blank := by
  simp [scan, linesOfStatement, h, bind, Except.bind]

end Eligibility.Resource
