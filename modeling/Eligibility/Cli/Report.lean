import Eligibility.Terminal.Console
import Eligibility.Validation.Basic
set_option autoImplicit false

/-!
# Command line: the report of a check

The report names the statement and the action that is expected, says whether the
statement is valid, and lists its mismatches in a table.  What it prints is markup
to the console, and a part that the console cannot print ends the report.
-/

namespace Eligibility.Cli

open Terminal (Console)

/-- The cells of a mismatch. -/
def mismatchRow (m : Validation.Mismatch) : List String :=
  let found := match m.found with
    | some s => if s.isEmpty then "-" else s
    | none => "-"
  [m.trait, m.expected, found, m.reason.word]

/-- The table of mismatches. -/
def mismatchTable (ms : List Validation.Mismatch) : Terminal.Table :=
  ⟨"Mismatches", ["Trait", "Expected", "Found", "Reason"], ms.map mismatchRow⟩

/-- What the report says of a statement that is valid. -/
def validStatus : String := "Status: [green]✓ VALID[/green]"

/-- What the report says of a statement that is not. -/
def invalidStatus : String := "Status: [red]✗ INVALID[/red]"

/-- The parts of a report, in order. -/
def reportParts (console : Console) (v : Validation.Verdict) (file : String)
    (action : Option String) : List (Option (List String)) :=
  [console.print? ("Statement: " ++ file)] ++
    (action.filter fun a => !a.isEmpty).toList.map (fun a => console.print? ("Action: " ++ a)) ++
    if v.isValid then [console.print? validStatus]
    else [console.print? invalidStatus, console.printTable? (mismatchTable v.mismatches)]

/-- The lines up to the first part that cannot be printed, and whether every part can. -/
def joinParts : List (Option (List String)) → List String × Bool
  | [] => ([], true)
  | none :: _ => ([], false)
  | some lines :: rest =>
    let (more, complete) := joinParts rest
    (lines ++ more, complete)

/-- The lines of a report, and whether it is complete. -/
def report (console : Console) (v : Validation.Verdict) (file : String)
    (action : Option String) : List String × Bool :=
  joinParts (reportParts console v file action)

end Eligibility.Cli
