import Eligibility.Text.Quoted
import Eligibility.Text.Split
set_option autoImplicit false

/-!
# Command line: faults of usage

What can be wrong with the words of a command line, before anything is done.
-/

namespace Eligibility.Cli

/-- What is wrong with a command line. -/
inductive UsageFault where
  /-- An option that is not known, with the names that are similar to it. -/
  | noSuchOption (name : String) (similar : List String)
  | needsValue (name : String)
  | takesNoValue (name : String)
  | missingOption (hint : String)
  | missingArgument (hint : String)
  | extraArguments (words : List String)
  | badValue (hint reason : String)
  | noSuchCommand (name : String)
  | missingCommand
  /-- A signature is asked for and there is no key. -/
  | noKey
  /-- A check is asked for and nothing is expected. -/
  | nothingExpected
  deriving DecidableEq, Repr

/-- What similar names there are. -/
def suggestion : List String → String
  | [] => ""
  | [name] => " Did you mean " ++ name ++ "?"
  | names => " (Possible options: " ++ Text.join ", " names ++ ")"

/-- The wording of a fault. -/
def UsageFault.message : UsageFault → String
  | .noSuchOption name similar => "No such option: " ++ name ++ suggestion similar
  | .needsValue name => "Option " ++ Text.quoted name ++ " requires an argument."
  | .takesNoValue name => "Option " ++ Text.quoted name ++ " does not take a value."
  | .missingOption hint => "Missing option " ++ hint ++ "."
  | .missingArgument hint => "Missing argument " ++ hint ++ "."
  | .extraArguments words =>
    "Got unexpected extra argument" ++ (if words.length = 1 then "" else "s") ++
      " (" ++ Text.join " " words ++ ")"
  | .badValue hint reason =>
    "Invalid value for " ++ hint ++ (if reason.isEmpty then "" else ": " ++ reason)
  | .noSuchCommand name => "No such command " ++ Text.quoted name ++ "."
  | .missingCommand => "Missing command."
  | .noKey => "Give --key-file or --private-key"
  | .nothingExpected => "Give at least one --expect or --action"

end Eligibility.Cli
