import Eligibility.Cli.Words
import Eligibility.Decimal.Notation
import Eligibility.Text.Digit
set_option autoImplicit false

/-!
# Command line: parameters

A parameter of a command is an option or an argument with a form for its value.
The values are checked in the order in which they are given; what is not given
comes after that, in the order of the command.
-/

namespace Eligibility.Cli

/-- What stands at a place for files. -/
inductive Place where
  /-- A file with a text. -/
  | text (s : String)
  | folder
  /-- Nothing, and a file can be put there. -/
  | vacant
  /-- Nothing, and its folder is not there either. -/
  | noFolder
  /-- Nothing, and what should be its folder is a file. -/
  | insideFile
  deriving DecidableEq, Repr

/-- The form of a value. -/
inductive Form where
  | flag
  | text
  /-- Several values, each a name and a raw value. -/
  | pairs
  | whole
  | choice (words : List String)
  /-- A file; one to be read must be there. -/
  | file (toRead : Bool)
  deriving DecidableEq, Repr

/-- A parameter of a command. -/
structure Parameter where
  key : String
  /-- The names of an option; an argument has none. -/
  names : List String
  form : Form := .text
  required : Bool := false
  deriving DecidableEq, Repr

namespace Parameter

/-- Whether the parameter is an argument. -/
def isArgument (p : Parameter) : Bool := p.names.isEmpty

/-- How a message calls the parameter. -/
def hint (p : Parameter) : String :=
  if p.isArgument then "'" ++ p.key ++ "'"
  else Text.join " / " (p.names.map fun name => "'" ++ name ++ "'")

/-- The option of a parameter, if it is one. -/
def switch? (p : Parameter) : Option Switch :=
  if p.isArgument then none else some ⟨p.key, p.names, p.form ≠ .flag⟩

end Parameter

/-- A pair of a name and a raw value, with an equals sign between them. -/
def readPair? (s : String) : Option (String × String) :=
  match Text.cutAt '=' s with
  | (name, some raw) => if name.isEmpty || raw.isEmpty then none else some (name, raw)
  | (_, none) => none

/-- The pairs of values; one name keeps the last value. -/
def pairsOf (values : List String) : Mapping String := Mapping.ofPairs (values.filterMap readPair?)

/-- The characters with digits of every script written in ASCII. -/
def asciiDigits (cs : List Char) : List Char :=
  cs.map fun c => ((Text.digitValue? c).map Nat.digitChar).getD c

/-- A whole number: digits of any script with an optional sign and single underscores between
them. -/
def readInteger? (s : String) : Option Int :=
  let trimmed := Text.trimEndsList Text.isWhiteSpace s.toList
  let (negative, body) := Decimal.takeSign (asciiDigits trimmed)
  match Decimal.withoutUnderscores? body with
  | none => none
  | some digits =>
    if digits.isEmpty || !digits.all Char.isDigit || Decimal.maxDigits < digits.length then none
    else
      let n : Int := Decimal.digitsValue digits
      some (if negative then -n else n)

/-- What is wrong with a value, if anything is. -/
def wrongWith? (place : String → Place) (form : Form) (value : String) : Option String :=
  match form with
  | .flag | .text => none
  | .pairs =>
    if (readPair? value).isSome then none
    else some ("expected NAME=VALUE, got " ++ Text.quoted value)
  | .whole =>
    if (readInteger? value).isSome then none
    else some (Text.quoted value ++ " is not a valid integer.")
  | .choice words =>
    if words.contains value then none
    else
      let known := Text.join ", " (words.map Text.quoted)
      some (Text.quoted value ++ " is not one of " ++ known ++ ".")
  | .file toRead =>
    match place value with
    | .folder => some ("File " ++ Text.quoted value ++ " is a directory.")
    | .text _ => none
    | _ => if toRead then some ("File " ++ Text.quoted value ++ " does not exist.") else none

/-- The values of a parameter that count. -/
def countingValues (w : Words) (p : Parameter) : List String :=
  if p.form = .pairs then w.values p.key else (w.last? p.key).toList

/-- Check the values of a parameter. -/
def checkParameter (place : String → Place) (w : Words) (p : Parameter) : Except UsageFault Unit :=
  if p.required && !w.has p.key then
    .error (if p.isArgument then .missingArgument p.hint else .missingOption p.hint)
  else
    match (countingValues w p).findSome? (wrongWith? place p.form) with
    | some reason => .error (.badValue p.hint reason)
    | none => .ok ()

/-- The parameters in the order in which they are checked: the options that are given, the
arguments, and the other options. -/
def checkOrder (w : Words) (parameters : List Parameter) : List Parameter :=
  let options := parameters.filter fun p => !p.isArgument
  let given := (w.given.map (·.1)).filterMap fun key => options.find? (·.key = key)
  given ++ parameters.filter (·.isArgument) ++ options.filter fun p => !given.contains p

/-- The words with the arguments kept under the names of their parameters. -/
def nameArguments (parameters : List Parameter) (w : Words) : Words :=
  let named := (parameters.filter (·.isArgument)).zip w.arguments
  { given := w.given ++ named.map fun (p, word) => (p.key, word)
    arguments := w.arguments.drop named.length }

/-- The key of the option that asks for help. -/
def helpKey : String := "help"

/-- The option that asks for help. -/
def helpSwitch : Switch := ⟨helpKey, ["--help"], false⟩

/-- The words of a command. -/
def readCommandWords (parameters : List Parameter) (words : List String) :
    Except UsageFault Words :=
  Words.read (parameters.filterMap (·.switch?) ++ [helpSwitch]) true words

/-- The words of a command, checked, with its arguments named. -/
def checkWords (place : String → Place) (parameters : List Parameter) (w : Words) :
    Except UsageFault Words := do
  let named := nameArguments parameters w
  (checkOrder w parameters).forM (checkParameter place named)
  if named.arguments.isEmpty then return named
  else .error (.extraArguments named.arguments)

end Eligibility.Cli
