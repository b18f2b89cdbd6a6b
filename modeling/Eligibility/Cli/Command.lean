import Eligibility.Cli.Parameter
set_option autoImplicit false

/-!
# Command line: the commands

The commands and their parameters.
-/

namespace Eligibility.Cli

/-- A command. -/
inductive Command where
  | version
  /-- Make a key. -/
  | keygen
  /-- Build a statement. -/
  | build
  /-- Build a statement and sign it. -/
  | sign
  /-- Show what a statement says. -/
  | parse
  /-- Check a statement. -/
  | check
  deriving DecidableEq, Repr

namespace Command

/-- The word of a command. -/
def word : Command → String
  | version => "version"
  | keygen => "keygen"
  | build => "build"
  | sign => "sign"
  | parse => "parse"
  | check => "check"

/-- Every command. -/
def all : List Command := [version, keygen, build, sign, parse, check]

/-- The command of a word. -/
def ofWord? (s : String) : Option Command := all.find? (·.word = s)

/-- The key of the statement to read. -/
def statementKey : String := "STATEMENT_FILE"

/-- The statement to read. -/
def statementFile : Parameter := ⟨statementKey, [], .file true, true⟩

/-- The provider that is asked about. -/
def provider (required : Bool) : Parameter := ⟨"provider", ["--provider", "-p"], .text, required⟩

/-- The traits to write. -/
def traits : Parameter := ⟨"trait", ["--trait", "-t"], .pairs, false⟩

/-- The action. -/
def action : Parameter := ⟨"action", ["--action", "-a"], .text, false⟩

/-- The identifier of a verification. -/
def verification : Parameter := ⟨"verification-id", ["--verification-id"], .text, false⟩

/-- The file to write. -/
def outputFile (required : Bool) : Parameter :=
  ⟨"output", ["--output", "-o"], .file false, required⟩

/-- The format to print. -/
def format (words : List String) : Parameter := ⟨"output", ["--output", "-o"], .choice words, false⟩

/-- The parameters of a command. -/
def parameters : Command → List Parameter
  | version => []
  | keygen => [outputFile true, ⟨"kid", ["--kid"], .text, false⟩]
  | build =>
    [⟨"address", ["--address"], .text, true⟩, provider false, traits, action, verification,
      ⟨"domain", ["--domain"], .text, false⟩, ⟨"uri", ["--uri"], .text, false⟩,
      ⟨"chain-id", ["--chain-id"], .whole, false⟩, ⟨"strict", ["--strict"], .flag, false⟩,
      ⟨"json", ["--json"], .flag, false⟩, outputFile false]
  | sign =>
    [⟨"key-file", ["--key-file", "-k"], .file true, false⟩,
      ⟨"private-key", ["--private-key"], .text, false⟩, provider false, traits, action,
      verification, outputFile false]
  | parse => [statementFile, provider true, format ["text", "json"]]
  | check =>
    [statementFile, provider true, ⟨"expect", ["--expect", "-e"], .pairs, false⟩, action,
      format ["text", "json", "compact"]]

theorem ofWord?_word (c : Command) : ofWord? c.word = some c := by
  cases c <;> decide

end Command

/-- The options in front of a command. -/
def frontSwitches : List Switch := [⟨"verbose", ["--verbose", "-v"], false⟩, helpSwitch]

/-- A command line, read up to its command. -/
inductive Line where
  | help
  | command (c : Command) (words : List String)
  deriving DecidableEq, Repr

/-- The command that a word names. -/
def commandOf (word : String) (words : List String) : Except UsageFault Command := do
  match Command.ofWord? word with
  | some c => return c
  | none =>
    let _ ← Words.read frontSwitches false words
    .error (.noSuchCommand word)

/-- The command of a command line. -/
def Line.read (words : List String) : Except UsageFault Line := do
  let front ← Words.read frontSwitches false words
  if words.isEmpty || front.has helpKey then return .help
  else match front.arguments with
    | [] => .error .missingCommand
    | word :: rest => return .command (← commandOf word front.arguments) rest

/-- The keys of the options that name files. -/
def Command.fileKeys (c : Command) : List String :=
  (c.parameters.filter fun p => match p.form with
    | .file _ => !p.isArgument
    | _ => false).map (·.key)

/-- The files that a command line names; every argument of a command is one. -/
def fileNames (words : List String) : List String :=
  match Line.read words with
  | .ok (.command c rest) =>
    match readCommandWords c.parameters rest with
    | .ok w => (c.fileKeys.flatMap w.values) ++ w.arguments
    | .error _ => []
  | _ => []

end Eligibility.Cli
