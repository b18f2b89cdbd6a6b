import Eligibility.Cli.Command
import Eligibility.Cli.Report
import Eligibility.Gate
import Eligibility.Json.Reader
import Eligibility.Settings.Environment
import Eligibility.Signing.Generate
import Eligibility.Version
set_option autoImplicit false

/-!
# Command line: running a command

A run is a function of what surrounds it: the files, the environment, the time
of day and the random choices.  It gives the lines that it prints, the file that
it writes and the code with which it ends.  What a command does not foresee is a
failure and no message of its own.
-/

namespace Eligibility.Cli

open Statement (Choices)

variable [Uri.Idna]

/-- What surrounds a run. -/
structure Surroundings where
  place : String → Place
  environment : String → Option String
  now : Calendar.Stamp
  /-- A key that nobody has, with an identifier that nobody has. -/
  freshKey : Wallet.Key
  /-- What prints the report of a check. -/
  console : Terminal.Console

/-- What a command does not foresee. -/
inductive Failure where
  /-- A whole number has more digits than are read. -/
  | tooManyDigits
  | outOfCalendar
  /-- The folder of the file to write is not there. -/
  | noFolder
  /-- What should be the folder of the file to write is a file. -/
  | insideFile
  /-- What should be the file to write is a folder. -/
  | isFolder
  /-- The console cannot print a part of the report. -/
  | markup
  /-- The key is JSON and no object. -/
  | keyNotObject
  /-- The secret of the key is no text. -/
  | secretNotText
  deriving DecidableEq, Repr

/-- The end of a run. -/
structure Outcome where
  code : Nat := 0
  output : List String := []
  errors : List String := []
  /-- The file that is written, and its text. -/
  written : Option (String × String) := none
  failure : Option Failure := none
  deriving DecidableEq, Repr

namespace Outcome

/-- A run that only prints. -/
def prints (lines : List String) : Outcome := { output := lines }

/-- A run that ends with a message. -/
def complains (message : String) : Outcome := { code := 1, errors := ["Error: " ++ message] }

/-- A run that ends with a fault of usage. -/
def misused (fault : UsageFault) : Outcome := { code := 2, errors := ["Error: " ++ fault.message] }

/-- A run that ends with a failure after some lines. -/
def fails (failure : Failure) (lines : List String) : Outcome :=
  { code := 1, output := lines, failure := some failure }

end Outcome

/-- Write a text to a file, and then go on. -/
def writeTo (s : Surroundings) (file text : String) (after : Outcome) : Outcome :=
  match s.place file with
  | .text _ | .vacant => { after with written := some (file, text) }
  | .folder => .fails .isFolder []
  | .noFolder => .fails .noFolder []
  | .insideFile => .fails .insideFile []

/-- Write a text to a file if one is named, and else print it. -/
def deliver (s : Surroundings) (file : Option String) (text : String) : Outcome :=
  match file.filter fun f => !f.isEmpty with
  | some file => writeTo s file text { errors := ["Saved to " ++ file] }
  | none => .prints [text]

/-- The end of a run whose statement cannot be built. -/
def refuseBuild : Statement.BuildFault → Outcome
  | .outOfCalendar => .fails .outOfCalendar []
  | .resource fault =>
    if fault.isGrammar then .complains fault.message else .fails .tooManyDigits []
  | fault => .complains fault.message

/-- Go on with the settings of the environment. -/
def withSettings (s : Surroundings) (choices : Choices) (go : Settings → Outcome × Choices) :
    Outcome × Choices :=
  match Settings.ofEnvironment s.environment with
  | .ok settings => go settings
  | .error _ => (.complains Settings.faultMessage, choices)

/-- The raw values of pairs. -/
def rawPairs (w : Words) (key : String) : Mapping Trait.Raw :=
  (pairsOf (w.values key)).mapValues .text

/-! ## Commands -/

/-- Make a key and write it to a file. -/
def keygen (s : Surroundings) (w : Words) : Outcome :=
  let key := { s.freshKey with id := Wallet.Key.idOr s.freshKey.id (.ofText? (w.last? "kid")) }
  let file := (w.last? "output").getD ""
  writeTo s file (Json.write (some 2) key.privateJwk)
    (.prints ["Key saved to " ++ file, "Address: " ++ key.address])

/-- The order that the words of `build` are. -/
def buildOrder (w : Words) : Statement.Order where
  address := .ofText? (w.last? "address")
  resources :=
    { provider := .ofText? (w.last? "provider")
      traits := rawPairs w "trait"
      action := .ofText? (w.last? "action")
      verification := .ofText? (w.last? "verification-id")
      strict := w.has "strict" }
  domain := .ofText? (w.last? "domain")
  uri := .ofText? (w.last? "uri")
  chainId := (((w.last? "chain-id").bind readInteger?).map Json.whole).getD .null

/-- A new statement as JSON. -/
def builtJson (b : Statement.Built) : Json :=
  .object [("message", .text b.message), ("nonce", .text b.nonce), ("issued_at", .text b.issuedAt),
    ("expiration_time", .text b.expirationTime), ("resources", .texts b.resources)]

/-- Build a statement. -/
def build (s : Surroundings) (choices : Choices) (w : Words) : Outcome × Choices :=
  withSettings s choices fun settings =>
    match Statement.build settings s.now choices (buildOrder w) with
    | (.error fault, choices) => (refuseBuild fault, choices)
    | (.ok built, choices) =>
      let text := if w.has "json" then Json.write (some 2) (builtJson built) else built.message
      (deliver s (w.last? "output") text, choices)

/-- The variable that holds a private key. -/
def keyVariable : String := Settings.variableLead ++ "PRIVATE_KEY"

/-- The private key that is given, by an option or else by the environment. -/
def privateKey? (s : Surroundings) (w : Words) : Option String :=
  ((w.last? "private-key").or (s.environment keyVariable)).filter fun key => !key.isEmpty

/-- The key of a file. -/
def loadKey (s : Surroundings) (file : String) : Except Outcome Wallet.Key :=
  let text := match s.place file with
    | .text t => t
    | _ => ""
  let refused : Outcome := { code := 1, errors := ["Error loading key"] }
  match Json.read text with
  | .error _ => .error refused
  | .ok jwk =>
    match Wallet.Key.ofJwk s.freshKey.id jwk with
    | .ok key => .ok key
    | .error .notObject => .error (.fails .keyNotObject [])
    | .error .secretNotText => .error (.fails .secretNotText [])
    | .error _ => .error refused

/-- The key that a statement is to be signed with. -/
def signingKey (s : Surroundings) (w : Words) : Except Outcome Wallet.Key :=
  match w.last? "key-file" with
  | some file => loadKey s file
  | none =>
    match privateKey? s w with
    | none => .error (.misused .noKey)
    | some hex =>
      (Wallet.Key.ofHex hex s.freshKey.id).mapError fun _ => .misused (.badValue "--private-key" "")

/-- The call that the words of `sign` are. -/
def signCall (w : Words) (key : Wallet.Key) : Signing.Call :=
  let action := (w.last? "action").getD Signing.defaultAction
  { order :=
      { address := .null
        resources :=
          { provider := .text ((w.last? "provider").getD Signing.defaultProvider)
            traits := rawPairs w "trait"
            action := .text action
            verification := .ofText? (w.last? "verification-id") } }
    action := some action
    key := some key }

/-- The end of a run whose statement is not signed. -/
def refuseSigning : Signing.Fault → Outcome
  | .build fault => refuseBuild fault
  | fault => .complains fault.message

/-- Build a statement and sign it. -/
def sign (s : Surroundings) (choices : Choices) (w : Words) : Outcome × Choices :=
  match signingKey s w with
  | .error outcome => (outcome, choices)
  | .ok key =>
    withSettings s choices fun settings =>
      let run := Signing.generate settings s.now (.ofNat 0) (.ofNat 0) none choices (signCall w key)
      (match run.result with
        | .ok signed => deliver s (w.last? "output") (Json.write (some 2) signed.toJson)
        | .error fault => refuseSigning fault, run.choices)

/-- The text of a statement file. -/
def statementText (s : Surroundings) (w : Words) : String :=
  match s.place ((w.last? Command.statementKey).getD "") with
  | .text t => Text.unifyBreaks t
  | _ => ""

/-- The end of a run whose statement cannot be scanned. -/
def refuseScan : Resource.ScanFault → Outcome
  | .blank => .complains Resource.ScanFault.blank.message
  | .trait _ => .fails .tooManyDigits []

/-- A text, or a dash for none. -/
def orDash : Option String → String
  | some s => if s.isEmpty then "-" else s
  | none => "-"

/-- What a statement says, as JSON. -/
def findingsJson (provider : String) (f : Resource.Findings) : Json :=
  .object [("provider", .text provider),
    ("traits", .object ((f.traitsFor provider).mapValues fun r => .text r.raw)),
    ("action", .ofText? f.action), ("verification_id", .ofText? f.verification),
    ("malformed", .texts f.malformed)]

/-- What a statement says, as lines. -/
def findingsOutcome (provider : String) (f : Resource.Findings) : Outcome :=
  let traits := (f.traitsFor provider).map fun (name, r) => "  " ++ name ++ ": " ++ r.raw
  let shown := if traits.isEmpty then ["  (no traits)"] else traits
  { output := ["Provider: " ++ provider] ++ shown ++
      ["Action: " ++ orDash f.action, "Verification ID: " ++ orDash f.verification]
    errors := f.malformed.map ("  ⚠ skipped malformed resource: " ++ ·) }

/-- Show what a statement says. -/
def parse (s : Surroundings) (w : Words) : Outcome :=
  let provider := (w.last? "provider").getD ""
  match Resource.scan (statementText s w) with
  | .error fault => refuseScan fault
  | .ok findings =>
    if w.last? "output" = some "json" then
      .prints [Json.write (some 2) (findingsJson provider findings)]
    else findingsOutcome provider findings

/-- The code for a verdict. -/
def codeOf (v : Validation.Verdict) : Nat := if v.isValid then 0 else 1

/-- The short form of a verdict. -/
def compactLine (file : String) (v : Validation.Verdict) : String :=
  file ++ ": " ++
    if v.isValid then "VALID" else "INVALID (" ++ toString v.mismatches.length ++ " mismatches)"

/-- Print a verdict. -/
def printVerdict (s : Surroundings) (w : Words) (v : Validation.Verdict) : Outcome :=
  let file := (w.last? Command.statementKey).getD ""
  match w.last? "output" with
  | some "json" => { code := codeOf v, output := [v.toText (some 2)] }
  | some "compact" => { code := codeOf v, output := [compactLine file v] }
  | _ =>
    let (lines, complete) := report s.console v file (w.last? "action")
    if complete then { code := codeOf v, output := lines } else .fails .markup lines

/-- Check a statement. -/
def check (s : Surroundings) (w : Words) : Outcome :=
  let expected := rawPairs w "expect"
  let action := w.last? "action"
  if expected.isEmpty && (action.filter fun a => !a.isEmpty).isNone then .misused .nothingExpected
  else match Gate.make ((w.last? "provider").getD "") expected action with
    | .error fault =>
      if fault.isGrammar then .misused (.badValue "--expect" fault.message)
      else .fails .tooManyDigits []
    | .ok gate =>
      match gate.check (statementText s w) with
      | .error fault => refuseScan fault
      | .ok verdict => printVerdict s w verdict

/-! ## A command line -/

/-- How a command line looks. -/
def usageLine : String :=
  "Usage: trait-verify [OPTIONS] COMMAND [ARGS]..., where COMMAND is one of " ++
    Text.join ", " (Command.all.map (·.word))

/-- Run a command. -/
def runCommand (s : Surroundings) (choices : Choices) (c : Command) (w : Words) :
    Outcome × Choices :=
  match c with
  | .version => (.prints ["Trait Verify v" ++ version], choices)
  | .keygen => (keygen s w, choices)
  | .build => build s choices w
  | .sign => sign s choices w
  | .parse => (parse s w, choices)
  | .check => (check s w, choices)

/-- Run a command line, and the choices after it. -/
def run (s : Surroundings) (choices : Choices) (words : List String) : Outcome × Choices :=
  match Line.read words with
  | .error fault => (.misused fault, choices)
  | .ok .help => (.prints [usageLine], choices)
  | .ok (.command c rest) =>
    match readCommandWords c.parameters rest with
    | .error fault => (.misused fault, choices)
    | .ok w =>
      if w.has helpKey then (.prints [usageLine], choices)
      else match checkWords s.place c.parameters w with
        | .error fault => (.misused fault, choices)
        | .ok w => runCommand s choices c w

end Eligibility.Cli
