import Eligibility.Cli.Run
import Eligibility.Uri.Names
import Std.Time.DateTime.Timestamp
set_option autoImplicit false

/-!
# The program

The command line with what surrounds it: the words, the environment, the clock,
the files and the random bytes of the machine.  Everything is looked up before the
run; what the run says is done after it.
-/

namespace Eligibility.Program

/-- The microseconds from the start of the calendar to the start of 1970. -/
def epochTicks : Int := Calendar.dayTicks * Calendar.Date.dayNumber ⟨1970, 1, 1⟩

/-- The start of the calendar in UTC. -/
def calendarStart : Calendar.Stamp := ⟨0, some 0, Calendar.tickLimit_pos⟩

/-- The time of the clock in UTC. -/
def readClock : IO Calendar.Stamp := do
  let nanos := (← Std.Time.Timestamp.now).toNanosecondsSinceUnixEpoch.val
  return (Calendar.Stamp.ofTicks? (epochTicks + nanos / 1000) (some 0)).getD calendarStart

/-- The number of random bytes behind each choice. -/
def bytesPerChoice : Nat := 8

/-- Random choices; a run makes no more of them than a nonce has characters. -/
def readChoices : IO Statement.Choices := do
  let count := Statement.defaultNonceLength
  let bytes ← IO.getRandomBytes (USize.ofNat (bytesPerChoice * count))
  let numbers := (Digest.blocks bytesPerChoice count bytes.toList).map Digest.ofBytes
  return ⟨fun i => numbers.getD i 0, 0⟩

/-- A key that nobody has. -/
def readKey : IO Wallet.Key := do
  let id ← IO.getRandomBytes 8
  let secret ← IO.getRandomBytes 48
  return .ofChoice (Digest.ofBytes secret.toList) ("dev-" ++ Text.hex id.toList)

/-- What stands at a place for files. -/
def readPlace (name : String) : IO Cli.Place := do
  if name.isEmpty then return .noFolder
  else
    try return .text (← IO.FS.readFile name)
    catch
      | .noFileOrDirectory .. => return .vacant
      | .inappropriateType .. => return .folder
      | fault => throw fault

/-- What stands in the environment under the names that the program knows. -/
def readEnvironment : IO (String → Option String) := do
  let names := Cli.keyVariable :: Settings.variableNames
  let found ← names.mapM fun name => return (name, ← IO.getEnv name)
  return fun name => (found.lookup name).join

/-- The wording of what a command does not foresee. -/
def failureLine : Cli.Failure → String
  | .tooManyDigits => "Error: a whole number has too many digits"
  | .outOfCalendar => "Error: a time lies outside the calendar"
  | .noFolder => "Error: the folder of the output file does not exist"
  | .insideFile => "Error: the folder of the output file is a file"
  | .isFolder => "Error: the output file is a folder"
  | .markup => "Error: the report cannot be laid out"
  | .keyNotObject => "Error: the key is not a JSON object"
  | .secretNotText => "Error: the secret of the key is not a text"

attribute [local instance] Uri.Idna.tables

/-- Run a command line, and give the code with which it ends. -/
def runLine (words : List String) : IO UInt32 := do
  let places ← (Cli.fileNames words).mapM fun name => return (name, ← readPlace name)
  let surroundings : Cli.Surroundings :=
    { place := fun name => (places.lookup name).getD .vacant
      environment := ← readEnvironment
      now := ← readClock
      freshKey := ← readKey
      console := .plain 80 }
  let (outcome, _) := Cli.run surroundings (← readChoices) words
  if let some (file, text) := outcome.written then IO.FS.writeFile file text
  outcome.output.forM fun line => IO.println line
  outcome.errors.forM fun line => IO.eprintln line
  if let some failure := outcome.failure then IO.eprintln (failureLine failure)
  return UInt32.ofNat outcome.code

end Eligibility.Program

/-- Run the command line. -/
def main (args : List String) : IO UInt32 := Eligibility.Program.runLine args
