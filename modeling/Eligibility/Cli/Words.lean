import Eligibility.Cli.Usage
import Eligibility.Mapping
import Eligibility.Text.Similar
set_option autoImplicit false

/-!
# Command line: words

A word that starts with a dash names an option, by a long name behind two dashes
or by letters behind one; its value is the rest of the word or the next word.
Two dashes alone end the options.  Every other word is an argument.
-/

namespace Eligibility.Cli

/-- An option as it is written. -/
structure Switch where
  /-- What its values are kept under. -/
  key : String
  /-- Its names, each with its dashes. -/
  names : List String
  takesValue : Bool := true
  deriving DecidableEq, Repr

/-- The options that were given, in their order, each with its value, and the arguments. -/
structure Words where
  given : List (String × String) := []
  arguments : List String := []
  deriving DecidableEq, Repr

/-- The words with an argument in front. -/
def Words.addArgument (w : Words) (word : String) : Words :=
  { w with arguments := word :: w.arguments }

/-- The option of a name. -/
def switch? (switches : List Switch) (name : String) : Option Switch :=
  switches.find? fun s => s.names.contains name

/-- Whether a name is a long one. -/
def isLongName (name : String) : Bool := (Text.after? "--" name).isSome

/-- The value of an option that stands next, and the words after it. -/
def takeValue (name : String) : List String → Except UsageFault (String × List String)
  | value :: rest => .ok (value, rest)
  | [] => .error (.needsValue name)

/-- The options that a word names by their letters, and the words after their values. -/
def takeLetters (switches : List Switch) :
    List Char → List String → Except UsageFault (List (String × String) × List String)
  | [], next => .ok ([], next)
  | c :: cs, next =>
    let name := String.ofList ['-', c]
    match switch? switches name with
    | none => .error (.noSuchOption name [])
    | some s =>
      if !s.takesValue then do
        let (more, next) ← takeLetters switches cs next
        return ((s.key, "") :: more, next)
      else if cs.isEmpty then do
        let (value, next) ← takeValue name next
        return ([(s.key, value)], next)
      else .ok ([(s.key, String.ofList cs)], next)

/-- The option that a word names by a long name, and the words after its value. -/
def takeLong (switches : List Switch) (word : String) (next : List String) :
    Except UsageFault ((String × String) × List String) :=
  let (name, attached) := Text.cutAt '=' word
  match (switch? switches name).filter fun _ => isLongName name with
  | none =>
    let names := (switches.flatMap (·.names)).filter isLongName
    .error (.noSuchOption name (Text.similarWords name names))
  | some s =>
    match s.takesValue, attached with
    | true, some value => .ok ((s.key, value), next)
    | true, none => do
      let (value, next) ← takeValue name next
      return ((s.key, value), next)
    | false, none => .ok ((s.key, ""), next)
    | false, some _ => .error (.takesNoValue name)

/-- The options that a word names, and the words after their values. -/
def takeOptions (switches : List Switch) (word : String) (next : List String) :
    Except UsageFault (List (String × String) × List String) :=
  if isLongName word then do
    let (option, next) ← takeLong switches word next
    return ([option], next)
  else takeLetters switches (word.toList.drop 1) next

/-- Whether a word names options. -/
def namesOptions (word : String) : Bool :=
  match word.toList with
  | '-' :: _ :: _ => true
  | _ => false

/-- The words of a command line.  If `mixed`, options may follow arguments; otherwise the first
argument ends them.  Each step takes one unit of `fuel`. -/
def readWords (switches : List Switch) (mixed : Bool) :
    (fuel : Nat) → List String → Except UsageFault Words
  | 0, words => .ok { arguments := words }
  | _ + 1, [] => .ok {}
  | fuel + 1, word :: rest =>
    if word = "--" then .ok { arguments := rest }
    else if namesOptions word then do
      let (options, next) ← takeOptions switches word rest
      let words ← readWords switches mixed fuel next
      return { words with given := options ++ words.given }
    else if mixed then do
      let words ← readWords switches mixed fuel rest
      return words.addArgument word
    else .ok { arguments := word :: rest }

/-- The words of a command line. -/
def Words.read (switches : List Switch) (mixed : Bool) (words : List String) :
    Except UsageFault Words :=
  readWords switches mixed words.length words

namespace Words

/-- Whether an option is given. -/
def has (w : Words) (key : String) : Bool := w.given.any (·.1 = key)

/-- The values of an option, in their order. -/
def values (w : Words) (key : String) : List String :=
  (w.given.filter (·.1 = key)).map (·.2)

/-- The value of an option; the last one counts. -/
def last? (w : Words) (key : String) : Option String := (w.values key).getLast?

end Words

end Eligibility.Cli
