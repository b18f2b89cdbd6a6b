import Eligibility.Json.Writer
import Eligibility.Resource.Scan
import Eligibility.Statement.Grammar
set_option autoImplicit false

/-!
# Statements: parsing

Parsing reads the fields of a statement and checks them as those of a new one
are checked.  The times become stamps.
-/

namespace Eligibility.Statement

variable [Uri.Idna]

/-- What a statement says. -/
structure Parsed where
  domain : String
  address : String
  uri : String
  version : String
  chainId : Int
  nonce : String
  issuedAt : Calendar.Stamp
  expirationTime : Option Calendar.Stamp
  statement : Option String
  requestId : Option String
  resources : List String
  deriving DecidableEq, Repr

/-- Why a text is no statement. -/
inductive ParseFault where
  /-- It has no text. -/
  | blank
  /-- It does not follow the grammar. -/
  | grammar
  /-- Fields of it fail their checks. -/
  | fields (faults : List Field.Fault)
  /-- A field that should hold a time holds something else. -/
  | time (label : String) (given : Json)
  deriving Repr

/-- The characters of a time with the mark of UTC written as an offset. -/
def markAsOffset (cs : List Char) : List Char :=
  cs.flatMap fun c => if c == 'Z' then ['+', '0', '0', ':', '0', '0'] else [c]

/-- A value as it stands in a message: a text in quotes, anything else as it is. -/
def givenText : Json → String
  | .text s => Text.quoted s
  | j => Json.write none j

/-- The wording of a fault. -/
def ParseFault.message : ParseFault → String
  | .blank => "statement text is empty"
  | .grammar => "Invalid statement: "
  | .fields _ => "Invalid statement"
  | .time label given => "Invalid " ++ label ++ ": " ++ givenText given

/-- The stamp of a time, if one is given. -/
def readTime (label : String) (given : Json) : Except ParseFault (Option Calendar.Stamp) :=
  match given with
  | .null => .ok none
  | .text s =>
    match Calendar.Stamp.read? (String.ofList (markAsOffset s.toList)) with
    | some stamp => .ok (some stamp)
    | none => .error (.time label given)
  | _ => .error (.time label given)

/-- The stamp of a time that must be given. -/
def requireTime (label s : String) : Except ParseFault Calendar.Stamp := do
  match ← readTime label (.text s) with
  | some stamp => return stamp
  | none => .error (.time label (.text s))

/-- What a text says as a statement. -/
def parse (text : String) : Except ParseFault Parsed := do
  if Text.isBlankText text then .error .blank
  else match readDraft? text with
  | none => .error .grammar
  | some draft =>
    let m ← draft.check.mapError .fields
    let issuedAt ← requireTime "issued at" m.issuedAt
    let expirationTime ← readTime "expiration time" (.ofText? m.expirationTime)
    return {
      domain := m.domain
      address := m.address
      uri := m.uri
      version := version
      chainId := m.chainId
      nonce := m.nonce
      issuedAt := issuedAt
      expirationTime := expirationTime
      statement := m.statement
      requestId := m.requestId
      resources := Resource.linesOf text }

end Eligibility.Statement
