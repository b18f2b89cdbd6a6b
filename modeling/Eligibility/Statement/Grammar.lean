import Eligibility.Calendar.Rfc3339
import Eligibility.Statement.Message
import Eligibility.Uri.Grammar
set_option autoImplicit false

/-!
# Statements: the grammar

The reader of messages follows the grammar of EIP-4361 line by line.  It decides
the form of every line and leaves the meaning of the fields to their checks, so
what it gives is a draft.
-/

namespace Eligibility.Statement

/-- The lines of a message that are still to be read. -/
abbrev Lines : Type := List (List Char)

/-- What follows `label` in the next line, if it has the form `p`, and the lines after it. -/
def takeField (label : String) (p : List Char → Bool) : Lines → Option (String × Lines)
  | [] => none
  | line :: rest => do
    let value ← Text.afterList? label.toList line
    if p value then some (String.ofList value, rest) else none

/-- A field that may be missing.  A line with its label and another form is left for what is read
next. -/
def takeOptional (label : String) (p : List Char → Bool) (lines : Lines) : Option String × Lines :=
  match takeField label p lines with
  | some (value, rest) => (some value, rest)
  | none => (none, lines)

/-- An empty line. -/
def takeEmpty : Lines → Option Lines
  | [] :: rest => some rest
  | _ => none

/-- The domain of a header, which may have a scheme in front. -/
def domainOf? (line : List Char) : Option String := do
  let lead ← (Text.afterList? headerTail.toList.reverse line.reverse).map List.reverse
  match Text.cutAtTextList [':', '/', '/'] lead with
  | some (scheme, domain) =>
    if Uri.isScheme scheme && Uri.isAuthority domain then some (String.ofList domain) else none
  | none => if Uri.isAuthority lead then some (String.ofList lead) else none

/-- Whether the characters have the form of an address; the check of its letters comes later. -/
def isAddressText (cs : List Char) : Bool :=
  match cs with
  | '0' :: x :: digits =>
    (x == 'x' || x == 'X') && digits.length == 40 && digits.all Text.isHexDigit
  | _ => false

/-- A character of the line for people. -/
def isStatementChar (c : Char) : Bool :=
  Uri.isGenDelim c || Uri.isSubDelim c || Uri.isUnreserved c || c == ' '

/-- Whether the characters are a line for people. -/
def isStatementText (cs : List Char) : Bool := !cs.isEmpty && cs.all isStatementChar

/-- Whether the characters are one digit or more. -/
def isDigits (cs : List Char) : Bool := !cs.isEmpty && cs.all Char.isDigit

/-- Whether the characters are a nonce. -/
def isNonceText (cs : List Char) : Bool :=
  nonceLength ≤ cs.length && cs.all fun c => Uri.isLetter c || c.isDigit

/-- The line for people, with the empty lines around it. -/
def takeStatement (lines : Lines) : Option (Option String × Lines) := do
  let rest ← takeEmpty lines
  match rest with
  | [] :: rest => some (none, rest)
  | line :: rest =>
    if isStatementText line then return (some (String.ofList line), ← takeEmpty rest) else none
  | [] => none

/-- The resources at the end of a message. -/
def takeResources : Lines → Option (List String)
  | [] => some []
  | line :: rest =>
    if line == "Resources:".toList then
      rest.mapM fun line => do
        let uri ← Text.afterList? ['-', ' '] line
        if Uri.isUri uri then some (String.ofList uri) else none
    else none

/-- The draft of the lines of a message. -/
def readLines? (lines : Lines) : Option Draft := do
  let header ← lines.head?
  let domain ← domainOf? header
  let (address, rest) ← takeField "" isAddressText lines.tail
  let (statement, rest) ← takeStatement rest
  let (uri, rest) ← takeField "URI: " Uri.isUri rest
  let (_, rest) ← takeField "Version: " (· == version.toList) rest
  let (chainId, rest) ← takeField "Chain ID: " isDigits rest
  let (nonce, rest) ← takeField "Nonce: " isNonceText rest
  let (issuedAt, rest) ← takeField "Issued At: " Calendar.isDateTimeText rest
  let (expirationTime, rest) := takeOptional "Expiration Time: " Calendar.isDateTimeText rest
  let (notBefore, rest) := takeOptional "Not Before: " Calendar.isDateTimeText rest
  let (requestId, rest) := takeOptional "Request ID: " Uri.isSegmentText rest
  let resources ← takeResources rest
  return {
    domain := .text domain
    address := .text address
    uri := .text uri
    chainId := .text chainId
    nonce := .text nonce
    issuedAt := .text issuedAt
    statement := .ofText? statement
    expirationTime := .ofText? expirationTime
    notBefore := .ofText? notBefore
    requestId := .ofText? requestId
    resources := resources.map .text }

/-- The draft that a text writes, if it follows the grammar. -/
def readDraft? (s : String) : Option Draft := readLines? (Text.piecesList '\n' s.toList)

end Eligibility.Statement
