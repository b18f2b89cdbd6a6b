import Eligibility.Calendar.Reader
import Eligibility.Field
import Eligibility.Wallet.Address
set_option autoImplicit false

/-!
# Statements: the message

A statement is the text that a wallet signs: a header with the domain that asks,
the address of the wallet, perhaps a line for people, and fields on a line each.
A draft holds the fields as they come; checking it gives a message, whose fields
have the forms that the layout needs, and `Message.render` lays it out.
-/

namespace Eligibility.Statement

open Eligibility.Field (Problem Checked)

/-- The fields of a message before they are checked. -/
structure Draft where
  domain : Json
  address : Json
  uri : Json
  chainId : Json
  nonce : Json
  issuedAt : Json
  statement : Json := .null
  expirationTime : Json := .null
  notBefore : Json := .null
  requestId : Json := .null
  resources : List Json := []
  deriving Repr

/-- The fields of a message. -/
structure Message where
  domain : String
  address : String
  uri : String
  chainId : Int
  issuedAt : String
  nonce : String
  statement : Option String := none
  expirationTime : Option String := none
  notBefore : Option String := none
  requestId : Option String := none
  resources : List String := []
  deriving DecidableEq, Repr

/-! ## Checking -/

/-- The characters of a time with the mark of UTC written as an offset; whole milliseconds of zero
in front of the mark are dropped. -/
def zoneAsOffset : List Char → List Char
  | [] => []
  | '.' :: '0' :: '0' :: '0' :: 'Z' :: rest =>
    '+' :: '0' :: '0' :: ':' :: '0' :: '0' :: zoneAsOffset rest
  | 'Z' :: rest => '+' :: '0' :: '0' :: ':' :: '0' :: '0' :: zoneAsOffset rest
  | c :: rest => c :: zoneAsOffset rest

/-- Whether a text is a time. -/
def isTime (s : String) : Bool :=
  (Calendar.Stamp.read? (String.ofList (zoneAsOffset s.toList))).isSome

/-- A domain: not empty, and nothing of what may follow one in a URI. -/
def isDomain (s : String) : Bool :=
  !s.isEmpty && s.toList.all fun c => c != '/' && c != '?' && c != '#'

/-- A line for people: not empty, and one line. -/
def isLine (s : String) : Bool := !s.isEmpty && !s.toList.contains '\n'

/-- The least number of characters of a nonce. -/
def nonceLength : Nat := 8

/-- A text that satisfies a condition. -/
def textThat (p : String → Bool) (problem : Problem) (j : Json) : Except Problem String :=
  (Field.text j).bind (Field.require p problem)

/-- A time. -/
def time (j : Json) : Except Problem String := textThat isTime .refused j

/-- The message of a draft, or every field that fails. -/
def Draft.check [Uri.Idna] (d : Draft) : Checked Message :=
  Checked.start Message.mk
    |> Checked.also (Checked.located "domain" (textThat isDomain .otherForm d.domain))
    |> Checked.also (Checked.located "address" (textThat Wallet.isAddress .refused d.address))
    |> Checked.also (Checked.located "uri" (Field.address d.uri))
    |> Checked.also (Checked.located "chain_id"
        ((Field.whole d.chainId).bind (Field.require (fun n => 0 ≤ n) .negative)))
    |> Checked.also (Checked.located "issued_at" (time d.issuedAt))
    |> Checked.also (Checked.located "nonce"
        (textThat (fun s => nonceLength ≤ s.length) .tooShort d.nonce))
    |> Checked.also (Checked.located "statement"
        (Field.optional (textThat isLine .otherForm) d.statement))
    |> Checked.also (Checked.located "expiration_time" (Field.optional time d.expirationTime))
    |> Checked.also (Checked.located "not_before" (Field.optional time d.notBefore))
    |> Checked.also (Checked.located "request_id" (Field.optional Field.text d.requestId))
    |> Checked.also (Field.items "resources" Field.address d.resources)

/-! ## Layout -/

/-- What follows the domain in the header. -/
def headerTail : String := " wants you to sign in with your Ethereum account:"

/-- The version of the layout. -/
def version : String := "1"

/-- The line for people with what stands around it. -/
def statementLines : Option String → List String
  | some s => ["", s, ""]
  | none => ["", ""]

/-- A line with a label, unless there is nothing to label. -/
def labelled (label : String) : Option String → List String
  | some s => if s.isEmpty then [] else [label ++ s]
  | none => []

/-- The lines of the resources. -/
def resourceLines (resources : List String) : List String :=
  if resources.isEmpty then [] else "Resources:" :: resources.map ("- " ++ ·)

/-- The lines of a message.  The chain zero is written as the chain one. -/
def Message.lines (m : Message) : List String :=
  [m.domain ++ headerTail, m.address] ++ statementLines m.statement ++
    ["URI: " ++ m.uri, "Version: " ++ version,
     "Chain ID: " ++ toString (if m.chainId = 0 then 1 else m.chainId),
     "Nonce: " ++ m.nonce, "Issued At: " ++ m.issuedAt] ++
    labelled "Expiration Time: " m.expirationTime ++ labelled "Not Before: " m.notBefore ++
    labelled "Request ID: " m.requestId ++ resourceLines m.resources

/-- The text of a message. -/
def Message.render (m : Message) : String := Text.join "\n" m.lines

end Eligibility.Statement
