import Eligibility.Text.Hex
import Eligibility.Text.Split
set_option autoImplicit false

/-!
# URIs: IP addresses

The written forms of IP addresses.  `isIpv4` is four decimal bytes without
leading zeros, `isIpv6` eight groups of hex digits of which the last two may be
written as an IPv4 address and a run of groups may be left out at two colons.
`isNumericHost` is the wide form of a host that ends in a number: one to four
numbers, each in base ten, eight or sixteen.
-/

namespace Eligibility.Uri

/-- Whether the digits are a number from 0 to 255 without leading zeros. -/
def isByteText (cs : List Char) : Bool :=
  !cs.isEmpty && cs.length ≤ 3 && cs.all Char.isDigit && (cs.length == 1 || cs.head? != some '0') &&
    Nat.ofDigitChars 10 cs 0 ≤ 255

/-- Whether the characters are an IPv4 address. -/
def isIpv4 (cs : List Char) : Bool :=
  let parts := Text.piecesList '.' cs
  parts.length == 4 && parts.all isByteText

/-- Whether the characters are one group of an IPv6 address. -/
def isGroup (cs : List Char) : Bool := !cs.isEmpty && cs.length ≤ 4 && cs.all Text.isHexDigit

/-- The number of groups that the characters write, if they write groups; `mayEnd` allows an IPv4
address at the end. -/
def groupCount? (mayEnd : Bool) (cs : List Char) : Option Nat :=
  if cs.isEmpty then some 0
  else
    let parts := Text.piecesList ':' cs
    if parts.all isGroup then some parts.length
    else if mayEnd && parts.dropLast.all isGroup && isIpv4 (parts.getLastD []) then
      some (parts.length + 1)
    else none

/-- Whether the characters are an IPv6 address. -/
def isIpv6 (cs : List Char) : Bool :=
  match Text.cutAtTextList [':', ':'] cs with
  | none => !cs.isEmpty && groupCount? true cs == some 8
  | some (left, right) =>
    match groupCount? false left, groupCount? true right with
    | some a, some b => a + b ≤ 7
    | _, _ => false

/-! ## Hosts that end in a number -/

/-- A part of a numeric host. -/
inductive HostNumber where
  | value (n : Nat)
  | notNumber
  deriving DecidableEq, Repr

/-- The value of hex digits. -/
def hexNumber (cs : List Char) : Nat :=
  cs.foldl (fun n c => n * 16 + (Text.hexValue? c).getD 0) 0

/-- The number of a part: hex behind `0x`, octal behind a further `0`, decimal otherwise. -/
def hostNumber (cs : List Char) : HostNumber :=
  match cs with
  | [] => .notNumber
  | '0' :: 'x' :: ds | '0' :: 'X' :: ds =>
    if ds.all Text.isHexDigit then .value (hexNumber ds) else .notNumber
  | '0' :: d :: ds =>
    if (d :: ds).all (fun c => '0' ≤ c && c ≤ '7') then .value (Nat.ofDigitChars 8 (d :: ds) 0)
    else .notNumber
  | ds => if ds.all Char.isDigit then .value (Nat.ofDigitChars 10 ds 0) else .notNumber

/-- The parts of a host between dots, without an empty one at the end. -/
def hostParts (cs : List Char) : List (List Char) :=
  let parts := Text.piecesList '.' cs
  if parts.getLastD [] == [] then parts.dropLast else parts

/-- Whether the last part of a host is a number. -/
def endsInNumber (cs : List Char) : Bool :=
  match (hostParts cs).getLast? with
  | none => false
  | some part => (!part.isEmpty && part.all Char.isDigit) || hostNumber part != .notNumber

/-- Whether the numbers make up an address: all but the last one are bytes, and the last one fills
the rest of four. -/
def numbersFit (numbers : List Nat) : Bool :=
  numbers.dropLast.all (· ≤ 255) && numbers.getLastD 0 < Nat.pow 256 (5 - numbers.length)

/-- Whether a host that ends in a number is an IPv4 address. -/
def isNumericHost (cs : List Char) : Bool :=
  let numbers := (hostParts cs).map hostNumber
  numbers.length ≤ 4 && !numbers.contains .notNumber &&
    numbersFit (numbers.filterMap fun
      | .value n => some n
      | .notNumber => none)

end Eligibility.Uri
