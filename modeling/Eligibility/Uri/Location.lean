import Eligibility.Text.Blank
import Eligibility.Text.Case
import Eligibility.Uri.Characters
import Eligibility.Uri.Ip
set_option autoImplicit false

/-!
# URIs: the scheme and the host of a location

A lenient reading of a location in which only the scheme and the network part
are looked at.  The network part stands behind two slashes and reaches up to the
path, the query or the fragment; its host follows the last at sign and ends at
a colon, or stands in brackets.
-/

namespace Eligibility.Uri

/-- The scheme and the network part of a location, each empty if it is missing. -/
structure Location where
  scheme : List Char
  network : List Char
  deriving DecidableEq, Repr

namespace Location

/-- The scheme in small letters and what follows it. -/
def splitScheme (cs : List Char) : List Char × List Char :=
  match Text.cutAtList ':' cs with
  | (c :: scheme, some rest) =>
    if isLetter c && scheme.all fun c => isLetter c || c.isDigit || c == '+' || c == '-' || c == '.'
    then ((c :: scheme).map Char.toLower, rest)
    else ([], cs)
  | _ => ([], cs)

/-- The network part that stands next, if one does. -/
def network? : List Char → List Char
  | '/' :: '/' :: rest => rest.takeWhile fun c => c != '/' && c != '?' && c != '#'
  | _ => []

/-- Characters whose compatible form holds a character that separates parts. -/
def separatorForms : List Nat :=
  [0x2047, 0x2048, 0x2049, 0x2100, 0x2101, 0x2105, 0x2106, 0x2A74, 0xFE13, 0xFE16, 0xFE55, 0xFE56,
   0xFE5F, 0xFE6B, 0xFF03, 0xFF0F, 0xFF1A, 0xFF1F, 0xFF20]

/-- Whether the text between brackets is an address. -/
def isBracketed (cs : List Char) : Bool :=
  match cs with
  | 'v' :: rest =>
    match Text.cutAtList '.' rest with
    | (digits, some body) =>
      !digits.isEmpty && digits.all Text.isHexDigit && !body.isEmpty && !body.contains '\n'
    | (_, none) => false
  | _ =>
    match Text.cutAtList '%' cs with
    | (address, none) => isIpv6 address
    | (address, some zone) => isIpv6 address && !zone.isEmpty && !zone.contains '%'

/-- Whether brackets stand in pairs around an address, and no character looks like a separator. -/
def isNetwork (cs : List Char) : Bool :=
  let opens := cs.contains '['
  let closes := cs.contains ']'
  opens == closes &&
    (!opens || isBracketed (((cs.dropWhile (· != '[')).drop 1).takeWhile (· != ']'))) &&
    !cs.any fun c => separatorForms.contains c.toNat

/-- The location that a text writes. -/
def read? (s : String) : Option Location :=
  let cs := (s.toList.dropWhile fun c => c.toNat ≤ 32).filter fun c =>
    c != '\t' && c != '\n' && c != '\r'
  let (scheme, rest) := splitScheme cs
  let network := network? rest
  if isNetwork network then some ⟨scheme, network⟩ else none

/-- The host, in small letters up to a percent sign. -/
def host (l : Location) : String :=
  let (_, rest) := Text.cutAtLastList '@' l.network
  let name := match Text.cutAtList '[' rest with
    | (_, some bracketed) => bracketed.takeWhile (· != ']')
    | (plain, none) => plain.takeWhile (· != ':')
  let small := Text.lower (String.ofList (name.takeWhile (· != '%')))
  small ++ String.ofList (name.dropWhile (· != '%'))

/-- Whether a text is the location of a web page with a host. -/
def isWeb (s : String) : Bool :=
  match read? s with
  | some l =>
    (l.scheme == ['h', 't', 't', 'p'] || l.scheme == ['h', 't', 't', 'p', 's']) && l.host != ""
  | none => false

end Location

end Eligibility.Uri
