import Eligibility.Uri.Idna
import Eligibility.Uri.Ip
import Eligibility.Uri.Percent
set_option autoImplicit false

/-!
# URIs: hosts of web addresses

Whether a host can be resolved to a name.  Its percent triplets are decoded first,
and it is made a name in ASCII, which must not be empty, and an address if it ends in
a number.
-/

namespace Eligibility.Uri

variable [Idna]

/-- Whether a host can be resolved to a name or is a numeric address. -/
def isDomain (cs : List Char) : Bool :=
  match asciiName? (decodedText (String.ofList cs)).toList with
  | none => false
  | some name => !name.isEmpty && (!endsInNumber name || isNumericHost name)

/-- Whether the characters are a host of a scheme that is known to be resolved. -/
def isResolvedHost (cs : List Char) : Bool :=
  match cs with
  | '[' :: rest => rest.getLast? == some ']' && isIpv6 rest.dropLast
  | _ => isDomain cs

/-- A character that no host of any scheme holds. -/
def isDeniedEverywhere (c : Char) : Bool :=
  c == '\x00' || c == '\t' || c == '\n' || c == '\r' || c == ' ' || c == '#' || c == '/' ||
    c == ':' || c == '<' || c == '>' || c == '?' || c == '@' || c == '[' || c == '\\' ||
    c == ']' || c == '^' || c == '|'

/-- Whether the characters are a host of any other scheme. -/
def isOpaqueHost (cs : List Char) : Bool :=
  match cs with
  | '[' :: rest => rest.getLast? == some ']' && isIpv6 rest.dropLast
  | _ => !cs.any isDeniedEverywhere

end Eligibility.Uri
