import Eligibility.Uri.Characters
import Eligibility.Uri.Ip
set_option autoImplicit false

/-!
# URIs: the generic syntax

A recogniser for the rule `URI` of RFC 3986 and for its parts.  Every component
ends at a character that it cannot hold, so the components are cut out first and
then looked at one by one.
-/

namespace Eligibility.Uri

/-- Whether the characters are a scheme. -/
def isScheme (cs : List Char) : Bool :=
  match cs with
  | [] => false
  | c :: rest =>
    isLetter c && rest.all fun c => isLetter c || c.isDigit || c == '+' || c == '-' || c == '.'

/-- Whether the characters are an address of a future version. -/
def isIpFuture (cs : List Char) : Bool :=
  match cs with
  | v :: rest =>
    match Text.cutAtList '.' rest with
    | (digits, some body) =>
      (v == 'v' || v == 'V') && !digits.isEmpty && digits.all Text.isHexDigit && !body.isEmpty &&
        body.all fun c => isUnreserved c || isSubDelim c || c == ':'
    | (_, none) => false
  | [] => false

/-- Whether the characters are a host without brackets. -/
def isRegName (cs : List Char) : Bool := allEncoded (fun c => isUnreserved c || isSubDelim c) cs

/-- Whether the characters are a user and what belongs to it. -/
def isUserInfo (cs : List Char) : Bool :=
  allEncoded (fun c => isUnreserved c || isSubDelim c || c == ':') cs

/-- Whether the characters are nothing, or a colon and a port. -/
def isPortPart (cs : List Char) : Bool :=
  match cs with
  | [] => true
  | ':' :: digits => digits.all Char.isDigit
  | _ => false

/-- Whether the characters are a host and a port. -/
def isHostPort (cs : List Char) : Bool :=
  match cs with
  | '[' :: rest =>
    match Text.cutAtList ']' rest with
    | (address, some port) => (isIpv6 address || isIpFuture address) && isPortPart port
    | (_, none) => false
  | _ =>
    isRegName (cs.takeWhile (· != ':')) && isPortPart (cs.dropWhile (· != ':'))

/-- Whether the characters are an authority. -/
def isAuthority (cs : List Char) : Bool :=
  match Text.cutAtList '@' cs with
  | (user, some rest) => isUserInfo user && isHostPort rest
  | (_, none) => isHostPort cs

/-- Whether the characters are what may follow the colon of a scheme, up to the query. -/
def isHierPart (cs : List Char) : Bool :=
  match cs with
  | '/' :: '/' :: rest =>
    isAuthority (rest.takeWhile (· != '/')) && allEncoded isPathChar (rest.dropWhile (· != '/'))
  | _ => allEncoded isPathChar cs

/-- Whether the characters may stand in a query or a fragment. -/
def isQuery (cs : List Char) : Bool := allEncoded (fun c => isPathChar c || c == '?') cs

/-- Whether a part that may be missing satisfies `p`. -/
def partIs (p : List Char → Bool) : Option (List Char) → Bool
  | none => true
  | some cs => p cs

/-- Whether the characters are a URI. -/
def isUri (cs : List Char) : Bool :=
  let (beforeFragment, fragment) := Text.cutAtList '#' cs
  let (beforeQuery, query) := Text.cutAtList '?' beforeFragment
  match Text.cutAtList ':' beforeQuery with
  | (scheme, some rest) =>
    isScheme scheme && isHierPart rest && partIs isQuery query && partIs isQuery fragment
  | (_, none) => false

/-- Whether the characters are segment characters. -/
def isSegmentText (cs : List Char) : Bool := allEncoded isSegmentChar cs

end Eligibility.Uri
