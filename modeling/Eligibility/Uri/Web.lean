import Eligibility.Text.Blank
import Eligibility.Uri.Characters
import Eligibility.Uri.Host
set_option autoImplicit false

/-!
# URIs: web addresses

Whether a text is an absolute address as a browser takes it.  Controls and
spaces at the ends and line breaks anywhere are passed over.  The well-known
schemes need a host, of which the slashes in front may be any; a file may have
one; any other scheme has one only behind two slashes, and without them every
text will do.
-/

namespace Eligibility.Uri

/-- The characters that count: none of the controls and spaces at the ends, no tab and no line
break. -/
def countingChars (cs : List Char) : List Char :=
  (Text.trimEndsList (fun c => c.toNat ≤ 32) cs).filter fun c =>
    c != '\t' && c != '\n' && c != '\r'

/-- A scheme with a fixed meaning that has a host. -/
def isHostScheme (scheme : List Char) : Bool :=
  ["http", "https", "ws", "wss", "ftp"].contains (String.ofList scheme)

/-- A slash in either direction. -/
def isSlash (c : Char) : Bool := c == '/' || c == '\\'

/-- Whether a character ends the authority; the backward slash does where it counts as a slash. -/
def endsAuthority (backward : Bool) (c : Char) : Bool :=
  c == '/' || c == '?' || c == '#' || (backward && c == '\\')

/-- The characters of a host, up to a colon outside of brackets. -/
def spanHost : (inside : Bool) → List Char → List Char × List Char
  | _, [] => ([], [])
  | inside, c :: cs =>
    if c == ':' && !inside then ([], c :: cs)
    else
      let inside := if c == '[' then true else if c == ']' then false else inside
      let (host, rest) := spanHost inside cs
      (c :: host, rest)

/-- Whether what follows a host is nothing, or a colon and a port of sixteen bits. -/
def isWebPort (cs : List Char) : Bool :=
  match cs with
  | ':' :: rest =>
    let port := rest.takeWhile fun c => !isSlash c
    port.all Char.isDigit && Nat.ofDigitChars 10 port 0 ≤ 65535
  | _ => true

/-- The user of an authority, which the last at sign ends, and the rest. -/
def splitUser (cs : List Char) : Option (List Char) × List Char := Text.cutAtLastList '@' cs

section

variable [Idna]

/-- Whether the authority of a scheme with a fixed meaning is good. -/
def isHostAuthority (cs : List Char) : Bool :=
  let (_, rest) := splitUser (cs.takeWhile fun c => !endsAuthority true c)
  let (host, port) := spanHost false rest
  !host.isEmpty && isResolvedHost host && isWebPort port

/-- Whether the authority of any other scheme is good: without a host it has no port, and no user
but an empty one at the very end. -/
def isOpaqueAuthority (cs : List Char) : Bool :=
  let authority := cs.takeWhile fun c => !endsAuthority false c
  let after := cs.dropWhile fun c => !endsAuthority false c
  let (user, rest) := splitUser authority
  let (host, port) := spanHost false rest
  if host.isEmpty then
    port.isEmpty &&
      match user with
      | none => true
      | some [] => after.isEmpty
      | some _ => false
  else isOpaqueHost host && isWebPort port

/-- A letter with a colon or a bar, which names a drive and no host. -/
def isDrive (cs : List Char) : Bool :=
  match cs with
  | [c, mark] => isLetter c && (mark == ':' || mark == '|')
  | _ => false

/-- Whether what follows the scheme of a file is good: only the host behind two slashes can be
bad. -/
def isFileBody (cs : List Char) : Bool :=
  match cs with
  | a :: b :: rest =>
    if isSlash a && isSlash b then
      let host := rest.takeWhile fun c => !endsAuthority true c
      host.isEmpty || isDrive host || isResolvedHost host
    else true
  | _ => true

/-- Whether what follows a scheme, in small letters, is good. -/
def isBody (scheme rest : List Char) : Bool :=
  if isHostScheme scheme then isHostAuthority (rest.dropWhile isSlash)
  else if scheme == ['f', 'i', 'l', 'e'] then isFileBody rest
  else match rest with
    | '/' :: '/' :: rest => isOpaqueAuthority rest
    | _ => true

/-- Whether a text is an absolute web address. -/
def isWebAddress (s : String) : Bool :=
  let cs := countingChars s.toList
  let scheme := cs.takeWhile fun c =>
    isLetter c || c.isDigit || c == '+' || c == '-' || c == '.'
  match scheme, cs.drop scheme.length with
  | c :: _, ':' :: rest => isLetter c && isBody (scheme.map Char.toLower) rest
  | _, _ => false

end

end Eligibility.Uri
