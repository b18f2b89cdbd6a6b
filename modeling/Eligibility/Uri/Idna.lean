import Eligibility.Text.Split
set_option autoImplicit false

/-!
# URIs: names in ASCII

The names of hosts are names in ASCII.  One that is written in ASCII, and not in
Punycode, is taken as it is, in lower case, unless it holds a character that
separates the parts of an address.  What stands for any other name, if anything does,
is told by the tables of Unicode, from one version to the next, and by the rules for
scripts that are written from right to left.  `Idna` is whoever tells it, and nothing
here depends on the answer.
-/

namespace Eligibility.Uri

/-- What names that are not plain ASCII stand for. -/
class Idna where
  /-- The name in ASCII that a name stands for, if it is a name at all. -/
  toAscii? : List Char → Option (List Char)

/-- Nothing stands for a name that is not plain ASCII. -/
@[reducible] def Idna.plain : Idna := ⟨fun _ => none⟩

/-- An ASCII character that no host holds. -/
def isDenied (c : Char) : Bool :=
  let n := c.toNat
  n ≤ 32 || n == 127 || c == '%' || c == '#' || c == '/' || c == ':' || c == '<' || c == '>' ||
    c == '?' || c == '@' || c == '[' || c == '\\' || c == ']' || c == '^' || c == '|'

/-- Whether a label is written in Punycode. -/
def isPunyLabel (cs : List Char) : Bool := "xn--".toList.isPrefixOf (cs.map Char.toLower)

/-- Whether a name is plain ASCII: no label of it is written in Punycode. -/
def isPlainName (cs : List Char) : Bool :=
  cs.all (·.toNat < 0x80) && !(Text.piecesList '.' cs).any isPunyLabel

/-- The name in ASCII that a name stands for. -/
def asciiName? [Idna] (cs : List Char) : Option (List Char) :=
  if isPlainName cs then
    if cs.any isDenied then none else some (cs.map Char.toLower)
  else Idna.toAscii? cs

end Eligibility.Uri
