import Eligibility.Text.Hex
set_option autoImplicit false

/-!
# URIs: characters

The character classes of RFC 3986 and the texts made of path characters.  A
percent sign stands only in front of two hex digits, so a text is read from left
to right, three characters at a percent sign and one otherwise.
-/

namespace Eligibility.Uri

/-- An ASCII letter. -/
def isLetter (c : Char) : Bool := ('a' ≤ c && c ≤ 'z') || ('A' ≤ c && c ≤ 'Z')

/-- A character that never needs encoding. -/
def isUnreserved (c : Char) : Bool :=
  isLetter c || c.isDigit || c == '-' || c == '.' || c == '_' || c == '~'

/-- A reserved character without a meaning of its own in most components. -/
def isSubDelim (c : Char) : Bool :=
  c == '!' || c == '$' || c == '&' || c == '\x27' || c == '(' || c == ')' || c == '*' ||
    c == '+' || c == ',' || c == ';' || c == '='

/-- A reserved character that separates components. -/
def isGenDelim (c : Char) : Bool :=
  c == ':' || c == '/' || c == '?' || c == '#' || c == '[' || c == ']' || c == '@'

/-- A character of a path segment that stands for itself. -/
def isSegmentChar (c : Char) : Bool :=
  isUnreserved c || isSubDelim c || c == ':' || c == '@'

/-- A character of a path that stands for itself. -/
def isPathChar (c : Char) : Bool := isSegmentChar c || c == '/'

/-- Whether the characters are all in the class `p` or belong to a percent triplet. -/
def allEncoded (p : Char → Bool) : List Char → Bool
  | [] => true
  | '%' :: a :: b :: rest => Text.isHexDigit a && Text.isHexDigit b && allEncoded p rest
  | c :: rest => c != '%' && p c && allEncoded p rest

/-- Whether a text is not empty and may stand in the path of a URI. -/
def isPathText (s : String) : Bool := !s.isEmpty && allEncoded isPathChar s.toList

theorem isPathText_empty : isPathText "" = false := by decide

end Eligibility.Uri
