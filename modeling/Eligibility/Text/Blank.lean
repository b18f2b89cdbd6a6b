import Eligibility.Text.Split
set_option autoImplicit false

/-!
# Text: blank characters and trimming

Two classes of blank characters are in use.  `isBlank` is the wide one: every
character whose general category is a separator or whose bidirectional class is
a white-space or separator class; it decides whether a text counts as empty and
what is taken off the ends of list items.  `isWhiteSpace` is the Unicode
property of that name, the narrower class used when a number is read leniently.
-/

namespace Eligibility.Text

/-- The Unicode property White_Space. -/
def isWhiteSpace (c : Char) : Bool :=
  let n := c.toNat
  (9 ≤ n && n ≤ 13) || n == 32 || n == 0x85 || n == 0xA0 || n == 0x1680 ||
    (0x2000 ≤ n && n ≤ 0x200A) || n == 0x2028 || n == 0x2029 || n == 0x202F ||
    n == 0x205F || n == 0x3000

/-- White_Space and the four information separators U+001C to U+001F. -/
def isBlank (c : Char) : Bool :=
  isWhiteSpace c || (28 ≤ c.toNat && c.toNat ≤ 31)

/-- The characters with every one in the class `p` taken off both ends. -/
def trimEndsList (p : Char → Bool) (cs : List Char) : List Char :=
  ((cs.dropWhile p).reverse.dropWhile p).reverse

/-- The text with every character in the class `p` taken off both ends. -/
def trimEnds (p : Char → Bool) (s : String) : String :=
  String.ofList (trimEndsList p s.toList)

/-- The text without blanks at either end. -/
def trim (s : String) : String := trimEnds isBlank s

/-- A text without a character that is not blank; the empty text is one. -/
def isBlankText (s : String) : Bool := s.toList.all isBlank

/-- The pieces between the separators, without blanks at the ends, none empty. -/
def itemsBetween (sep : Char) (s : String) : List String :=
  ((pieces sep s).map trim).filter fun item => !item.isEmpty

/-- The text with every trailing `c` taken off. -/
def dropTrailing (c : Char) (s : String) : String :=
  String.ofList (s.toList.reverse.dropWhile (· == c)).reverse

theorem isBlankText_empty : isBlankText "" = true := by decide

end Eligibility.Text
