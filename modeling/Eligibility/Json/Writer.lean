import Eligibility.Json.Basic
import Eligibility.Decimal.Notation
import Eligibility.Text.Quoted
set_option autoImplicit false

/-!
# JSON: writing

Only printable ASCII is written; every other character, the quote and the
backslash are escaped, characters above U+FFFF as a surrogate pair.  Without an
indent a value stands on one line with `, ` and `: `; with one, every item and
member stands on a line of its own.
-/

namespace Eligibility.Json

/-- One UTF-16 code unit as an escape. -/
def escapedUnit (n : Nat) : List Char := '\\' :: 'u' :: Text.hexPadded 4 n

/-- A character as it stands in a string. -/
def escaped (c : Char) : List Char :=
  if c == '"' then ['\\', '"']
  else if c == '\\' then ['\\', '\\']
  else if c == '\n' then ['\\', 'n']
  else if c == '\r' then ['\\', 'r']
  else if c == '\t' then ['\\', 't']
  else if c == '\x08' then ['\\', 'b']
  else if c == '\x0c' then ['\\', 'f']
  else if 32 ≤ c.toNat && c.toNat ≤ 126 then [c]
  else if c.toNat < 0x10000 then escapedUnit c.toNat
  else
    let n := c.toNat - 0x10000
    escapedUnit (0xD800 + n / 0x400) ++ escapedUnit (0xDC00 + n % 0x400)

/-- A string with its quotes. -/
def stringText (s : String) : List Char := '"' :: s.toList.flatMap escaped ++ ['"']

/-- A number of the format binary64. -/
def realNotation : Decimal.Notation :=
  { Decimal.plain with infinity := "Infinity", notANumber := "NaN" }

/-- A line break and the indent at a depth, or nothing on one line. -/
def lineBreak (indent : Option Nat) (depth : Nat) : List Char :=
  match indent with
  | none => []
  | some n => '\n' :: List.replicate (n * depth) ' '

/-- What stands between two items. -/
def separator (indent : Option Nat) (depth : Nat) : List Char :=
  match indent with
  | none => [',', ' ']
  | some _ => ',' :: lineBreak indent depth

mutual

/-- A value whose first line is at `depth`. -/
def layout (indent : Option Nat) (depth : Nat) : Json → List Char
  | .null => ['n', 'u', 'l', 'l']
  | .boolean true => ['t', 'r', 'u', 'e']
  | .boolean false => ['f', 'a', 'l', 's', 'e']
  | .whole n => (toString n).toList
  | .real x => (realNotation.write x).toList
  | .text s => stringText s
  | .array [] => ['[', ']']
  | .array (item :: items) =>
    '[' :: lineBreak indent (depth + 1) ++ layout indent (depth + 1) item ++
      layoutItems indent (depth + 1) items ++ lineBreak indent depth ++ [']']
  | .object [] => ['{', '}']
  | .object ((name, value) :: members) =>
    '{' :: lineBreak indent (depth + 1) ++ stringText name ++ [':', ' '] ++
      layout indent (depth + 1) value ++
      layoutMembers indent (depth + 1) members ++ lineBreak indent depth ++ ['}']

/-- The items after the first one. -/
def layoutItems (indent : Option Nat) (depth : Nat) : List Json → List Char
  | [] => []
  | item :: items =>
    separator indent depth ++ layout indent depth item ++ layoutItems indent depth items

/-- The members after the first one. -/
def layoutMembers (indent : Option Nat) (depth : Nat) : List (String × Json) → List Char
  | [] => []
  | (name, value) :: members =>
    separator indent depth ++ stringText name ++ [':', ' '] ++ layout indent depth value ++
      layoutMembers indent depth members

end

/-- The text of a value, on one line or with an indent per level. -/
def write (indent : Option Nat) (j : Json) : String := String.ofList (layout indent 0 j)

end Eligibility.Json
