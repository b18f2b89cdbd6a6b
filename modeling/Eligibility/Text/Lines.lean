import Eligibility.Text.Split
set_option autoImplicit false

/-!
# Text: lines

A line ends at LF and at nothing else; one CR before the LF belongs to the line
end.  VT, FF, NEL, LINE SEPARATOR and the like stay inside their line, so a
character that only looks like a line break cannot hide one.
-/

namespace Eligibility.Text

/-- The line without its CR, if it ends in one. -/
def dropReturn (line : List Char) : List Char :=
  match line.reverse with
  | '\r' :: rest => rest.reverse
  | _ => line

/-- The lines of a text, the last one included even if it is empty. -/
def linesList (cs : List Char) : List (List Char) :=
  (piecesList '\n' cs).map dropReturn

/-- The lines of a text, the last one included even if it is empty. -/
def lines (s : String) : List String := (linesList s.toList).map String.ofList

/-- CR LF and a CR alone both become LF, as when a text file is read. -/
def unifyBreaksList : List Char → List Char
  | [] => []
  | '\r' :: '\n' :: cs => '\n' :: unifyBreaksList cs
  | '\r' :: cs => '\n' :: unifyBreaksList cs
  | c :: cs => c :: unifyBreaksList cs

/-- CR LF and a CR alone both become LF, as when a text file is read. -/
def unifyBreaks (s : String) : String := String.ofList (unifyBreaksList s.toList)

@[simp] theorem dropReturn_append_return (line : List Char) :
    dropReturn (line ++ ['\r']) = line := by
  simp [dropReturn]

end Eligibility.Text
