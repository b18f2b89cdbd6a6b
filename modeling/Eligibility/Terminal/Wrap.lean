import Eligibility.Text.Blank
import Eligibility.Text.Width
set_option autoImplicit false

/-!
# Terminal: breaking lines

A line that is too long is broken between words.  A word that is longer than a
line starts a line of its own; it then goes on in the following lines, or it is
cut and ends in an ellipsis.
-/

namespace Eligibility.Terminal

open Text (charWidth widthList isBlank)

/-- What becomes of a word that is longer than a line. -/
inductive Overflow where
  /-- It goes on in the next line. -/
  | fold
  /-- It is cut. -/
  | ellipsis
  deriving DecidableEq, Repr

/-- The words of a line, each with the blanks that follow it; the first one also with those in front
of it. -/
def wordsOf (cs : List Char) : List (List Char) :=
  match cs.splitBy fun a b => !(isBlank a && !isBlank b) with
  | lead :: word :: rest =>
    if lead.all isBlank then (lead ++ word) :: rest else lead :: word :: rest
  | [word] => if word.all isBlank then [] else [word]
  | [] => []

/-- A word cut into parts of at most `width` cells. -/
def foldWord (width : Nat) (word : List Char) : List (List Char) :=
  let (done, last, _) := word.foldl (fun (done, part, cells) c =>
    if cells + charWidth c ≤ width then (done, part ++ [c], cells + charWidth c)
    else (done ++ [part], [c], charWidth c)) (([], [], 0) : List (List Char) × List Char × Nat)
  done ++ [last]

/-- Lines on the way: those that are done, the one that is open, and the cells of its words. -/
structure Lines where
  done : List (List Char) := []
  current : List Char := []
  cells : Nat := 0
  /-- Whether nothing has been put yet. -/
  untouched : Bool := true

namespace Lines

/-- The lines with a part on a line of its own; the very first line needs no break. -/
def putNext (l : Lines) (part : List Char) : Lines :=
  if l.untouched then { l with current := part, cells := widthList part, untouched := false }
  else ⟨l.done ++ [l.current], part, widthList part, false⟩

/-- The lines with a part behind what is there. -/
def putHere (l : Lines) (part : List Char) : Lines :=
  { l with current := l.current ++ part, cells := l.cells + widthList part, untouched := false }

/-- The lines with a word; the blanks behind it need no room. -/
def put (width : Nat) (overflow : Overflow) (l : Lines) (word : List Char) : Lines :=
  let length := widthList (word.reverse.dropWhile isBlank).reverse
  if l.cells + length ≤ width then l.putHere word
  else if width < length then
    match overflow with
    | .fold => (foldWord width word).foldl putNext l
    | .ellipsis => l.putNext word
  else if 0 < l.cells && !l.untouched then l.putNext word
  else { l with current := l.current ++ word, untouched := false }

/-- All lines. -/
def all (l : Lines) : List (List Char) := l.done ++ [l.current]

end Lines

/-- The lines of one line, none of them shortened yet. -/
def breakLine (width : Nat) (overflow : Overflow) (cs : List Char) : List (List Char) :=
  match wordsOf cs with
  | [] => [cs]
  | words => (words.foldl (Lines.put width overflow) {}).all

/-- The line with as many blanks taken off its end as it has characters too many. -/
def dropExcess (width : Nat) (cs : List Char) : List Char :=
  let blanks := (cs.reverse.takeWhile isBlank).length
  cs.take (cs.length - min blanks (cs.length - width))

/-- The start of a line that takes `width` cells; half of a wide character becomes a space. -/
def takeCells : (width : Nat) → List Char → List Char
  | _, [] => []
  | width, c :: cs =>
    if charWidth c ≤ width then c :: takeCells (width - charWidth c) cs
    else List.replicate width ' '

/-- The line cut to at most `width` cells. -/
def cutLine (width : Nat) (overflow : Overflow) (cs : List Char) : List Char :=
  if widthList cs ≤ width then cs
  else match overflow with
    | .ellipsis => takeCells (width - 1) cs ++ ['…']
    | .fold => takeCells width cs

/-- The distance between the stops of a tab. -/
def tabSize : Nat := 8

/-- The line with its tabs as blanks, where `cells` cells stand in front of it. -/
def expandTabs : (cells : Nat) → List Char → List Char
  | _, [] => []
  | cells, '\t' :: cs =>
    let blanks := tabSize - cells % tabSize
    List.replicate blanks ' ' ++ expandTabs (cells + blanks) cs
  | cells, c :: cs => c :: expandTabs (cells + charWidth c) cs

/-- The lines of a text, broken at `width` cells. -/
def wrap (width : Nat) (overflow : Overflow) (s : String) : List String :=
  (Text.piecesList '\n' s.toList).flatMap fun line =>
    (breakLine width overflow (expandTabs 0 line)).map fun cs =>
      String.ofList (cutLine width overflow (dropExcess width cs))

end Eligibility.Terminal
