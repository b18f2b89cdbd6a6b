import Eligibility.Decimal.Rounding
import Eligibility.Terminal.Wrap
set_option autoImplicit false

/-!
# Terminal: tables

A table has a title, a header and rows, in a frame with a heavy head.  Columns
are as wide as what they hold.  If they are too wide together, the widest ones
shrink to the next widest, step by step, until they fit.
-/

namespace Eligibility.Terminal

/-- A table; every row has a cell for each column. -/
structure Table where
  title : String
  header : List String
  rows : List (List String)
  deriving DecidableEq, Repr

namespace Table

/-- The cells that a column leaves free on either side of its text, together. -/
def padding : Nat := 2

/-- Whether a character ends a line. -/
def endsLine (c : Char) : Bool :=
  let n := c.toNat
  (10 ≤ n && n ≤ 13) || (0x1C ≤ n && n ≤ 0x1E) || n == 0x85 || n == 0x2028 || n == 0x2029

/-- The cells of the longest line of a text. -/
def textWidth (s : String) : Nat :=
  ((s.toList.splitBy fun a b => !(endsLine a || endsLine b)).map Text.widthList).foldl max 0

/-- The cells that a column wants, where it can have at most `limit`. -/
def columnWidth (limit : Nat) (column : List String) : Nat :=
  (column.map fun s => min limit (min limit (textWidth s) + padding)).foldl max 0

/-- The columns, each with its header first. -/
def columns (t : Table) : List (List String) :=
  t.header.mapIdx fun i name => name :: t.rows.map fun row => row.getD i ""

/-- The cells of columns of some widths together. -/
def total (widths : List Nat) : Nat := widths.foldr (· + ·) 0

/-- Take some cells off the widths that are marked, in equal shares of at most `most` each; `parts`
says how many of them are left. -/
def reduce (most : Nat) : (cells parts : Nat) → List (Nat × Bool) → List Nat
  | _, _, [] => []
  | cells, parts, (w, true) :: rest =>
    let part := min most (divideToEven cells parts)
    (w - part) :: reduce most (cells - part) (parts - 1) rest
  | cells, parts, (w, false) :: rest => w :: reduce most cells parts rest

/-- The widths with the widest ones shrunk until all of them together take at most `limit` cells;
each step takes one unit of `fuel`. -/
def shrink (limit : Nat) : (fuel : Nat) → List Nat → List Nat
  | 0, ws => ws
  | fuel + 1, ws =>
    let excess := total ws - limit
    if excess = 0 then ws
    else
      let widest := ws.foldl max 0
      let next := (ws.filter (· ≠ widest)).foldl max 0
      if widest = next then ws
      else
        let marked := ws.map fun w => (w, decide (w = widest))
        let parts := (ws.filter (· = widest)).length
        shrink limit fuel (reduce (min excess (widest - next)) excess parts marked)

/-- The widths of the columns where all of them together can take `limit` cells. -/
def widths (t : Table) (limit : Nat) : List Nat :=
  let ws := t.columns.map fun column => max 1 (columnWidth limit column)
  if total ws ≤ limit then ws
  else (shrink limit (total ws) ws).zipWith (fun w column => columnWidth w column) t.columns

/-- A text with blanks behind it, up to a width. -/
def padRight (width : Nat) (s : String) : String :=
  s ++ String.ofList (List.replicate (width - Text.width s) ' ')

/-- A text between blanks, in the middle of a width. -/
def centre (width : Nat) (s : String) : String :=
  let left := (width - Text.width s) / 2
  padRight width (String.ofList (List.replicate left ' ') ++ s)

/-- A line of the frame. -/
def rule (left line cross right : Char) (widths : List Nat) : String :=
  String.ofList (left :: Text.joinList cross (widths.map fun w => List.replicate w line) ++ [right])

/-- The lines of a cell in a column. -/
def cellLines (width : Nat) (s : String) : List String :=
  (wrap (width - padding) .ellipsis s).map fun line =>
    " " ++ padRight (width - padding) line ++ " "

/-- The lines of cells that stand side by side; the shorter ones get blank lines in front if
`bottom`, and else behind. -/
def rowLines (edge : String) (bottom : Bool) (widths : List Nat) (row : List String) :
    List String :=
  let cells := widths.zipWith cellLines row
  let height := (cells.map List.length).foldl max 1
  let filled := widths.zipWith (fun w lines =>
    let blank := List.replicate (height - lines.length) (padRight w "")
    if bottom then blank ++ lines else lines ++ blank) cells
  (List.range height).map fun i =>
    edge ++ Text.join edge (filled.map fun lines => lines.getD i "") ++ edge

/-- The lines of a table on a terminal of `width` cells. -/
def lines (t : Table) (width : Nat) : List String :=
  let frame := t.header.length + 1
  let ws := t.widths (width - frame)
  [centre (total ws + frame) t.title, rule '┏' '━' '┳' '┓' ws] ++ rowLines "┃" true ws t.header ++
    [rule '┡' '━' '╇' '┩' ws] ++ t.rows.flatMap (rowLines "│" false ws) ++
    [rule '└' '─' '┴' '┘' ws]

end Table

end Eligibility.Terminal
