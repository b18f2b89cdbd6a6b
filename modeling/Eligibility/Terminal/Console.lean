import Eligibility.Terminal.Markup
import Eligibility.Terminal.Table
set_option autoImplicit false

/-!
# Terminal: consoles

A console prints texts, which may hold markup, and tables.  What its markup means, how
it breaks lines and which texts it cannot print is its own affair, and nothing here
depends on it.  `Console.plain` is one console, without colours.
-/

namespace Eligibility.Terminal

/-- What a console makes of what it is given to print. -/
structure Console where
  /-- The lines of a text with markup, if it can be printed. -/
  print? : String → Option (List String)
  /-- The lines of a table with markup in its cells, if it can be printed. -/
  printTable? : Table → Option (List String)

/-- A table with the markup of its cells taken for what it shows. -/
def Table.shown? (t : Table) : Option Table := do
  return ⟨← Terminal.shown? t.title, ← t.header.mapM Terminal.shown?,
    ← t.rows.mapM (·.mapM Terminal.shown?)⟩

/-- A console of so many cells, without colours. -/
def Console.plain (width : Nat) : Console where
  print? s := (Terminal.shown? s).map (wrap width .fold)
  printTable? t := t.shown?.map (·.lines width)

end Eligibility.Terminal
