set_option autoImplicit false

/-!
# Text: membership in a table of ranges

A character property is stored as a list of closed ranges of code points, in
increasing order and without overlap.
-/

namespace Eligibility.Text

/-- Whether `n` lies in one of the ranges; the list is in increasing order. -/
def inRanges (n : Nat) : List (Nat × Nat) → Bool
  | [] => false
  | (first, last) :: rest => if n < first then false else n ≤ last || inRanges n rest

end Eligibility.Text
