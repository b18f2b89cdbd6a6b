set_option autoImplicit false

/-!
# Decimal: rounding

A quotient of two whole numbers is rounded to the nearest whole number; where two
are equally near, to the even one.
-/

namespace Eligibility

/-- The quotient rounded to the nearest whole number, a tie to the even one. -/
def divideToEven (num den : Nat) : Nat :=
  let q := num / den
  let twice := 2 * (num % den)
  if twice < den then q
  else if den < twice then q + 1
  else if q % 2 = 0 then q else q + 1

end Eligibility
