import Eligibility.Calendar.Stamp
set_option autoImplicit false

/-!
# Calendar: durations

A duration is a whole number of microseconds.  One given as a number of the
format binary64 in some unit is converted in two parts: the whole units exactly,
and the rest by one product of the format, of which what is left below a
microsecond is rounded to the nearest one, a tie to the even total.
-/

namespace Eligibility.Calendar

/-- A number of microseconds. -/
abbrev Duration : Type := Int

namespace Duration

/-- The microseconds of an hour. -/
def hour : Nat := 3600 * secondTicks

/-- The microseconds of a millisecond. -/
def millisecond : Nat := 1000

/-- The longest duration has this many days. -/
def dayBound : Nat := 999999999

/-- Whether a duration can be told: its days lie within the bound on either side. -/
def inBounds (d : Duration) : Bool :=
  -(dayBound * dayTicks : Int) ≤ d && d < ((dayBound + 1) * dayTicks : Int)

/-- The microseconds in the magnitude of a finite number of units. -/
def magnitude (unit mantissa : Nat) (exponent : Int) : Nat :=
  let (whole, fraction, shift) := Binary64.split mantissa exponent
  match Binary64.ofRatio false (fraction * unit) (twoPow shift) with
  | .finite _ m e _ =>
    let (more, rest, shift) := Binary64.split m e
    divideToEven ((whole * unit + more) * twoPow shift + rest) (twoPow shift)
  | _ => whole * unit

/-- The duration of a number of units, if it is finite and within bounds. -/
def ofUnits? (unit : Nat) : Binary64 → Option Duration
  | .finite negative m e _ =>
    let n : Int := magnitude unit m e
    let d := if negative then -n else n
    if inBounds d then some d else none
  | _ => none

/-- The duration of a whole number of units, if it is within bounds. -/
def ofWhole? (unit : Nat) (n : Int) : Option Duration :=
  let d := n * unit
  if inBounds d then some d else none

end Duration

end Eligibility.Calendar
