import Eligibility.Decimal.Binary64
set_option autoImplicit false

/-!
# Decimal: the shortest decimal that reads back

A finite number is written with the fewest digits that read back as the same
number, and among those with the nearest.  The reals that round to a number form
an interval around it, closed if its mantissa is even.  For one digit, two
digits, and so on, the two neighbours of the value on that decimal grid are
tested against the interval in whole-number arithmetic; seventeen digits always
suffice.
-/

namespace Eligibility.Decimal

/-- A positive decimal `0.d₁d₂… * 10 ^ point`, without a trailing zero. -/
structure Digits where
  digits : List Char
  point : Int
  deriving DecidableEq, Repr

/-- The interval of reals that round to a number, with the number in it, as whole multiples of
`1 / den`. -/
structure Interval where
  low : Nat
  value : Nat
  high : Nat
  den : Nat
  closed : Bool

/-- The interval of the reals that round to `mantissa * 2 ^ exponent`; below a power of two the
neighbour is only half as far away. -/
def interval (mantissa : Nat) (exponent : Int) : Interval :=
  let below := if mantissa = twoPow 52 ∧ Binary64.minExponent < exponent then 1 else 2
  let up := twoPow exponent.toNat
  { low := (4 * mantissa - below) * up
    value := 4 * mantissa * up
    high := (4 * mantissa + 2) * up
    den := 4 * twoPow (-exponent).toNat
    closed := mantissa % 2 = 0 }

/-- `n / d` against `10 ^ k`: whether it is smaller. -/
def lessThanTenPow (n d : Nat) (k : Int) : Bool :=
  if 0 ≤ k then n < d * tenPow k.toNat else n * tenPow (-k).toNat < d

/-- The place of the decimal point: the value is below `10 ^ place` and not below a tenth of it. -/
def placeOf (n d : Nat) : Int :=
  let guess : Int := ((Nat.log2 n : Int) - (Nat.log2 d : Int)) * 30103 / 100000
  match [guess - 1, guess, guess + 1, guess + 2].find? (lessThanTenPow n d) with
  | some k => k
  | none => guess + 2

/-- Whether `c * 10 ^ k` lies in the interval. -/
def Interval.holds (i : Interval) (c : Nat) (k : Int) : Bool :=
  let up := tenPow k.toNat
  let down := tenPow (-k).toNat
  let x := c * up * i.den
  if i.closed then i.low * down ≤ x && x ≤ i.high * down
  else i.low * down < x && x < i.high * down

/-- The decimal `c * 10 ^ k` without trailing zeros. -/
def Digits.ofNat (c : Nat) (k : Int) : Digits :=
  let ds := Nat.toDigits 10 c
  { digits := (ds.reverse.dropWhile (· == '0')).reverse
    point := ds.length + k }

/-- The nearer of the two neighbours of the value on the grid of `10 ^ k` that lie in the interval;
of two equally near ones the even one. -/
def Interval.pick (i : Interval) (k : Int) : Option Nat :=
  let num := i.value * tenPow (-k).toNat
  let den := i.den * tenPow k.toNat
  let c := num / den
  let lowFits := i.holds c k
  let highFits := i.holds (c + 1) k
  if lowFits && highFits then some (divideToEven num den)
  else if lowFits then some c
  else if highFits then some (c + 1)
  else none

/-- The first grid with a neighbour in the interval, with `count` digits or one more, and so on. -/
def Interval.search (i : Interval) (place : Int) : (fuel count : Nat) → Digits
  | 0, count =>
    let k := place - count
    Digits.ofNat (i.value * tenPow (-k).toNat / (i.den * tenPow k.toNat)) k
  | fuel + 1, count =>
    match i.pick (place - count) with
    | some c => Digits.ofNat c (place - count)
    | none => i.search place fuel (count + 1)

/-- The shortest decimal that reads back as `mantissa * 2 ^ exponent`, for a mantissa above zero. -/
def shortest (mantissa : Nat) (exponent : Int) : Digits :=
  let i := interval mantissa exponent
  i.search (placeOf i.value i.den) 17 1

end Eligibility.Decimal
