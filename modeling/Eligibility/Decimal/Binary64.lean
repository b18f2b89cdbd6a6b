import Eligibility.Decimal.Power
import Eligibility.Decimal.Rounding
set_option autoImplicit false

/-!
# Decimal: binary floating-point numbers

A number of the IEEE 754 format binary64 is kept as its exact value, a sign, a
mantissa and a power of two, so that everything about it is computed and argued
in exact arithmetic.  `rounded` is the one place that rounds: to the nearest
number of the format, a tie to the even mantissa.
-/

namespace Eligibility

namespace Binary64

/-- The number of bits of a mantissa. -/
def precision : Nat := 53

/-- The smallest exponent, that of the subnormal numbers. -/
def minExponent : Int := -1074

/-- The largest exponent. -/
def maxExponent : Int := 971

/-- The mantissas and exponents of the format. -/
def InFormat (mantissa : Nat) (exponent : Int) : Prop :=
  mantissa < twoPow precision ∧ minExponent ≤ exponent ∧ exponent ≤ maxExponent

instance (mantissa : Nat) (exponent : Int) : Decidable (InFormat mantissa exponent) :=
  inferInstanceAs (Decidable (_ ∧ _ ∧ _))

end Binary64

/-- A number of the format binary64. -/
inductive Binary64 where
  /-- The value `mantissa * 2 ^ exponent`, with a minus sign if `negative`. -/
  | finite (negative : Bool) (mantissa : Nat) (exponent : Int)
    (inFormat : Binary64.InFormat mantissa exponent)
  /-- An infinity. -/
  | infinite (negative : Bool)
  /-- Not a number. -/
  | nan
  deriving DecidableEq, Repr, Inhabited

namespace Binary64

/-- Zero, with a sign. -/
def zero (negative : Bool) : Binary64 := .finite negative 0 minExponent (by decide)

/-- `num / (den * 2 ^ e)` as a quotient of two whole numbers. -/
def scaled (num den : Nat) (e : Int) : Nat × Nat :=
  if 0 ≤ e then (num, den * twoPow e.toNat) else (num * twoPow (-e).toNat, den)

/-- The exponent for the value `num / den`: the one that gives the mantissa all its bits, or the
smallest exponent if that is larger. -/
def exponentFor (num den : Nat) : Int :=
  let guess : Int := (Nat.log2 num : Int) - (Nat.log2 den : Int) - 52
  let (n, d) := scaled num den guess
  let exact := if n < twoPow 52 * d then guess - 1 else guess
  max minExponent exact

/-- A mantissa with a bit too many, which only a carry leaves, with the next exponent instead. -/
def carried (m : Nat) (e : Int) : Nat × Int :=
  if m = twoPow precision then (twoPow 52, e + 1) else (m, e)

/-- The mantissa and the exponent nearest to `num / den`, a tie to the even mantissa; the exponent
may be too large for the format. -/
def rounded (num den : Nat) : Nat × Int :=
  let e := exponentFor num den
  let (n, d) := scaled num den e
  carried (divideToEven n d) e

/-- The number of a mantissa and an exponent, infinite if the format has no room for it. -/
def ofParts (negative : Bool) : Nat × Int → Binary64
  | (m, e) => if h : InFormat m e then .finite negative m e h else .infinite negative

/-- The number nearest to `num / den`, infinite if that is too large. -/
def ofRatio (negative : Bool) (num den : Nat) : Binary64 :=
  if num = 0 then zero negative else ofParts negative (rounded num den)

/-- The number nearest to `digits * 10 ^ exponent`.  Powers of ten far outside the format are
settled by their size. -/
def ofDecimal (negative : Bool) (digits : Nat) (exponent : Int) : Binary64 :=
  if digits = 0 then zero negative
  else
    let size : Int := (Nat.toDigits 10 digits).length + exponent
    if 400 < size then .infinite negative
    else if size < -400 then zero negative
    else if 0 ≤ exponent then ofRatio negative (digits * tenPow exponent.toNat) 1
    else ofRatio negative digits (tenPow (-exponent).toNat)

/-- The number nearest to a whole number. -/
def ofInt (n : Int) : Binary64 := ofRatio (n < 0) n.natAbs 1

/-- The number nearest to a quotient. -/
def ofRat (q : Rat) : Binary64 := ofRatio (q < 0) q.num.natAbs q.den

/-- The exact value of a sign, a mantissa and an exponent. -/
def valueOf (negative : Bool) (m : Nat) (e : Int) : Rat :=
  let magnitude : Rat :=
    if 0 ≤ e then mkRat ((m * twoPow e.toNat : Nat) : Int) 1
    else mkRat (m : Int) (twoPow (-e).toNat)
  if negative then -magnitude else magnitude

/-- The exact value, if it is finite. -/
def toRat? : Binary64 → Option Rat
  | .finite negative m e _ => some (valueOf negative m e)
  | _ => none

/-- Whether the number is greater than zero. -/
def isPositive : Binary64 → Bool
  | .finite negative m _ _ => !negative && m != 0
  | .infinite negative => !negative
  | .nan => false

/-- Whether the number is at most another one; nothing is of what is not a number. -/
def isAtMost : Binary64 → Binary64 → Bool
  | .finite negative m e _, .finite negative' m' e' _ =>
    decide (valueOf negative m e ≤ valueOf negative' m' e')
  | .infinite negative, .infinite negative' => negative || !negative'
  | .infinite negative, .finite .. => negative
  | .finite .., .infinite negative => !negative
  | .nan, _ | _, .nan => false

/-- The whole part and what is left, `fraction / 2 ^ shift`, of the magnitude of a finite number. -/
def split (mantissa : Nat) (exponent : Int) : Nat × Nat × Nat :=
  if 0 ≤ exponent then (mantissa * twoPow exponent.toNat, 0, 0)
  else
    let shift := (-exponent).toNat
    (mantissa / twoPow shift, mantissa % twoPow shift, shift)

end Binary64

end Eligibility
