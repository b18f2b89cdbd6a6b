import Eligibility.Decimal.Power
set_option autoImplicit false

/-!
# Curve: secp256k1

The elliptic curve `y² = x³ + 7` over the integers modulo a prime `p`, with a
base point of prime order `n`.  A point is kept by its coordinates, and points
are added by the chord and tangent rule.
-/

namespace Eligibility.Curve

/-- The prime of the field of coordinates. -/
def p : Nat := twoPow 256 - twoPow 32 - 977

/-- The order of the base point. -/
def n : Nat := 0xfffffffffffffffffffffffffffffffebaaedce6af48a03bbfd25e8cd0364141

/-- A point of the curve. -/
inductive Point where
  /-- The neutral element. -/
  | infinity
  | affine (x y : Nat)
  deriving DecidableEq, Repr

/-- The coordinates of a point; those of the neutral element are written as zeros. -/
def Point.coordinates : Point → Nat × Nat
  | .infinity => (0, 0)
  | .affine x y => (x, y)

/-- The base point. -/
def base : Point :=
  .affine 0x79be667ef9dcbbac55a06295ce870b07029bfcdb2dce28d959f2815b16f81798
    0x483ada7726a3c4655da4fbfc0e1108a8fd17b448a68554199c47d08ffb10d4b8

/-- The power of `b` with exponent `e`, modulo `m`. -/
def powMod (b e m : Nat) : Nat :=
  if e = 0 then 1 % m
  else
    let half := powMod (b * b % m) (e / 2) m
    if e % 2 = 1 then half * b % m else half
termination_by e
decreasing_by omega

/-- The Euclidean algorithm on `r` and `r'`, carrying along the factor of each. -/
def euclid (r r' : Nat) (t t' : Int) : Int :=
  if r' = 0 then t else euclid r' (r % r') t' (t - (r / r' : Nat) * t')
termination_by r'
decreasing_by exact Nat.mod_lt r (by omega)

/-- The inverse modulo `m` of a number prime to it. -/
def inverseMod (a m : Nat) : Nat := (euclid m (a % m) 0 1 % (m : Int)).toNat

/-- The difference modulo `m` of two numbers below it. -/
def subMod (a b m : Nat) : Nat := (a + (m - b)) % m

/-- The third point of the line through `(x, y)` with a slope, reflected; `x'` is the coordinate of
the second point. -/
def onLine (slope x y x' : Nat) : Point :=
  let third := subMod (subMod (slope * slope % p) x p) x' p
  .affine third (subMod (slope * subMod x third p % p) y p)

/-- The sum of a point with itself. -/
def double : Point → Point
  | .infinity => .infinity
  | .affine x y =>
    if y = 0 then .infinity
    else onLine (3 * x * x * inverseMod (2 * y % p) p % p) x y x

/-- The sum of two points. -/
def add : Point → Point → Point
  | .infinity, q => q
  | q, .infinity => q
  | .affine x y, .affine x' y' =>
    if x = x' then if y = y' then double (.affine x y) else .infinity
    else onLine (subMod y' y p * inverseMod (subMod x' x p) p % p) x y x'

/-- The sum of `k` copies of a point. -/
def multiply (k : Nat) (q : Point) : Point :=
  if k = 0 then .infinity
  else
    let twice := multiply (k / 2) (double q)
    if k % 2 = 1 then add twice q else twice
termination_by k
decreasing_by omega

/-- The point with a coordinate `x` and a coordinate `y` of the given parity, if there is one. -/
def lift? (x : Nat) (odd : Bool) : Option Point :=
  let square := (x * x * x + 7) % p
  let root := powMod square ((p + 1) / 4) p
  if root * root % p = square then
    some (.affine x (if (root % 2 == 1) == odd then root else subMod 0 root p))
  else none

end Eligibility.Curve
