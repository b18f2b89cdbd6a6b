import Eligibility.Decimal.Binary64
set_option autoImplicit false

/-!
# Signing: the clock of a cache

The clock of a cache shows seconds, as a number of the format binary64.  It need not
show the time of day, need not start at zero, and may be set back; but what it shows
is a number, neither infinite nor without value.  The time between two readings is
their difference rounded to the format, and infinite if the format has no room for it.
-/

namespace Eligibility.Signing

/-- What a clock shows. -/
structure Reading where
  negative : Bool
  mantissa : Nat
  exponent : Int
  inFormat : Binary64.InFormat mantissa exponent
  deriving Repr

namespace Reading

/-- A whole number of seconds. -/
def ofNat (n : Nat) (h : Binary64.InFormat n 0 := by decide) : Reading := ⟨false, n, 0, h⟩

/-- The reading that is a number, if that is finite. -/
def ofNumber? : Binary64 → Option Reading
  | .finite negative mantissa exponent h => some ⟨negative, mantissa, exponent, h⟩
  | _ => none

/-- The exact number of seconds. -/
def value (r : Reading) : Rat := Binary64.valueOf r.negative r.mantissa r.exponent

/-- The time that has passed since an earlier reading. -/
def since (now earlier : Reading) : Binary64 := .ofRat (now.value - earlier.value)

end Reading

/-- Between 0.7 and 300.7, as the format has them, there are less than 300 seconds, but rounded
there are 300. -/
example :
    let earlier : Reading := ⟨false, 6305039478318694, -53, by decide⟩
    let now : Reading := ⟨false, 5289970343555891, -44, by decide⟩
    now.value - earlier.value < 300 ∧ now.since earlier = .ofInt 300 := by decide +kernel

end Eligibility.Signing
