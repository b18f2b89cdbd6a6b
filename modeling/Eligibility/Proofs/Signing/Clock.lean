import Eligibility.Proofs.Decimal.Rounding
import Eligibility.Signing.Clock
set_option autoImplicit false

/-!
# Signing: the time between two readings

A time to live is compared with a rounded difference of two readings.  Rounding does
not carry the difference past a number of the format, so as long as the time to live
is not over, the exact difference is less than it as well; and it is not over while
the exact difference is at most some reading below it.  Where the exact difference is
itself a reading, as between whole numbers of seconds, the two say the same.
-/

namespace Eligibility.Signing

theorem Reading.value_ofNat (n : Nat) (h : Binary64.InFormat n 0) :
    (Reading.ofNat n h).value = n := by
  simp [value, ofNat, Binary64.valueOf_eq]

/-- A time to live that began at a reading is not over: less than it has passed.  What is not a
number is never over. -/
def Lives (ttl : Binary64) (now earlier : Reading) : Prop :=
  ttl ≠ .nan → (now.since earlier).IsLess ttl

section

variable {ttl : Binary64} {now earlier d : Reading}

theorem isAtMost_since_eq_false_iff :
    ttl.isAtMost (now.since earlier) = false ↔ Lives ttl now earlier := by
  by_cases h : ttl = .nan
  · simp [h, Lives, Binary64.isAtMost]
  · have hsince : now.since earlier ≠ .nan := Binary64.ofRat_ne_nan _
    rw [Binary64.isAtMost_eq_false_iff h hsince]
    simp [Lives, h]

theorem isAbove_of_since_isLess (h : (now.since earlier).IsLess ttl) :
    ttl.IsAbove (now.value - earlier.value) :=
  Binary64.isAbove_of_ofRat_isLess h

theorem since_isLess_of_le (hle : now.value - earlier.value ≤ d.value) (h : ttl.IsAbove d.value) :
    (now.since earlier).IsLess ttl :=
  Binary64.ofRat_isLess_of_le d.inFormat hle h

theorem Lives.isAbove (h : Lives ttl now earlier) (hnumber : ttl ≠ .nan) :
    ttl.IsAbove (now.value - earlier.value) :=
  isAbove_of_since_isLess (h hnumber)

/-- The time between whole numbers of seconds is exact. -/
theorem lives_of_whole {n m k : Nat} (hn : Binary64.InFormat n 0) (hm : Binary64.InFormat m 0)
    (hk : Binary64.InFormat k 0) (hle : n ≤ m + k) (h : ttl.IsAbove k) :
    Lives ttl (.ofNat n hn) (.ofNat m hm) := by
  intro _
  rw [← Reading.value_ofNat k hk] at h
  refine since_isLess_of_le ?_ h
  rw [Reading.value_ofNat, Reading.value_ofNat, Reading.value_ofNat, sub_le_iff_le_add']
  exact_mod_cast hle

end

end Eligibility.Signing
