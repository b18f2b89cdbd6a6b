set_option autoImplicit false

/-!
# Digest: bytes, words and blocks

The hash functions of this library read a list of bytes in blocks of a fixed
size and cut words out of each block.
-/

namespace Eligibility.Digest

/-- The next `count` blocks of `size` bytes. -/
def blocks (size : Nat) : (count : Nat) → List UInt8 → List (List UInt8)
  | 0, _ => []
  | count + 1, bs => bs.take size :: blocks size count (bs.drop size)

/-- The number whose digits in base 256 are the bytes, the first one weighing most. -/
def ofBytes (bs : List UInt8) : Nat := bs.foldl (fun n b => n * 256 + b.toNat) 0

/-- The last `size` digits of a number in base 256, the first one weighing most. -/
def toBytes : (size n : Nat) → List UInt8
  | 0, _ => []
  | size + 1, n => toBytes size (n / 256) ++ [UInt8.ofNat n]

theorem length_toBytes (size n : Nat) : (toBytes size n).length = size := by
  induction size generalizing n with
  | zero => rfl
  | succ size ih => simp [toBytes, ih]

theorem ofBytes_append (a : List UInt8) (b : UInt8) :
    ofBytes (a ++ [b]) = ofBytes a * 256 + b.toNat := by
  simp [ofBytes]

/-- The bytes of a number that fits in them give the number back. -/
theorem ofBytes_toBytes {size n : Nat} (h : n < Nat.pow 256 size) :
    ofBytes (toBytes size n) = n := by
  induction size generalizing n with
  | zero => simp at h; simp [toBytes, ofBytes, h]
  | succ size ih =>
    have hd : n / 256 < Nat.pow 256 size := by
      rw [Nat.div_lt_iff_lt_mul (by decide)]
      exact h
    rw [toBytes, ofBytes_append, ih hd, UInt8.toNat_ofNat']
    omega

end Eligibility.Digest
