import Eligibility.Digest.Blocks
set_option autoImplicit false

/-!
# Digest: Keccak-256

The sponge over the permutation Keccak-f[1600] with a rate of 136 bytes and the
padding in which a single bit follows the message.
-/

namespace Eligibility.Digest.Keccak

/-- Twenty-five lanes of 64 bits; the lane in column `x` and row `y` stands at `x + 5 * y`. -/
abbrev State : Type := Vector UInt64 25

/-- The number of bytes that a block takes. -/
def rate : Nat := 136

/-- The lane in a column and a row, each taken modulo five. -/
def lane (s : State) (x y : Nat) : UInt64 :=
  have hx := Nat.mod_lt x (show 0 < 5 by decide)
  have hy := Nat.mod_lt y (show 0 < 5 by decide)
  s.get ⟨x % 5 + 5 * (y % 5), by omega⟩

/-- The state whose lane in a column and a row is given. -/
def build (f : Nat → Nat → UInt64) : State := Vector.ofFn fun i => f (i.val % 5) (i.val / 5)

/-- The word turned left by `n` bits. -/
def rotate (w : UInt64) (n : UInt64) : UInt64 :=
  if n == 0 then w else (w <<< n) ||| (w >>> (64 - n))

/-- How far each lane is turned. -/
def offsets : State :=
  #v[0, 1, 62, 28, 27,
     36, 44, 6, 55, 20,
     3, 10, 43, 25, 39,
     41, 45, 15, 21, 8,
     18, 2, 61, 56, 14]

/-- What each round adds to the first lane. -/
def roundConstants : List UInt64 :=
  [0x0000000000000001, 0x0000000000008082, 0x800000000000808A, 0x8000000080008000,
   0x000000000000808B, 0x0000000080000001, 0x8000000080008081, 0x8000000000008009,
   0x000000000000008A, 0x0000000000000088, 0x0000000080008009, 0x000000008000000A,
   0x000000008000808B, 0x800000000000008B, 0x8000000000008089, 0x8000000000008003,
   0x8000000000008002, 0x8000000000000080, 0x000000000000800A, 0x800000008000000A,
   0x8000000080008081, 0x8000000000008080, 0x0000000080000001, 0x8000000080008008]

/-- The sum of each column. -/
def columns (s : State) : Vector UInt64 5 := Vector.ofFn fun i =>
  lane s i.val 0 ^^^ lane s i.val 1 ^^^ lane s i.val 2 ^^^ lane s i.val 3 ^^^ lane s i.val 4

/-- The sum of a column, taken modulo five. -/
def column (c : Vector UInt64 5) (x : Nat) : UInt64 := c.get ⟨x % 5, Nat.mod_lt x (by decide)⟩

/-- Add to each lane the columns beside it. -/
def mixColumns (s : State) : State :=
  let c := columns s
  build fun x y => lane s x y ^^^ column c (x + 4) ^^^ rotate (column c (x + 1)) 1

/-- Turn each lane and move it to its new place. -/
def moveLanes (s : State) : State :=
  build fun x y =>
    let column := x + 3 * y
    rotate (lane s column x) (lane offsets column x)

/-- Combine each lane with the next two of its row. -/
def mixRows (s : State) : State :=
  build fun x y => lane s x y ^^^ (~~~(lane s (x + 1) y) &&& lane s (x + 2) y)

/-- One round. -/
def round (s : State) (constant : UInt64) : State :=
  let t := mixRows (moveLanes (mixColumns s))
  t.set 0 (t[0] ^^^ constant)

/-- The permutation. -/
def permute (s : State) : State := roundConstants.foldl round s

/-- The word whose first byte weighs least. -/
def wordOf (bs : List UInt8) : UInt64 := bs.foldr (fun b w => (w <<< 8) ||| b.toUInt64) 0

/-- The eight bytes of a word, the first one weighing least. -/
def bytesOf (w : UInt64) : List UInt8 :=
  (List.range 8).map fun i => (w >>> (8 * i.toUInt64)).toUInt8

/-- Take a block into the state. -/
def absorb (s : State) (block : List UInt8) : State :=
  let words := (blocks 8 (rate / 8) block).map wordOf
  permute (build fun x y => lane s x y ^^^ words.getD (x + 5 * y) 0)

/-- What follows a message of a given length up to the end of its last block. -/
def padding (length : Nat) : List UInt8 :=
  let n := rate - length % rate
  if n = 1 then [0x81] else 0x01 :: List.replicate (n - 2) 0 ++ [0x80]

/-- The 32 bytes of the digest of a message. -/
def hash (message : List UInt8) : List UInt8 :=
  let padded := message ++ padding message.length
  let final := (blocks rate (padded.length / rate) padded).foldl absorb (Vector.replicate 25 0)
  (final.toList.take 4).flatMap bytesOf

end Eligibility.Digest.Keccak
