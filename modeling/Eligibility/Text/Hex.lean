set_option autoImplicit false

/-!
# Text: hexadecimal bytes

A byte is two hex digits.  Writing uses small letters; reading takes either case.
-/

namespace Eligibility.Text

/-- The value of a hex digit. -/
def hexValue? (c : Char) : Option Nat :=
  let n := c.toNat
  if 48 ≤ n && n ≤ 57 then some (n - 48)
  else if 65 ≤ n && n ≤ 70 then some (n - 55)
  else if 97 ≤ n && n ≤ 102 then some (n - 87)
  else none

/-- Whether the character is a hex digit. -/
def isHexDigit (c : Char) : Bool := (hexValue? c).isSome

/-- The two hex digits of a byte. -/
def hexOfByte (b : UInt8) : List Char :=
  [Nat.digitChar (b.toNat / 16), Nat.digitChar (b.toNat % 16)]

/-- The hex digits of the bytes. -/
def hexList (bs : List UInt8) : List Char := bs.flatMap hexOfByte

/-- The hex digits of the bytes. -/
def hex (bs : List UInt8) : String := String.ofList (hexList bs)

/-- The bytes written by an even number of hex digits. -/
def unhexList : List Char → Option (List UInt8)
  | [] => some []
  | [_] => none
  | a :: b :: rest => do
    let high ← hexValue? a
    let low ← hexValue? b
    let bytes ← unhexList rest
    return UInt8.ofNat (high * 16 + low) :: bytes

/-- The bytes written by pairs of hex digits, with ASCII blanks allowed between the pairs. -/
def unhexSpacedList : List Char → Option (List UInt8)
  | [] => some []
  | [c] => if isPairGap c then some [] else none
  | a :: b :: rest =>
    if isPairGap a then unhexSpacedList (b :: rest)
    else do
      let high ← hexValue? a
      let low ← hexValue? b
      let bytes ← unhexSpacedList rest
      return UInt8.ofNat (high * 16 + low) :: bytes
where
  /-- An ASCII blank. -/
  isPairGap (c : Char) : Bool := c.toNat == 32 || (9 ≤ c.toNat && c.toNat ≤ 13)

theorem hexValue?_digitChar {n : Nat} (h : n < 16) : hexValue? (Nat.digitChar n) = some n := by
  have : ∀ n : Fin 16, hexValue? (Nat.digitChar n.val) = some n.val := by decide
  exact this ⟨n, h⟩

/-- Reading gives back the bytes that were written. -/
theorem unhexList_hexList (bs : List UInt8) : unhexList (hexList bs) = some bs := by
  induction bs with
  | nil => rfl
  | cons b bs ih =>
    have hb : b.toNat < 256 := b.toNat_lt
    have hh := hexValue?_digitChar (n := b.toNat / 16) (by omega)
    have hl := hexValue?_digitChar (n := b.toNat % 16) (by omega)
    have hs : hexList (b :: bs) =
        Nat.digitChar (b.toNat / 16) :: Nat.digitChar (b.toNat % 16) :: hexList bs := rfl
    have hv : b.toNat / 16 * 16 + b.toNat % 16 = b.toNat := by omega
    rw [hs, unhexList, hh, hl, ih]
    show some (UInt8.ofNat (b.toNat / 16 * 16 + b.toNat % 16) :: bs) = _
    rw [hv, UInt8.ofNat_toNat]

end Eligibility.Text
