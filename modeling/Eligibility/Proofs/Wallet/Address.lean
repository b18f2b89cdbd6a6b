import Eligibility.Proofs.Text.Digit
import Eligibility.Wallet.Address
set_option autoImplicit false

/-!
# Wallet: addresses without letters

The check of an address is in the case of its letters, so an address of decimal
digits alone is checksummed whatever its digest is.
-/

namespace Eligibility.Wallet

theorem length_hash (message : List UInt8) : (Digest.Keccak.hash message).length = 32 := by
  have hbytes : ∀ w, (Digest.Keccak.bytesOf w).length = 8 := by simp [Digest.Keccak.bytesOf]
  simp [Digest.Keccak.hash, List.length_flatMap, hbytes, List.map_const']

theorem length_hexList (bytes : List UInt8) : (Text.hexList bytes).length = 2 * bytes.length := by
  induction bytes with
  | nil => rfl
  | cons b bytes ih =>
    have hcons : Text.hexList (b :: bytes) = Text.hexOfByte b ++ Text.hexList bytes := rfl
    rw [hcons, List.length_append, ih, List.length_cons]
    simp only [Text.hexOfByte, List.length_cons, List.length_nil]
    omega

/-- A decimal digit has one case, and is a hex digit. -/
theorem caseless_of_isDigit {c : Char} (h : c.isDigit = true) :
    c.toUpper = c ∧ c.toLower = c ∧ Text.isHexDigit c = true :=
  Text.of_isDigit (P := fun c => c.toUpper = c ∧ c.toLower = c ∧ Text.isHexDigit c = true)
    (by decide) h

theorem capitalise_of_digits {digits digest : List Char} (h : ∀ c ∈ digits, c.isDigit = true)
    (hlength : digits.length ≤ digest.length) : capitalise digits digest = digits := by
  induction digits generalizing digest with
  | nil => rfl
  | cons c digits ih =>
    cases digest with
    | nil => simp at hlength
    | cons d digest =>
      have hc := (caseless_of_isDigit (h c List.mem_cons_self)).1
      have hrest :=
        ih (fun k hk => h k (List.mem_cons_of_mem c hk)) (Nat.le_of_succ_le_succ hlength)
      rw [capitalise, hc, ite_self, hrest]

/-- Forty decimal digits are a checksummed address. -/
theorem isAddress_of_digits {digits : List Char} (hlength : digits.length = 40)
    (h : ∀ c ∈ digits, c.isDigit = true) :
    isAddress (String.ofList ('0' :: 'x' :: digits)) = true := by
  have hsmall : smallDigits digits = digits := by
    have hid : ∀ c ∈ digits, c.toLower = id c := fun c hc => (caseless_of_isDigit (h c hc)).2.1
    rw [smallDigits, List.map_congr_left hid, List.map_id]
  have hhex : digits.all Text.isHexDigit = true :=
    List.all_eq_true.mpr fun c hc => (caseless_of_isDigit (h c hc)).2.2
  have hcheck : checksumDigits digits = digits := by
    refine capitalise_of_digits h ?_
    rw [length_hexList, length_hash, hlength]
    decide
  simp only [isAddress, String.toList_ofList, hsmall, hcheck, hlength, hhex, beq_self_eq_true,
    Bool.and_self]

/-- The address of forty zeros. -/
theorem isAddress_zeros :
    isAddress (String.ofList ('0' :: 'x' :: List.replicate 40 '0')) = true := by
  refine isAddress_of_digits List.length_replicate ?_
  intro c hc
  rw [List.eq_of_mem_replicate hc]
  rfl

/-- The address of forty zeros. -/
def zeroAddress : String := String.ofList ('0' :: 'x' :: List.replicate 40 '0')

theorem isAddress_zeroAddress : isAddress zeroAddress = true := isAddress_zeros

end Eligibility.Wallet
