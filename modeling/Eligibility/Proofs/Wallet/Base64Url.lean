import Eligibility.Wallet.Base64Url
import Mathlib.Data.List.DropRight
set_option autoImplicit false

/-!
# Wallet: base64url, there and back

What is written is digits behind which the padding stands that their number asks for.
Taking the padding off loses nothing, since the number of the digits that are left tells
how much of it there was, and the bytes are read back from the digits three at a time.
-/

namespace Eligibility.Wallet.Base64Url

theorem value?_digit {n : Nat} (h : n < 64) : value? (digit n) = some n := by
  have hall : ∀ n : Fin 64, value? (digit n.val) = some n.val := by
    decide +kernel
  exact hall ⟨n, h⟩

theorem digit_mem (n : Nat) : digit n ∈ alphabet := by
  rw [digit, List.getD_eq_getElem?_getD]
  cases hdigit : alphabet[n]? with
  | none => decide
  | some c => exact List.mem_of_getElem? hdigit

theorem pad_not_mem_alphabet : '=' ∉ alphabet := by decide

theorem digit_ne_pad (n : Nat) : digit n ≠ '=' := by
  intro heq
  exact pad_not_mem_alphabet (heq ▸ digit_mem n)

/-! ## Digits and their padding -/

theorem padded_group (a b c d : Char) (cs : List Char) :
    padded (a :: b :: c :: d :: cs) = a :: b :: c :: d :: padded cs := by
  have hlength : (a :: b :: c :: d :: cs).length % 4 = cs.length % 4 := by
    rw [List.length_cons, List.length_cons, List.length_cons, List.length_cons]
    omega
  rw [padded, hlength]
  rfl

/-- What is written is digits and the padding that they ask for. -/
theorem exists_digits (bytes : List UInt8) :
    ∃ digits ⊆ alphabet, encodePadded bytes = padded digits := by
  fun_induction encodePadded bytes with
  | case1 => exact ⟨[], List.nil_subset _, rfl⟩
  | case2 a =>
    refine ⟨[digit (a.toNat / 4), digit (a.toNat % 4 * 16)], ?_, rfl⟩
    simp only [List.cons_subset, digit_mem, List.nil_subset, and_self]
  | case3 a b =>
    refine ⟨[digit (a.toNat / 4), digit (a.toNat % 4 * 16 + b.toNat / 16),
      digit (b.toNat % 16 * 4)], ?_, rfl⟩
    simp only [List.cons_subset, digit_mem, List.nil_subset, and_self]
  | case4 a b c rest ih =>
    obtain ⟨digits, hdigits, hrest⟩ := ih
    refine ⟨_, ?_, by rw [hrest, ← padded_group]⟩
    simp only [List.cons_subset, digit_mem, hdigits, and_self]

/-- Taking off the padding of digits leaves the digits. -/
theorem rdropWhile_padded {digits : List Char} (h : '=' ∉ digits) :
    (padded digits).rdropWhile (· == '=') = digits := by
  have hdigits : digits.rdropWhile (· == '=') = digits := by
    rw [List.rdropWhile_eq_self_iff]
    intro hne hlast
    exact h (beq_iff_eq.mp hlast ▸ List.getLast_mem hne)
  rw [padded]
  generalize (4 - digits.length % 4) % 4 = count
  induction count with
  | zero => rw [List.replicate_zero, List.append_nil, hdigits]
  | succ count ih =>
    rw [List.replicate_succ', ← List.append_assoc, List.rdropWhile_concat_pos _ _ _ (by simp), ih]

/-- A text of digits is what is written, without its padding. -/
theorem encode_spec (bytes : List UInt8) :
    (encode bytes).toList ⊆ alphabet ∧ encodePadded bytes = padded (encode bytes).toList := by
  obtain ⟨digits, hdigits, hpadded⟩ := exists_digits bytes
  have hencode : (encode bytes).toList = digits := by
    rw [encode, Text.dropTrailing, String.toList_ofList, String.toList_ofList, hpadded]
    exact rdropWhile_padded fun hpad => pad_not_mem_alphabet (hdigits hpad)
  rw [hencode]
  exact ⟨hdigits, hpadded⟩

/-- There is no padding in a text of digits. -/
theorem pad_not_mem_encode (bytes : List UInt8) : '=' ∉ (encode bytes).toList :=
  fun hpad => pad_not_mem_alphabet ((encode_spec bytes).1 hpad)

/-! ## Reading the digits -/

theorem decodeFrom_digit {n : Nat} (h : n < 64) (place : Place) (cs : List Char) :
    decodeFrom place (digit n :: cs) =
      (decodeFrom (place.next n).2 cs).map ((place.next n).1 ++ ·) := by
  have hpad : (digit n == '=') = false := beq_false_of_ne (digit_ne_pad n)
  rw [decodeFrom, hpad, value?_digit h]
  rfl

/-- Padding ends a group that has two digits at least. -/
theorem decodeFrom_padding_two (bits : Nat) : decodeFrom ⟨2, bits, 0⟩ ['=', '='] = some [] := rfl

theorem decodeFrom_padding_one (bits : Nat) : decodeFrom ⟨3, bits, 0⟩ ['='] = some [] := rfl

/-- Four digits are three bytes, and reading starts afresh behind them. -/
theorem decodeFrom_group {a b c d : Nat} (ha : a < 64) (hb : b < 64) (hc : c < 64) (hd : d < 64)
    (cs : List Char) :
    decodeFrom {} (digit a :: digit b :: digit c :: digit d :: cs) =
      (decodeFrom {} cs).map ([UInt8.ofNat (a * 4 + b / 16), UInt8.ofNat (b % 16 * 16 + c / 4),
        UInt8.ofNat (c % 4 * 64 + d)] ++ ·) := by
  simp only [decodeFrom_digit, ha, hb, hc, hd, Place.next, Option.map_map, List.nil_append]
  rfl

theorem decodeFrom_encodePadded (bytes : List UInt8) :
    decodeFrom {} (encodePadded bytes) = some bytes := by
  fun_induction encodePadded bytes with
  | case1 => rfl
  | case2 a =>
    have ha := a.toNat_lt
    have hbyte : a.toNat / 4 * 4 + a.toNat % 4 * 16 / 16 = a.toNat := by omega
    rw [decodeFrom_digit (by omega), decodeFrom_digit (by omega)]
    simp only [Place.next, decodeFrom_padding_two, hbyte, UInt8.ofNat_toNat, Option.map_some,
      List.nil_append, List.append_nil]
  | case3 a b =>
    have ha := a.toNat_lt
    have hb := b.toNat_lt
    have hfirst : a.toNat / 4 * 4 + (a.toNat % 4 * 16 + b.toNat / 16) / 16 = a.toNat := by omega
    have hsecond :
        (a.toNat % 4 * 16 + b.toNat / 16) % 16 * 16 + b.toNat % 16 * 4 / 4 = b.toNat := by omega
    rw [decodeFrom_digit (by omega), decodeFrom_digit (by omega), decodeFrom_digit (by omega)]
    simp only [Place.next, decodeFrom_padding_one, hfirst, hsecond, UInt8.ofNat_toNat,
      Option.map_some, List.nil_append, List.cons_append]
  | case4 a b c rest ih =>
    have ha := a.toNat_lt
    have hb := b.toNat_lt
    have hc := c.toNat_lt
    have hfirst : a.toNat / 4 * 4 + (a.toNat % 4 * 16 + b.toNat / 16) / 16 = a.toNat := by omega
    have hsecond : (a.toNat % 4 * 16 + b.toNat / 16) % 16 * 16 +
        (b.toNat % 16 * 4 + c.toNat / 64) / 4 = b.toNat := by omega
    have hthird : (b.toNat % 16 * 4 + c.toNat / 64) % 4 * 64 + c.toNat % 64 = c.toNat := by omega
    rw [decodeFrom_group (by omega) (by omega) (by omega) (by omega), ih, hfirst, hsecond, hthird]
    simp only [UInt8.ofNat_toNat, Option.map_some, List.cons_append, List.nil_append]

/-- Reading gives back the bytes that were written. -/
theorem decode?_encode (bytes : List UInt8) : decode? (encode bytes) = some bytes := by
  rw [decode?, ← (encode_spec bytes).2]
  exact decodeFrom_encodePadded bytes

end Eligibility.Wallet.Base64Url
