import Eligibility.Text.Hex
import Eligibility.Text.Utf8
set_option autoImplicit false

/-!
# URIs: percent triplets

A percent sign with two hex digits stands for a byte.  A percent sign without
them stands for itself.
-/

namespace Eligibility.Uri

/-- The bytes of a text with its percent triplets decoded. -/
def decodePercent : List UInt8 → List UInt8
  | [] => []
  | 0x25 :: a :: b :: rest =>
    match Text.hexValue? (Char.ofNat a.toNat), Text.hexValue? (Char.ofNat b.toNat) with
    | some high, some low => UInt8.ofNat (high * 16 + low) :: decodePercent rest
    | _, _ => 0x25 :: decodePercent (a :: b :: rest)
  | c :: rest => c :: decodePercent rest

/-- The text with its percent triplets decoded. -/
def decodedText (s : String) : String := Text.ofUtf8Lossy (decodePercent (Text.utf8 s))

end Eligibility.Uri
