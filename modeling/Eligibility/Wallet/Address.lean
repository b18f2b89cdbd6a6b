import Eligibility.Digest.Keccak
import Eligibility.Text.Hex
import Eligibility.Text.Split
import Eligibility.Text.Utf8
set_option autoImplicit false

/-!
# Wallet: addresses

An address is `0x` and forty hex digits.  In its checksummed form the letters
carry a check of their own: a letter is a capital exactly if the digit at its
place in the Keccak-256 digest of the small digits is 8 or more.
-/

namespace Eligibility.Wallet

/-- The digits in capitals where the digits of the digest beside them say so. -/
def capitalise : (digits digest : List Char) → List Char
  | c :: cs, d :: ds => (if '8' ≤ d then c.toUpper else c) :: capitalise cs ds
  | _, _ => []

/-- The digits of an address, given in small letters, with the letters that the check asks for. -/
def checksumDigits (digits : List Char) : List Char :=
  capitalise digits (Text.hexList (Digest.Keccak.hash (Text.utf8 (String.ofList digits))))

/-- The checksummed address of twenty bytes. -/
def addressOfBytes (bytes : List UInt8) : String :=
  String.ofList ('0' :: 'x' :: checksumDigits (Text.hexList bytes))

/-- The small letter of an ASCII capital. -/
def smallDigits (cs : List Char) : List Char := cs.map Char.toLower

/-- Whether a text is an address in its checksummed form. -/
def isAddress (s : String) : Bool :=
  match s.toList with
  | '0' :: 'x' :: digits =>
    digits.length == 40 && digits.all Text.isHexDigit &&
      digits == checksumDigits (smallDigits digits)
  | _ => false

/-- The address of a public key with the coordinates `x` and `y`. -/
def addressOfPoint (x y : Nat) : String :=
  addressOfBytes ((Digest.Keccak.hash (Digest.toBytes 32 x ++ Digest.toBytes 32 y)).drop 12)

end Eligibility.Wallet
