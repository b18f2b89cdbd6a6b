import Eligibility.Text.Blank
set_option autoImplicit false

/-!
# Wallet: base64url

Three bytes are four digits of six bits, and padding fills up the last four.
A text of digits goes without its padding, which is taken off when it is written
and put back before it is read.  Reading is lenient: it takes the digits of both
alphabets, steps over every character that is no digit, and stops where padding
completes four digits.
-/

namespace Eligibility.Wallet.Base64Url

/-- The digits in order. -/
def alphabet : List Char :=
  "ABCDEFGHIJKLMNOPQRSTUVWXYZabcdefghijklmnopqrstuvwxyz0123456789-_".toList

/-- The digit of six bits. -/
def digit (n : Nat) : Char := alphabet.getD n 'A'

/-- The digits of bytes, with padding that completes the last four characters. -/
def encodePadded : List UInt8 → List Char
  | [] => []
  | [a] => [digit (a.toNat / 4), digit (a.toNat % 4 * 16), '=', '=']
  | [a, b] =>
    [digit (a.toNat / 4), digit (a.toNat % 4 * 16 + b.toNat / 16), digit (b.toNat % 16 * 4), '=']
  | a :: b :: c :: rest =>
    digit (a.toNat / 4) :: digit (a.toNat % 4 * 16 + b.toNat / 16) ::
      digit (b.toNat % 16 * 4 + c.toNat / 64) :: digit (c.toNat % 64) :: encodePadded rest

/-- The digits of bytes, without padding. -/
def encode (bytes : List UInt8) : String :=
  Text.dropTrailing '=' (String.ofList (encodePadded bytes))

/-- The six bits of a digit. -/
def value? (c : Char) : Option Nat :=
  let n := c.toNat
  if 65 ≤ n && n ≤ 90 then some (n - 65)
  else if 97 ≤ n && n ≤ 122 then some (n - 71)
  else if 48 ≤ n && n ≤ 57 then some (n + 4)
  else if c == '-' || c == '+' then some 62
  else if c == '_' || c == '/' then some 63
  else none

/-- Where a reader stands in a group of four digits: how many it has, the bits of the last one that
are not yet in a byte, and how many padding characters came since. -/
structure Place where
  count : Nat := 0
  bits : Nat := 0
  pads : Nat := 0

/-- The byte that a digit completes, if it completes one, and the place after it. -/
def Place.next (place : Place) (v : Nat) : List UInt8 × Place :=
  match place.count with
  | 0 => ([], ⟨1, v, 0⟩)
  | 1 => ([UInt8.ofNat (place.bits * 4 + v / 16)], ⟨2, v % 16, 0⟩)
  | 2 => ([UInt8.ofNat (place.bits * 16 + v / 4)], ⟨3, v % 4, 0⟩)
  | _ => ([UInt8.ofNat (place.bits * 64 + v)], ⟨0, 0, 0⟩)

/-- The bytes of digits from a place on; none if the digits end inside a group. -/
def decodeFrom (place : Place) : List Char → Option (List UInt8)
  | [] => if place.count = 0 then some [] else none
  | c :: cs =>
    if c == '=' then
      if 2 ≤ place.count && 4 ≤ place.count + place.pads + 1 then some []
      else
        let pads := if 2 ≤ place.count then place.pads + 1 else place.pads
        decodeFrom { place with pads := pads } cs
    else match value? c with
      | none => decodeFrom place cs
      | some v =>
        let (bytes, place) := place.next v
        (decodeFrom place cs).map (bytes ++ ·)

/-- The digits with the padding that completes the last four characters. -/
def padded (cs : List Char) : List Char := cs ++ List.replicate ((4 - cs.length % 4) % 4) '='

/-- The bytes of a text of digits. -/
def decode? (s : String) : Option (List UInt8) := decodeFrom {} (padded s.toList)

end Eligibility.Wallet.Base64Url
