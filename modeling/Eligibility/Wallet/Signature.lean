import Eligibility.Digest.Sha256
import Eligibility.Wallet.Key
set_option autoImplicit false

/-!
# Wallet: signatures

A message is signed by ECDSA on the Keccak-256 digest of the message behind a
fixed lead and its length.  The number that must never be used twice is derived
from the key and the digest.  Of the two signatures with the same `r` the one
with the smaller `s` is taken, and a recovery byte says which point was used, so
the public key can be recovered from the signature.
-/

namespace Eligibility.Wallet

/-- The digest of a message that is signed. -/
def messageDigest (message : String) : List UInt8 :=
  let bytes := Text.utf8 message
  Digest.Keccak.hash
    (0x19 :: Text.utf8 ("Ethereum Signed Message:\n" ++ toString bytes.length) ++ bytes)

/-- The secret number of a signature, derived from a key and a digest. -/
def derivedNumber (key digest : List UInt8) : Nat :=
  let code := Digest.Sha256.keyed
  let v0 := List.replicate 32 0x01
  let k1 := code (List.replicate 32 0) (v0 ++ 0x00 :: key ++ digest)
  let v1 := code k1 v0
  let k2 := code k1 (v1 ++ 0x01 :: key ++ digest)
  let v2 := code k2 v1
  Digest.ofBytes (code k2 v2)

/-- A signature; `odd` tells the parity of the point that was used. -/
structure Signature where
  r : Nat
  s : Nat
  odd : Bool
  deriving DecidableEq, Repr

namespace Signature

/-- The number of bytes of a signature. -/
def length : Nat := 65

/-- The signature as text. -/
def text (g : Signature) : String :=
  "0x" ++ Text.hex (Digest.toBytes 32 g.r ++ Digest.toBytes 32 g.s ++ [if g.odd then 28 else 27])

/-- The parity that a recovery byte tells. -/
def parity? (v : Nat) : Option Bool :=
  if v = 0 ∨ v = 27 then some false
  else if v = 1 ∨ v = 28 then some true
  else if 35 ≤ v then some ((v - 35) % 2 == 1)
  else none

/-- The signature of bytes, if there are enough of them and the last one tells a parity. -/
def ofBytes? (bytes : List UInt8) : Option Signature :=
  if bytes.length = length then
    (parity? (Digest.ofBytes (bytes.drop 64))).map fun odd =>
      ⟨Digest.ofBytes (bytes.take 32), Digest.ofBytes ((bytes.drop 32).take 32), odd⟩
  else none

/-- The signature of a hex text, which may have a mark `0x` in front and blanks between its
bytes. -/
def read? (s : String) : Option Signature :=
  let digits := (Text.after? "0x" s).getD s
  (Text.unhexSpacedList digits.toList).bind ofBytes?

/-- The coordinates of the public key that a signature of a digest recovers, if it recovers one. -/
def recover? (g : Signature) (digest : List UInt8) : Option (Nat × Nat) :=
  if g.r = 0 ∨ g.s = 0 ∨ Curve.n ≤ g.r ∨ Curve.n ≤ g.s then none
  else do
    let point ← Curve.lift? g.r g.odd
    let z := Digest.ofBytes digest % Curve.n
    let sum := Curve.add (Curve.multiply g.s point)
      (Curve.multiply (Curve.subMod 0 z Curve.n) Curve.base)
    return (Curve.multiply (Curve.inverseMod g.r Curve.n) sum).coordinates

/-- The signature of the digest `z` by a secret, from the point that a number gives; the smaller
of the two `s` is taken. -/
def ofPoint (secret z number : Nat) : Curve.Point → Signature
  | .infinity => ⟨0, 0, false⟩
  | .affine r y =>
    let s := Curve.inverseMod number Curve.n * (z + r * secret) % Curve.n
    if 2 * s < Curve.n then ⟨r, s, y % 2 == 1⟩ else ⟨r, Curve.n - s, y % 2 != 1⟩

end Signature

/-- Why a signature cannot be checked. -/
inductive SignatureFault where
  /-- No public key has made it. -/
  | unrecoverable
  deriving DecidableEq, Repr

namespace Key

/-- The signature of a message. -/
def sign (k : Key) (message : String) : Signature :=
  let digest := messageDigest message
  let number := derivedNumber k.bytes digest
  .ofPoint k.secret (Digest.ofBytes digest) number (Curve.multiply number Curve.base)

/-- Whether a text is a signature of a message by this key. -/
def verify (k : Key) (message signature : String) : Except SignatureFault Bool :=
  match Signature.read? signature with
  | none => .ok false
  | some g =>
    match g.recover? (messageDigest message) with
    | none => .error .unrecoverable
    | some (x, y) => .ok (addressOfPoint x y == k.address)

end Key

end Eligibility.Wallet
