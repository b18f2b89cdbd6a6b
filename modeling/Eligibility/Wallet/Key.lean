import Eligibility.Curve.Secp256k1
import Eligibility.Json.Basic
import Eligibility.Text.Quoted
import Eligibility.Wallet.Address
import Eligibility.Wallet.Base64Url
set_option autoImplicit false

/-!
# Wallet: keys

A key is a secret number below the order of the curve and an identifier.  It is
read from 32 bytes written in hex, or from a JSON Web Key, and written as one.
-/

namespace Eligibility.Wallet

/-- A private key with its identifier. -/
structure Key where
  secret : Nat
  id : String
  positive : 0 < secret
  below : secret < Curve.n
  deriving DecidableEq, Repr

/-- Why something is no key. -/
inductive KeyFault where
  /-- The text is no hex, or the digits of a web key are not complete. -/
  | notBytes
  /-- The digits of a web key hold characters outside ASCII. -/
  | notAscii
  /-- The hex text holds characters outside ASCII, the first run of them at a place. -/
  | notAsciiHex (place : Nat) (run : List Char)
  /-- The bytes, so many of them, are no key. -/
  | notKey (length : Nat)
  /-- A web key that is no object. -/
  | notObject
  /-- A web key of another kind. -/
  | otherKind
  /-- A web key without its secret. -/
  | noSecret
  /-- A web key whose secret is no text. -/
  | secretNotText
  deriving DecidableEq, Repr

/-- A character by its code point. -/
def codePointText (c : Char) : String :=
  let n := c.toNat
  String.ofList <|
    if n < 0x100 then '\\' :: 'x' :: Text.hexPadded 2 n
    else if n < 0x10000 then '\\' :: 'u' :: Text.hexPadded 4 n
    else '\\' :: 'U' :: Text.hexPadded 8 n

/-- The characters of a run that starts at a place. -/
def runText (place : Nat) : List Char → String
  | [c] => "character '" ++ codePointText c ++ "' in position " ++ toString place
  | cs =>
    "characters in position " ++ toString place ++ "-" ++ toString (place + cs.length - 1)

/-- The wording of a fault; that of one in the encoding or in the type of a value is left open. -/
def KeyFault.message : KeyFault → String
  | .notBytes | .notObject | .secretNotText => ""
  | .notAscii => "string argument should contain only ASCII characters"
  | .notAsciiHex place run =>
    "'ascii' codec can't encode " ++ runText place run ++ ": ordinal not in range(128)"
  | .notKey length =>
    "The private key must be exactly 32 bytes long, instead of " ++ toString length ++ " bytes."
  | .otherKind => "Unsupported JWK parameters"
  | .noSecret => "JWK does not contain private key material"

/-- The digits of a hex text: a mark `0x` may stand in front, and a text of odd length gets a
zero. -/
def hexDigits (s : String) : List Char :=
  let cs := s.toList
  let digits := match cs with
    | '0' :: 'x' :: rest => rest
    | '0' :: 'X' :: rest => rest
    | rest => rest
  if cs.length % 2 = 1 then '0' :: digits else digits

/-- Whether a character lies outside ASCII. -/
def isForeign (c : Char) : Bool := 0x80 ≤ c.toNat

/-- The bytes of a hex text. -/
def hexBytes (s : String) : Except KeyFault (List UInt8) :=
  let digits := hexDigits s
  match digits.dropWhile fun c => !isForeign c with
  | [] =>
    match Text.unhexList digits with
    | some bytes => .ok bytes
    | none => .error .notBytes
  | rest => .error (.notAsciiHex (digits.length - rest.length) (rest.takeWhile isForeign))

namespace Key

/-- The key of 32 bytes. -/
def ofBytes (bytes : List UInt8) (id : String) : Except KeyFault Key :=
  let secret := Digest.ofBytes bytes
  if h : bytes.length = 32 ∧ 0 < secret ∧ secret < Curve.n then
    .ok ⟨secret, id, h.2.1, h.2.2⟩
  else .error (.notKey bytes.length)

/-- The key of a hex text. -/
def ofHex (s id : String) : Except KeyFault Key := do
  let bytes ← hexBytes s
  ofBytes bytes id

/-- The key that a number chooses; every secret is chosen by the number below it. -/
def ofChoice (number : Nat) (id : String) : Key where
  secret := number % (Curve.n - 1) + 1
  id := id
  positive := Nat.succ_pos _
  below := by
    have : 1 < Curve.n := by decide
    have := Nat.mod_lt number (show 0 < Curve.n - 1 by omega)
    omega

/-- The 32 bytes of a key. -/
def bytes (k : Key) : List UInt8 := Digest.toBytes 32 k.secret

/-- The coordinates of the public key. -/
def point (k : Key) : Nat × Nat := (Curve.multiply k.secret Curve.base).coordinates

/-- The address of a key. -/
def address (k : Key) : String := addressOfPoint k.point.1 k.point.2

/-! ## Web keys -/

/-- The digits of a coordinate or a secret. -/
def digits (value : Nat) : Json := .text (Base64Url.encode (Digest.toBytes 32 value))

/-- The members of a web key that anyone may know. -/
def publicMembers (k : Key) : Mapping Json :=
  [("kty", .text "EC"), ("crv", .text "secp256k1"), ("kid", .text k.id),
    ("x", digits k.point.1), ("y", digits k.point.2)]

/-- The web key without the secret. -/
def publicJwk (k : Key) : Json := .object k.publicMembers

/-- The web key with the secret. -/
def privateJwk (k : Key) : Json := .object (k.publicMembers ++ [("d", digits k.secret)])

/-- The identifier that a caller gives, or a fresh one. -/
def idOr (fresh : String) (given : Json) : String :=
  match given with
  | .text s => if s.isEmpty then fresh else s
  | _ => fresh

/-- The key of a web key with its secret, whose bytes are read as a key in hex. -/
def ofJwk (fresh : String) (jwk : Json) : Except KeyFault Key :=
  if !jwk.isObject then .error .notObject
  else if (jwk.get "kty").text? != some "EC" || (jwk.get "crv").text? != some "secp256k1" then
    .error .otherKind
  else match jwk.get? "d" with
    | none => .error .noSecret
    | some (.text text) =>
      if text.toList.any isForeign then .error .notAscii
      else match Base64Url.decode? text with
        | none => .error .notBytes
        | some bytes => ofHex ("0x" ++ Text.hex bytes) (idOr fresh (jwk.get "kid"))
    | some _ => .error .secretNotText

end Key

end Eligibility.Wallet
