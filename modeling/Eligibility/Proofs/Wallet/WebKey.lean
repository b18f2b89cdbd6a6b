import Eligibility.Proofs.Outcome
import Eligibility.Proofs.Wallet.Address
import Eligibility.Proofs.Wallet.Base64Url
import Eligibility.Wallet.Key
set_option autoImplicit false

/-!
# Wallet: a key written and read

A key that is written as a web key with its secret is read back as it was.  Its secret is
written as 32 bytes, leading zeros included, goes through the digits of base64url and from
there through those of hex, and no byte is lost on the way.
-/

namespace Eligibility.Wallet

/-! ## Bytes in hex -/

theorem not_isForeign_digitChar {n : Nat} (h : n < 16) : isForeign (Nat.digitChar n) = false := by
  have hall : ∀ n : Fin 16, isForeign (Nat.digitChar n.val) = false := by decide
  exact hall ⟨n, h⟩

theorem not_isForeign_of_mem_hexList {bytes : List UInt8} {c : Char}
    (h : c ∈ Text.hexList bytes) : isForeign c = false := by
  obtain ⟨b, -, hc⟩ := List.mem_flatMap.mp h
  have hb := b.toNat_lt
  simp only [Text.hexOfByte, List.mem_cons, List.not_mem_nil, or_false] at hc
  rcases hc with rfl | rfl
  · exact not_isForeign_digitChar (by omega)
  · exact not_isForeign_digitChar (by omega)

/-- The digits of bytes stand in pairs, so none is put in front of them. -/
theorem hexDigits_hex (bytes : List UInt8) :
    hexDigits ("0x" ++ Text.hex bytes) = Text.hexList bytes := by
  have hchars : ("0x" ++ Text.hex bytes).toList = '0' :: 'x' :: Text.hexList bytes := by
    simp [Text.hex]
  have heven : ('0' :: 'x' :: Text.hexList bytes).length % 2 ≠ 1 := by
    rw [List.length_cons, List.length_cons, length_hexList]
    omega
  rw [hexDigits, hchars]
  exact if_neg heven

/-- A text of hex digits is read as the bytes that it was written for. -/
theorem hexBytes_hex (bytes : List UInt8) : hexBytes ("0x" ++ Text.hex bytes) = .ok bytes := by
  have hascii : (Text.hexList bytes).dropWhile (fun c => !isForeign c) = [] := by
    rw [List.dropWhile_eq_nil_iff]
    intro c hc
    rw [not_isForeign_of_mem_hexList hc]
    rfl
  rw [hexBytes, hexDigits_hex]
  simp only [hascii, Text.unhexList_hexList]

/-! ## Web keys -/

namespace Key

variable (k : Key)

theorem length_bytes : k.bytes.length = 32 := Digest.length_toBytes 32 k.secret

theorem secret_bytes : Digest.ofBytes k.bytes = k.secret := by
  have horder : Curve.n < Nat.pow 256 32 := by decide
  exact Digest.ofBytes_toBytes (Nat.lt_trans k.below horder)

/-- The bytes of a key make the key again. -/
theorem ofBytes_bytes (id : String) : ofBytes k.bytes id = .ok { k with id := id } := by
  have hkey : k.bytes.length = 32 ∧ 0 < Digest.ofBytes k.bytes ∧
      Digest.ofBytes k.bytes < Curve.n := by
    rw [secret_bytes]
    exact ⟨k.length_bytes, k.positive, k.below⟩
  unfold ofBytes
  rw [dif_pos hkey]
  simp only [secret_bytes]

theorem ofHex_bytes (id : String) :
    ofHex ("0x" ++ Text.hex k.bytes) id = .ok { k with id := id } :=
  Outcome.bind_eq_ok.mpr ⟨k.bytes, hexBytes_hex k.bytes, k.ofBytes_bytes id⟩

theorem idOr_text {id : String} (h : id ≠ "") (fresh : String) : idOr fresh (.text id) = id := by
  have hempty : id.isEmpty = false := by
    rw [Bool.eq_false_iff, ne_eq, String.isEmpty_iff]
    exact h
  simp [idOr, hempty]

/-- The digits of base64url are ASCII. -/
theorem any_isForeign_encode (bytes : List UInt8) :
    (Base64Url.encode bytes).toList.any isForeign = false := by
  have halphabet : Base64Url.alphabet.any isForeign = false := by decide
  rw [List.any_eq_false] at halphabet ⊢
  intro c hc
  exact halphabet c ((Base64Url.encode_spec bytes).1 hc)

/-- A key that is written with its secret is read back, with a fresh identifier if it had none. -/
theorem ofJwk_privateJwk (fresh : String) :
    ofJwk fresh k.privateJwk = .ok { k with id := idOr fresh (.text k.id) } := by
  have hd : k.privateJwk.get? "d" = some (digits k.secret) := rfl
  have hid : k.privateJwk.get "kid" = .text k.id := rfl
  have hkind : (k.privateJwk.get "kty").text? = some "EC" := rfl
  have hcurve : (k.privateJwk.get "crv").text? = some "secp256k1" := rfl
  have hbytes := Base64Url.decode?_encode (Digest.toBytes 32 k.secret)
  rw [ofJwk]
  simp only [hd, hid, hkind, hcurve, digits, hbytes, any_isForeign_encode]
  exact k.ofHex_bytes _

/-- A key that has an identifier is read back from its web key as it was written, and so are any
bytes from their digits, among which no padding is left. -/
theorem jwk_round_trip :
    (∀ (k : Key) (fresh : String), k.id ≠ "" →
      ∃ k', ofJwk fresh k.privateJwk = .ok k' ∧ (k'.bytes = k.bytes ∧ k'.bytes.length = 32) ∧
        k'.id = k.id ∧ k'.address = k.address ∧ k'.publicJwk = k.publicJwk) ∧
    ∀ bytes, Base64Url.decode? (Base64Url.encode bytes) = some bytes ∧
      '=' ∉ (Base64Url.encode bytes).toList := by
  refine ⟨?_, fun bytes =>
    ⟨Base64Url.decode?_encode bytes, Base64Url.pad_not_mem_encode bytes⟩⟩
  intro k fresh hid
  have hread := k.ofJwk_privateJwk fresh
  rw [idOr_text hid] at hread
  exact ⟨k, hread, ⟨rfl, k.length_bytes⟩, rfl, rfl, rfl⟩

/-- The key of the secret 1. -/
def one : Key := ofChoice 0 "test-key"

/-- The 31 zeros in front of the secret 1 are written and come back. -/
theorem jwk_round_trip_one :
    one.id ≠ "" ∧ one.bytes = List.replicate 31 0 ++ [1] ∧
    one.privateJwk.get? "d" = some (.text "AAAAAAAAAAAAAAAAAAAAAAAAAAAAAAAAAAAAAAAAAAE") ∧
    ∃ k', ofJwk "dev-0001020304050607" one.privateJwk = .ok k' ∧
      k'.bytes = List.replicate 31 0 ++ [1] ∧ k'.id = "test-key" ∧ k'.address = one.address := by
  have hid : one.id ≠ "" := by decide
  have hbytes : one.bytes = List.replicate 31 0 ++ [1] := by decide
  obtain ⟨k', hread, ⟨hkept, -⟩, hname, haddress, -⟩ :=
    jwk_round_trip.1 one "dev-0001020304050607" hid
  exact ⟨hid, hbytes, by rfl, k', hread, hkept.trans hbytes, hname, haddress⟩

end Key

end Eligibility.Wallet
