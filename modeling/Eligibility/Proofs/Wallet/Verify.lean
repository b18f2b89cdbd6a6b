import Eligibility.Proofs.Text.Hex
import Eligibility.Proofs.Wallet.Recovery
set_option autoImplicit false

/-!
# Wallet: the texts that are checked

A text is read as a signature if it spells 65 bytes in hex and the last of them tells a parity.
The check of a text answers whether the public key that is recovered has the address of the key,
and it has no answer exactly for the signatures that no public key has made.
-/

namespace Eligibility.Wallet

/-- The text spells the bytes in hex, and a mark `0x` may stand in front of the digits. -/
def Spells (text : String) (bytes : List UInt8) : Prop :=
  ∃ digits : String, (text = digits ∨ text = "0x" ++ digits) ∧ Text.HexPairs digits.toList bytes

/-- A mark is never read as digits, so there is one way to read the text. -/
theorem unhexSpacedList_after_eq_some {text : String} {bytes : List UInt8} :
    Text.unhexSpacedList ((Text.after? "0x" text).getD text).toList = some bytes ↔
      Spells text bytes := by
  rw [Text.unhexSpacedList_eq_some]
  cases hafter : Text.after? "0x" text with
  | none =>
    refine ⟨fun h => ⟨text, .inl rfl, h⟩, ?_⟩
    rintro ⟨digits, rfl | hmarked, h⟩
    · exact h
    · rw [Text.after?_eq_some.mpr hmarked] at hafter
      exact absurd hafter (Option.some_ne_none _)
  | some rest =>
    have htext := Text.after?_eq_some.mp hafter
    refine ⟨fun h => ⟨rest, .inr htext, h⟩, ?_⟩
    rintro ⟨digits, rfl | hmarked, h⟩
    · have hchars : ("0x" ++ rest).toList = '0' :: 'x' :: rest.toList := by simp
      have hx : Text.hexValue? 'x' = none := by decide
      rw [htext, hchars] at h
      cases h with
      | gap hc h => exact absurd hc (by decide)
      | pair ha hb h =>
        rw [hx] at hb
        exact absurd hb.symm (Option.some_ne_none _)
    · rw [Text.after?_eq_some.mpr hmarked] at hafter
      obtain rfl := Option.some.inj hafter
      exact h

namespace Signature

/-- The text spells the bytes of two numbers and a byte for the parity. -/
structure SpellsParts (text : String) (r s : List UInt8) (v : UInt8) : Prop where
  length_r : r.length = 32
  length_s : s.length = 32
  spells : Spells text (r ++ s ++ [v])

/-- The text tells the signature by its parts. -/
def Tells (text : String) (g : Signature) : Prop :=
  ∃ r s v, SpellsParts text r s v ∧ parity? v.toNat = some g.odd ∧
    Digest.ofBytes r = g.r ∧ Digest.ofBytes s = g.s

/-- A byte that no form of a signature has at its end. -/
def TellsNoParity (v : Nat) : Prop := 2 ≤ v ∧ v ≤ 26 ∨ 29 ≤ v ∧ v ≤ 34

theorem parity?_eq_none {v : Nat} : parity? v = none ↔ TellsNoParity v := by
  unfold parity? TellsNoParity
  split
  · next heven =>
    refine iff_of_false (Option.some_ne_none _) ?_
    omega
  · split
    · next hodd =>
      refine iff_of_false (Option.some_ne_none _) ?_
      omega
    · split
      · next hlong =>
        refine iff_of_false (Option.some_ne_none _) ?_
        omega
      · next hshort =>
        refine iff_of_true rfl ?_
        omega

theorem ofBytes?_parts {r s : List UInt8} (hr : r.length = 32) (hs : s.length = 32) (v : UInt8) :
    ofBytes? (r ++ s ++ [v]) =
      (parity? v.toNat).map fun odd => ⟨Digest.ofBytes r, Digest.ofBytes s, odd⟩ := by
  have hlength : (r ++ s ++ [v]).length = length := by simp [hr, hs, length]
  have hfirst : (r ++ s ++ [v]).take 32 = r := by simp [hr]
  have hsecond : ((r ++ s ++ [v]).drop 32).take 32 = s := by simp [hr, hs]
  have hlast : (r ++ s ++ [v]).drop 64 = [v] := List.drop_left' (by simp [hr, hs])
  have hbyte : Digest.ofBytes [v] = v.toNat := by simp [Digest.ofBytes]
  rw [ofBytes?, if_pos hlength, hfirst, hsecond, hlast, hbyte]

theorem exists_parts {bytes : List UInt8} (h : bytes.length = length) :
    ∃ r s v, r.length = 32 ∧ s.length = 32 ∧ bytes = r ++ s ++ [v] := by
  rw [length] at h
  obtain ⟨v, hv⟩ := List.length_eq_one_iff.mp (show (bytes.drop 64).length = 1 by simp [h])
  refine ⟨bytes.take 32, (bytes.drop 32).take 32, v, by simp [h], by simp [h], ?_⟩
  have hrest : bytes.drop 64 = (bytes.drop 32).drop 32 := by rw [List.drop_drop]
  rw [← hv, hrest, List.append_assoc, List.take_append_drop, List.take_append_drop]

variable {text : String} {g : Signature}

/-- The texts that are read are those that tell a signature. -/
theorem read?_eq_some : read? text = some g ↔ Tells text g := by
  simp only [read?, Option.bind_eq_some_iff, unhexSpacedList_after_eq_some]
  constructor
  · rintro ⟨bytes, hspells, hbytes⟩
    by_cases hlength : bytes.length = length
    · obtain ⟨r, s, v, hr, hs, rfl⟩ := exists_parts hlength
      rw [ofBytes?_parts hr hs, Option.map_eq_some_iff] at hbytes
      obtain ⟨odd, hparity, rfl⟩ := hbytes
      exact ⟨r, s, v, ⟨hr, hs, hspells⟩, hparity, rfl, rfl⟩
    · rw [ofBytes?, if_neg hlength] at hbytes
      exact absurd hbytes.symm (Option.some_ne_none _)
  · rintro ⟨r, s, v, ⟨hr, hs, hspells⟩, hparity, hfirst, hsecond⟩
    refine ⟨_, hspells, ?_⟩
    rw [ofBytes?_parts hr hs, hparity, hfirst, hsecond]
    rfl

theorem read?_eq_none : read? text = none ↔
    (∀ bytes, Spells text bytes → bytes.length ≠ 65) ∨
      ∃ r s v, SpellsParts text r s v ∧ TellsNoParity v.toNat := by
  simp only [read?, Option.bind_eq_none_iff, unhexSpacedList_after_eq_some]
  constructor
  · intro h
    by_cases hlength : ∃ bytes, Spells text bytes ∧ bytes.length = 65
    · obtain ⟨bytes, hspells, hlength⟩ := hlength
      obtain ⟨r, s, v, hr, hs, rfl⟩ := exists_parts hlength
      have hnone := h _ hspells
      rw [ofBytes?_parts hr hs, Option.map_eq_none_iff, parity?_eq_none] at hnone
      exact .inr ⟨r, s, v, ⟨hr, hs, hspells⟩, hnone⟩
    · exact .inl fun bytes hspells h65 => hlength ⟨bytes, hspells, h65⟩
  · rintro (hshort | ⟨r, s, v, ⟨hr, hs, hspells⟩, hparity⟩) bytes hbytes
    · exact if_neg (hshort bytes hbytes)
    · have hsame := (unhexSpacedList_after_eq_some.mpr hspells).symm.trans
        (unhexSpacedList_after_eq_some.mpr hbytes)
      obtain rfl := Option.some.inj hsame
      rw [ofBytes?_parts hr hs, parity?_eq_none.mpr hparity]
      rfl

end Signature

/-! ## The check -/

/-- The address of a public key; the neutral element has that of zeros. -/
def publicAddress (key : Curve.curve.Point) : String :=
  addressOfPoint (Curve.Point.of key).coordinates.1 (Curve.Point.of key).coordinates.2

namespace Key

variable (k : Key) (message text : String)

/-- The public key of a key. -/
def publicKey : Curve.curve.Point := k.secret • Curve.generator

theorem publicAddress_publicKey : publicAddress k.publicKey = k.address := by
  rw [publicKey, publicAddress, ← Curve.multiply_of, Curve.of_generator]
  rfl

variable {k message text} {g : Signature} {key : Curve.curve.Point}

theorem verify_of_unread (h : Signature.read? text = none) :
    k.verify message text = .ok false := by
  rw [verify, h]

theorem verify_of_recovers (htells : Signature.Tells text g)
    (hkey : g.Recovers (messageDigest message) key) :
    k.verify message text = .ok (publicAddress key == k.address) := by
  rw [verify, Signature.read?_eq_some.mpr htells]
  simp only [Signature.recover?_eq_some.mpr ⟨key, hkey, rfl⟩]
  rfl

theorem verify_of_not_recoverable (htells : Signature.Tells text g) (h : ¬ g.Recoverable) :
    k.verify message text = .error .unrecoverable := by
  rw [verify, Signature.read?_eq_some.mpr htells]
  simp only [Signature.recover?_eq_none.mpr h]

/-- A text is no signature, or one that no key has made, or one of a key, and the check says
which. -/
theorem verify_cases (k : Key) (message text : String) :
    (Signature.read? text = none ∧ k.verify message text = .ok false) ∨
    (∃ g, (Signature.Tells text g ∧ ¬ g.Recoverable) ∧
      k.verify message text = .error .unrecoverable) ∨
    ∃ g key, (Signature.Tells text g ∧ g.Recovers (messageDigest message) key) ∧
      k.verify message text = .ok (publicAddress key == k.address) := by
  cases hread : Signature.read? text with
  | none => exact .inl ⟨rfl, verify_of_unread hread⟩
  | some g =>
    have htells := Signature.read?_eq_some.mp hread
    by_cases hrecoverable : g.Recoverable
    · obtain ⟨key, hkey⟩ := Signature.exists_recovers_iff.mpr hrecoverable
      exact .inr (.inr ⟨g, key, ⟨htells, hkey⟩, verify_of_recovers htells hkey⟩)
    · exact .inr (.inl ⟨g, ⟨htells, hrecoverable⟩, verify_of_not_recoverable htells hrecoverable⟩)

theorem verify_eq_true : k.verify message text = .ok true ↔
    ∃ g key, Signature.Tells text g ∧ g.Recovers (messageDigest message) key ∧
      publicAddress key = k.address := by
  constructor
  · intro h
    obtain ⟨-, hverify⟩ | ⟨g, -, hverify⟩ | ⟨g, key, ⟨htells, hkey⟩, hverify⟩ :=
      k.verify_cases message text
    · rw [hverify] at h
      exact absurd (Except.ok.inj h) Bool.false_ne_true
    · rw [hverify] at h
      exact nomatch h
    · rw [hverify] at h
      exact ⟨g, key, htells, hkey, beq_iff_eq.mp (Except.ok.inj h)⟩
  · rintro ⟨g, key, htells, hkey, haddress⟩
    rw [verify_of_recovers htells hkey, haddress, beq_self_eq_true]

theorem verify_eq_false : k.verify message text = .ok false ↔
    Signature.read? text = none ∨
      ∃ g key, Signature.Tells text g ∧ g.Recovers (messageDigest message) key ∧
        publicAddress key ≠ k.address := by
  constructor
  · intro h
    obtain ⟨hunread, -⟩ | ⟨g, -, hverify⟩ | ⟨g, key, ⟨htells, hkey⟩, hverify⟩ :=
      k.verify_cases message text
    · exact .inl hunread
    · rw [hverify] at h
      exact nomatch h
    · rw [hverify] at h
      exact .inr ⟨g, key, htells, hkey, beq_eq_false_iff_ne.mp (Except.ok.inj h)⟩
  · rintro (hunread | ⟨g, key, htells, hkey, haddress⟩)
    · exact verify_of_unread hunread
    · rw [verify_of_recovers htells hkey, beq_eq_false_iff_ne.mpr haddress]

theorem verify_eq_error : k.verify message text = .error .unrecoverable ↔
    ∃ g, Signature.Tells text g ∧ ¬ g.Recoverable := by
  constructor
  · intro h
    obtain ⟨-, hverify⟩ | ⟨g, hnone, -⟩ | ⟨g, key, -, hverify⟩ := k.verify_cases message text
    · rw [hverify] at h
      exact nomatch h
    · exact ⟨g, hnone⟩
    · rw [hverify] at h
      exact nomatch h
  · rintro ⟨g, htells, hnone⟩
    exact verify_of_not_recoverable htells hnone

/-- The check says yes to the signatures of the message by a public key that has the address, and
no to those by other keys and to texts that are no 65 bytes of hex or tell no parity.  It gives no
answer exactly for a signature that has a number out of range or a coordinate without a point. -/
theorem verify_answers_iff (k : Key) (message text : String) :
    (k.verify message text = .ok true ↔
      ∃ g key, Signature.Tells text g ∧ g.Recovers (messageDigest message) key ∧
        publicAddress key = k.address) ∧
    (k.verify message text = .ok false ↔
      (∀ bytes, Spells text bytes → bytes.length ≠ 65) ∨
      (∃ r s v, Signature.SpellsParts text r s v ∧ Signature.TellsNoParity v.toNat) ∨
      ∃ g key, Signature.Tells text g ∧ g.Recovers (messageDigest message) key ∧
        publicAddress key ≠ k.address) ∧
    (k.verify message text = .error .unrecoverable ↔
      ∃ g, Signature.Tells text g ∧ ¬ g.Recoverable) := by
  refine ⟨verify_eq_true, ?_, verify_eq_error⟩
  rw [verify_eq_false, Signature.read?_eq_none, or_assoc]

/-- The text of 65 zero bytes. -/
def zeroText : String := "0x" ++ Text.hex (List.replicate 65 0)

theorem tells_zeroText : Signature.Tells zeroText ⟨0, 0, false⟩ :=
  ⟨List.replicate 32 0, List.replicate 32 0, 0,
    ⟨List.length_replicate, List.length_replicate, _, .inr rfl, by
      rw [Text.hex, String.toList_ofList]
      exact Text.hexPairs_hexList _⟩, rfl, rfl, rfl⟩

/-- No public key has made the signature of zeros, and the check of its text gives no answer. -/
theorem verify_zeroText_unanswered :
    Signature.Tells zeroText ⟨0, 0, false⟩ ∧
    (∀ key, ¬ Signature.Recovers ⟨0, 0, false⟩ (messageDigest "hello") key) ∧
    ¬ ∃ answer, (ofChoice 0 "dev").verify "hello" zeroText = .ok answer := by
  have hnone : ¬ Signature.Recoverable ⟨0, 0, false⟩ := fun h => absurd h.r_range.1 (lt_irrefl 0)
  refine ⟨tells_zeroText, fun key hkey => hnone (Signature.exists_recovers_iff.mp ⟨key, hkey⟩), ?_⟩
  rintro ⟨answer, hanswer⟩
  rw [verify_of_not_recoverable tells_zeroText hnone] at hanswer
  exact nomatch hanswer

end Key

end Eligibility.Wallet
