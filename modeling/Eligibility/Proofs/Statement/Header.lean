import Eligibility.Proofs.Statement.Buildable
set_option autoImplicit false

/-!
# Statements: what comes back from what is built

A statement that is built and then parsed says what its order says: every field that the
order or the settings give comes back as it was given, the nonce is the one that was
chosen, and the times are the instants of issue and of expiry in UTC, cut off below a
millisecond.  The checks of the builder are not those of the grammar, so not every
statement that is built is accepted: the domain, the location and the line for people are
held to the grammar by the parser alone.
-/

namespace Eligibility.Statement

open Eligibility.Calendar (Stamp)

/-! ## Orders for a sign-in -/

/-- An order for a chain above zero with a line for people. -/
def signInOrder (line : String) : Order where
  address := .text (String.ofList ('0' :: 'x' :: List.replicate 40 '0'))
  resources := { provider := .text "x", traits := [("followers", .text "gte:1000")] }
  domain := .text "example.com"
  uri := .text "https://example.com/login"
  chainId := .whole 8453
  statement := .text line
  expiresIn := some 3600000000

/-- The order has a chain of few digits. -/
theorem chainId_signInOrder : (8453 : Int) < 10 ^ Decimal.maxDigits :=
  @Decimal.lt_limit_of_lt 8453 4 (by decide) (by decide)

theorem expires?_signInOrder (line : String) :
    (signInOrder line).expires? {} oneOClock = some twoOClock :=
  show (window? {} (some 3600000000)).bind (Calendar.Zoned.fixed oneOClock).add? = some twoOClock by
    decide +kernel

theorem signInOrder_builds [Uri.Idna] {line : String} (hne : line ≠ "")
    (hline : Text.OneLine line) :
    ∃ b, (build {} oneOClock ⟨id, 0⟩ (signInOrder line)).1 = .ok b := by
  have hvacant : (Json.text line).isVacant = false := by simpa [Json.isVacant] using hne
  refine exists_build_iff.mpr ?_
  exact {
    address := ⟨_, rfl, Wallet.isAddress_zeros⟩
    domain := ⟨"example.com", rfl, ⟨by decide, by decide⟩, by decide⟩
    uri := ⟨"https://example.com/login", rfl, ⟨by decide, by decide⟩,
      Uri.isWebAddress_of_plain (by decide +kernel)⟩
    chainId := ⟨8453, rfl, by decide, chainId_signInOrder⟩
    statement := by
      refine ⟨some line, by simp [Order.line, signInOrder, orNull, hvacant, Json.ofText?], ?_⟩
      intro s hs
      exact Option.some.inj hs ▸ hline
    resources := ⟨_, rfl⟩
    times := ⟨twoOClock, expires?_signInOrder line, Stamp.exists_millis? rfl,
      Stamp.exists_millis? rfl⟩ }

theorem acceptable_signInOrder {line : String} :
    Acceptable {} (signInOrder line) ↔ line = "" ∨ isStatementText line.toList = true := by
  have hdomain : orVacant (signInOrder line).domain ({} : Settings).domain =
    .text "example.com" := by rfl
  have huri : orVacant (signInOrder line).uri ({} : Settings).appUrl =
    .text "https://example.com/login" := by rfl
  have hchain : (signInOrder line).chain {} = .whole 8453 := by rfl
  have hline : (signInOrder line).line {} = if line = "" then .null else .text line := by
    by_cases h : line = "" <;> simp [Order.line, signInOrder, orNull, Json.isVacant, h]
  constructor
  · intro h
    by_cases hempty : line = ""
    · exact .inl hempty
    · rw [if_neg hempty] at hline
      exact .inr (h.statement line hline)
  · intro h
    refine ⟨?_, ?_, ?_, ?_⟩
    · intro s hs
      obtain rfl := Json.text.inj (hdomain.symm.trans hs)
      decide
    · intro s hs
      obtain rfl := Json.text.inj (huri.symm.trans hs)
      decide
    · intro s hs
      rw [hline] at hs
      split at hs
      · simp at hs
      · next hne => exact Json.text.inj hs ▸ h.resolve_left hne
    · intro n hn
      rw [hchain] at hn
      exact Except.ok.inj hn ▸ chainId_signInOrder

section

variable {settings : Settings} {now : Stamp} {choices : Choices} {o : Order} {b : Built}

/-! ## The header -/

/-- A parsed statement says what the order of a statement that was built says. -/
structure Agrees (settings : Settings) (now : Stamp) (o : Order) (b : Built) (parsed : Parsed) :
    Prop where
  domain : orVacant o.domain settings.domain = .text parsed.domain
  address : o.address = .text parsed.address
  uri : orVacant o.uri settings.appUrl = .text parsed.uri
  version : parsed.version = "1"
  chainId : Field.whole (o.chain settings) = .ok parsed.chainId
  nonce : parsed.nonce = b.nonce
  /-- The line for people is the one of the order, and none if that is vacant. -/
  statement : Json.ofText? parsed.statement = o.line settings
  requestId : parsed.requestId = none
  issuedAt : parsed.issuedAt.IsUtcMillisOf (o.issued now)
  expirationTime : ∃ expires expirationTime, o.expires? settings now = some expires ∧
    parsed.expirationTime = some expirationTime ∧ expirationTime.IsUtcMillisOf expires
  resources : parsed.resources = b.resources

/-- A statement that is built for a chain above zero and then parsed says what its order says. -/
theorem agrees_of_parse_build [Uri.Idna] (h : (build settings now choices o).1 = .ok b) {n : Int}
    (hchain : Field.whole (o.chain settings) = .ok n) (hpos : 0 < n) {parsed : Parsed}
    (hparse : parse b.message = .ok parsed) : Agrees settings now o b parsed := by
  obtain ⟨m, hm⟩ := fills_of_build h
  obtain ⟨issuedAt, expires, expirationTime, hissuedAt, hexpires, hexpiration, hparses⟩ :=
    hm.parse_eq_ok
  obtain ⟨-, -, rfl⟩ := (hparses parsed).mp hparse
  have hn : m.chainId = n := Except.ok.inj (hm.chainId.symm.trans hchain)
  have hshown : Field.whole (o.chain settings) = .ok (shownChain m.chainId) := by
    rw [shownChain_of_pos (hn ▸ hpos)]
    exact hm.chainId
  exact {
    domain := hm.domain
    address := hm.address
    uri := hm.uri
    version := rfl
    chainId := hshown
    nonce := rfl
    statement := hm.statement.symm
    requestId := rfl
    issuedAt := hissuedAt
    expirationTime := ⟨expires, expirationTime, hexpires, rfl, hexpiration⟩
    resources := rfl }

section

attribute [local instance] Uri.Idna.plain

theorem agrees_of_parse_build_signIn :
    ∃ b parsed, (build {} oneOClock ⟨id, 0⟩ (signInOrder "Resources:")).1 = .ok b ∧
      parse b.message = .ok parsed ∧ parsed.domain = "example.com" ∧ parsed.chainId = 8453 ∧
      parsed.statement = some "Resources:" := by
  obtain ⟨b, hb⟩ := @signInOrder_builds _ "Resources:" (by decide) ⟨by decide, by decide⟩
  obtain ⟨m, hm⟩ := fills_of_build hb
  obtain ⟨parsed, hparsed⟩ := hm.parses_iff.mpr (acceptable_signInOrder.mpr (.inr (by decide)))
  have hchain : Field.whole ((signInOrder "Resources:").chain {}) = .ok 8453 := by rfl
  have hagrees := agrees_of_parse_build hb hchain (by decide) hparsed
  refine ⟨b, parsed, hb, hparsed, ?_, ?_, ?_⟩
  · exact (Json.text.inj hagrees.domain).symm
  · exact (Except.ok.inj (hchain.symm.trans hagrees.chainId)).symm
  · exact @ofText?_injective _ (some "Resources:") hagrees.statement

end

/-! ## What is accepted -/

/-- A statement that is built is accepted exactly if the fields that its order or the settings give
follow the grammar; the builder lets through others. -/
theorem parse_build_iff_acceptable [Uri.Idna] (h : (build settings now choices o).1 = .ok b) :
    (∃ parsed, parse b.message = .ok parsed) ↔ Acceptable settings o := by
  obtain ⟨m, hm⟩ := fills_of_build h
  exact hm.parses_iff

section

attribute [local instance] Uri.Idna.plain

theorem parse_build_iff_acceptable_signIn :
    ∃ b, (build {} oneOClock ⟨id, 0⟩ (signInOrder "Resources:")).1 = .ok b ∧
      ∃ parsed, parse b.message = .ok parsed := by
  obtain ⟨b, hb⟩ := @signInOrder_builds _ "Resources:" (by decide) ⟨by decide, by decide⟩
  have hacceptable : Acceptable {} (signInOrder "Resources:") :=
    acceptable_signInOrder.mpr (.inr (by decide))
  exact ⟨b, hb, (parse_build_iff_acceptable hb).mpr hacceptable⟩

/-- A percent sign in the line for people is let through by the builder and refused by the
parser. -/
theorem not_parse_build :
    ∃ b, (build {} oneOClock ⟨id, 0⟩ (signInOrder "Claim 50% off")).1 = .ok b ∧
      ∀ parsed, parse b.message ≠ .ok parsed := by
  obtain ⟨b, hb⟩ := @signInOrder_builds _ "Claim 50% off" (by decide) ⟨by decide, by decide⟩
  obtain ⟨m, hm⟩ := fills_of_build hb
  refine ⟨b, hb, ?_⟩
  intro parsed hparsed
  have hacceptable := hm.parses_iff.mp ⟨parsed, hparsed⟩
  exact absurd (acceptable_signInOrder.mp hacceptable) (by decide)

end

end

end Eligibility.Statement
