import Eligibility.Proofs.Statement.Message
import Eligibility.Proofs.Statement.Reader
import Eligibility.Proofs.Resource.Findings
import Eligibility.Proofs.Uri.Web
import Eligibility.Proofs.Wallet.Address
import Eligibility.Statement.Parse
set_option autoImplicit false

/-!
# Statements: two readers of one section

A parsed statement gets its fields from the grammar and its resources from the
scanner.  On every text that is accepted the two agree: the resources are the
URIs that every derivation of the text ends in.
-/

namespace Eligibility.Statement

/-- A text is parsed if the grammar derives it, its fields pass their checks, and its times can be
read. -/
theorem parse_eq_ok [Uri.Idna] {text : String} {parsed : Parsed} :
    parse text = .ok parsed ↔ ∃ p m issuedAt expirationTime,
      Derives p text ∧ p.draft.Gives m ∧ requireTime "issued at" m.issuedAt = .ok issuedAt ∧
      readTime "expiration time" (.ofText? m.expirationTime) = .ok expirationTime ∧
      parsed = {
        domain := m.domain
        address := m.address
        uri := m.uri
        version := version
        chainId := m.chainId
        nonce := m.nonce
        issuedAt := issuedAt
        expirationTime := expirationTime
        statement := m.statement
        requestId := m.requestId
        resources := Resource.linesOf text } := by
  unfold parse
  cases hread : readDraft? text with
  | none =>
    have hnone : ¬∃ p, Derives p text := by
      rintro ⟨p, hp⟩
      simp [readDraft?_eq_some.mpr ⟨p, hp, rfl⟩] at hread
    constructor
    · intro h
      split at h <;> simp at h
    · rintro ⟨p, -, -, -, hp, -⟩
      exact absurd ⟨p, hp⟩ hnone
  | some d =>
    obtain ⟨p, hp, rfl⟩ := readDraft?_eq_some.mp hread
    have hblank : Text.isBlankText text = false := hp.eq_text ▸ p.isBlankText_text
    simp only [hblank, Bool.false_eq_true, ↓reduceIte, Outcome.bind_eq_ok,
      Outcome.ok_of_mapError, Outcome.pure_eq_ok, Draft.check_eq_ok]
    constructor
    · rintro ⟨m, hm, issuedAt, hissuedAt, expirationTime, hexpirationTime, rfl⟩
      exact ⟨p, m, issuedAt, expirationTime, hp, hm, hissuedAt, hexpirationTime, rfl⟩
    · rintro ⟨q, m, issuedAt, expirationTime, hq, hm, hissuedAt, hexpirationTime, rfl⟩
      -- Two derivations of one text may differ in their scheme, and give the same draft.
      have hdraft : p.draft = q.draft :=
        Option.some.inj (hread.symm.trans (readDraft?_eq_some.mpr ⟨q, hq, rfl⟩))
      exact ⟨m, hdraft ▸ hm, issuedAt, hissuedAt, expirationTime, hexpirationTime, rfl⟩

/-- On a text that is accepted, every reader of resources finds the URIs of its derivation. -/
theorem resources_of_parse [Uri.Idna] {message : String} {parsed : Parsed}
    (h : parse message = .ok parsed) :
    (∃ p, Derives p message) ∧ ∀ p, Derives p message →
      Resource.linesOfStatement message = .ok p.uris ∧ parsed.resources = p.uris ∧
      (∀ f, Resource.scan message = .ok f → f.resources = p.uris) ∧
      (p.resources = none → parsed.resources = []) := by
  obtain ⟨q, _, _, _, hq, -, -, -, hparsed⟩ := parse_eq_ok.mp h
  have hblank : Text.isBlankText message = false := hq.eq_text ▸ q.isBlankText_text
  refine ⟨⟨q, hq⟩, ?_⟩
  intro p hp
  have hlines : Resource.linesOf message = p.uris := by
    rw [hp.eq_text]
    exact Parts.linesOf_text hp.wellFormed
  have hresources : parsed.resources = p.uris := by rw [hparsed, hlines]
  refine ⟨?_, hresources, ?_, ?_⟩
  · rw [Resource.linesOfStatement_eq_ok hblank, hlines]
  · intro f hf
    obtain ⟨-, hgather⟩ := Resource.scan_eq_ok.mp hf
    rw [Resource.resources_of_gather hgather, hlines]
  · intro hnone
    rw [hresources, Parts.uris, hnone]
    rfl

/-! ## A line for people that looks like the section -/

/-- Parts whose line for people is the one that opens the section. -/
def lookalikeParts : Parts where
  scheme := some "https"
  domain := "example.com"
  address := String.ofList ('0' :: 'x' :: List.replicate 40 '0')
  statement := some "Resources:"
  uri := "https://example.com/login"
  chainId := "1"
  nonce := "abcdefgh"
  issuedAt := "2024-01-01T00:00:00.000Z"
  expirationTime := none
  notBefore := none
  requestId := some ""
  resources := some ["urn:verify:action:claim"]

/-- The message with those parts. -/
def lookalikeFields : Message where
  domain := "example.com"
  address := String.ofList ('0' :: 'x' :: List.replicate 40 '0')
  uri := "https://example.com/login"
  chainId := 1
  issuedAt := "2024-01-01T00:00:00.000Z"
  nonce := "abcdefgh"
  statement := some "Resources:"
  requestId := some ""
  resources := ["urn:verify:action:claim"]

theorem derives_lookalike : Derives lookalikeParts lookalikeParts.text where
  wellFormed := {
    scheme := by simp [lookalikeParts]; decide
    domain := by decide
    address := by decide
    statement := by simp [lookalikeParts]; decide
    uri := by decide
    chainId := by decide
    nonce := by decide
    issuedAt := by decide
    expirationTime := by simp [lookalikeParts]
    notBefore := by simp [lookalikeParts]
    requestId := by simp [lookalikeParts]; decide
    resources := by decide }
  eq_text := rfl

theorem lookalikeParts_parses [Uri.Idna] : ∃ parsed, parse lookalikeParts.text = .ok parsed := by
  have haddress : Wallet.isAddress lookalikeFields.address = true :=
    Wallet.isAddress_of_digits List.length_replicate fun c hc => by
      rw [List.eq_of_mem_replicate hc]
      rfl
  have hgives : lookalikeParts.draft.Gives lookalikeFields := {
    domain := ⟨rfl, by decide⟩
    address := ⟨rfl, haddress⟩
    uri := ⟨rfl, Uri.isWebAddress_of_plain (by decide +kernel)⟩
    chainId := ⟨by rfl, by decide⟩
    issuedAt := ⟨rfl, by decide +kernel⟩
    nonce := ⟨rfl, by decide⟩
    statement := ⟨rfl, by decide⟩
    expirationTime := ⟨rfl, rfl⟩
    notBefore := ⟨rfl, rfl⟩
    requestId := rfl
    resources := ⟨rfl, Uri.forall_isWebAddress_of_plain (by decide +kernel)⟩ }
  have hissued : ∃ stamp, requireTime "issued at" lookalikeFields.issuedAt = .ok stamp :=
    ⟨_, by rfl⟩
  obtain ⟨stamp, hstamp⟩ := hissued
  exact ⟨_, parse_eq_ok.mpr ⟨lookalikeParts, lookalikeFields, stamp, none,
    derives_lookalike, hgives, hstamp, rfl, rfl⟩⟩

section

attribute [local instance] Uri.Idna.plain

theorem resources_of_parse_lookalike :
    ∃ parsed, parse lookalikeParts.text = .ok parsed ∧
      parsed.resources = ["urn:verify:action:claim"] := by
  obtain ⟨parsed, hparsed⟩ := lookalikeParts_parses
  obtain ⟨-, hall⟩ := resources_of_parse hparsed
  obtain ⟨-, hresources, -, -⟩ := hall lookalikeParts derives_lookalike
  exact ⟨parsed, hparsed, hresources⟩

end

end Eligibility.Statement
