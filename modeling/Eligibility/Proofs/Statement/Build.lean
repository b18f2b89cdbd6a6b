import Eligibility.Proofs.Calendar.Stamp
import Eligibility.Proofs.Resource.Build
import Eligibility.Proofs.Statement.Layout
import Eligibility.Proofs.Statement.Message
import Eligibility.Proofs.Uri.Web
import Eligibility.Proofs.Wallet.Address
import Eligibility.Statement.Build
set_option autoImplicit false

/-!
# Statements: what is built can be read back

A statement that is built holds exactly the resources that were asked for.  The
plan refuses a part with a line end, the nonce and the times are made of
characters without one, and a resource holds only what the path of a URI can
hold, so every field stays on its line and the layout decides where the
resources stand.
-/

namespace Eligibility.Statement

open Eligibility.Text (OneLine Unbroken)
open Eligibility.Trait (Requirement)

/-! ## The steps of building -/

theorem requireLine_eq_ok {label : String} {given : Json} :
    requireLine label given = .ok () ↔ ∀ s, given = .text s → OneLine s := by
  cases given with
  | text s =>
    have hbreak : (s.toList.any fun c => c == '\n' || c == '\r') = false ↔ OneLine s := by
      rw [OneLine, Unbroken.iff_forall, List.any_eq_false]
      simp
    simp only [requireLine, Json.text.injEq, forall_eq']
    split
    · next h => simp [← hbreak, h]
    · next h => simp [← hbreak, h]
  | null | boolean _ | whole _ | real _ | array _ | object _ => simp [requireLine]

theorem requireAddress_eq_ok {given : Json} (h : requireAddress given = .ok ()) :
    ∀ s, given = .text s → OneLine s := by
  cases given with
  | text s =>
    simp only [requireAddress] at h
    split at h
    · simp at h
    · exact requireLine_eq_ok.mp h
  | null | boolean _ | whole _ | real _ | array _ | object _ => simp [requireAddress] at h

/-- What a plan takes from its order, and what was made sure of. -/
structure Plan.Follows (p : Plan) (o : Order) : Prop where
  address : ∀ s, o.address = .text s → OneLine s
  domain : ∀ s, p.domain = .text s → OneLine s
  uri : ∀ s, p.uri = .text s → OneLine s
  statement : ∀ s, p.statement = .text s → OneLine s
  resources : Resource.ofRequest o.resources = .ok p.resources

theorem follows_of_plan {settings : Settings} {now : Calendar.Stamp} {o : Order} {p : Plan}
    (h : plan settings now o = .ok p) : p.Follows o := by
  simp only [plan, Outcome.bind_eq_ok, Outcome.ok_of_mapError] at h
  obtain ⟨_, haddress, _, hdomain, _, huri, _, hstatement, resources, hresources, h⟩ := h
  split at h
  · simp at h
  · obtain rfl := Outcome.pure_eq_ok.mp h
    exact {
      address := requireAddress_eq_ok haddress
      domain := requireLine_eq_ok.mp hdomain
      uri := requireLine_eq_ok.mp huri
      statement := requireLine_eq_ok.mp hstatement
      resources := hresources }

theorem render_eq_ok [Uri.Idna] {d : Draft} {message : String} :
    render d = .ok message ↔ ∃ m, d.Gives m ∧ m.hasShortChain = true ∧ message = m.render := by
  unfold render
  cases hc : d.check with
  | ok m =>
    simp only
    constructor
    · intro h
      split at h
      · next hshort => exact ⟨m, Draft.check_eq_ok.mp hc, hshort, (Except.ok.inj h).symm⟩
      · simp at h
    · rintro ⟨k, hk, hshort, rfl⟩
      obtain rfl := Except.ok.inj (hc.symm.trans (Draft.check_eq_ok.mpr hk))
      rw [if_pos hshort]
  | error faults =>
    simp only [reduceCtorEq, false_iff]
    rintro ⟨k, hk, -⟩
    simp [Draft.check_eq_ok.mpr hk] at hc

theorem finish_eq_ok [Uri.Idna] {address : Json} {p : Plan} {nonce : String} {b : Built} :
    finish address p nonce = .ok b ↔
      p.issued.millis? = some b.issuedAt ∧ p.expires.millis? = some b.expirationTime ∧
      b.nonce = nonce ∧ b.resources = p.resources ∧
      ∃ m, (p.draft address nonce b.issuedAt b.expirationTime).Gives m ∧
        m.hasShortChain = true ∧ b.message = m.render := by
  obtain ⟨message, nonce', issuedAt, expirationTime, resources⟩ := b
  unfold finish
  cases p.issued.millis? with
  | none => simp
  | some issued =>
    cases p.expires.millis? with
    | none => simp
    | some expires =>
      simp only [Outcome.bind_eq_ok, Outcome.pure_eq_ok, render_eq_ok, Built.mk.injEq,
        Option.some.injEq]
      constructor
      · rintro ⟨_, ⟨m, hm, hshort, rfl⟩, rfl, rfl, rfl, rfl, rfl⟩
        exact ⟨rfl, rfl, rfl, rfl, m, hm, hshort, rfl⟩
      · rintro ⟨rfl, rfl, rfl, rfl, m, hm, hshort, rfl⟩
        exact ⟨_, ⟨m, hm, hshort, rfl⟩, rfl, rfl, rfl, rfl, rfl⟩

theorem build_eq_ok [Uri.Idna] {settings : Settings} {now : Calendar.Stamp}
    {choices : Choices} {o : Order} {b : Built} :
    (build settings now choices o).1 = .ok b ↔ ∃ p, plan settings now o = .ok p ∧
      finish o.address p (choices.nonce defaultNonceLength).1 = .ok b := by
  unfold build
  cases hp : plan settings now o with
  | error fault => simp
  | ok p => simp

/-! ## No field leaves its line -/

theorem unbroken_nonceAlphabet : Unbroken nonceAlphabet := ⟨by decide, by decide⟩

theorem mem_nonceAlphabet {choices : Choices} {length : Nat} {c : Char}
    (h : c ∈ (choices.nonce length).1.toList) : c ∈ nonceAlphabet := by
  rw [Choices.nonce, String.toList_ofList] at h
  obtain ⟨i, -, rfl⟩ := List.mem_map.mp h
  have hlt := Nat.mod_lt (choices.pick (choices.used + i)) (show 0 < nonceAlphabet.length by decide)
  rw [nonceChar, List.getD_eq_getElem?_getD, List.getElem?_eq_getElem hlt, Option.getD_some]
  exact List.getElem_mem hlt

theorem oneLine_nonce (choices : Choices) (length : Nat) : OneLine (choices.nonce length).1 := by
  rw [OneLine, Unbroken.iff_forall]
  exact fun c hc => Unbroken.iff_forall.mp unbroken_nonceAlphabet c (mem_nonceAlphabet hc)

theorem ne_sectionHeader_of_isAddress {s : String} (h : Wallet.isAddress s = true) :
    s ≠ Resource.sectionHeader := by
  rintro rfl
  simp [Wallet.isAddress, Resource.sectionHeader] at h

theorem text_injective : Function.Injective Json.text := fun _ _ h => Json.text.inj h

/-- A message that is built from a plan keeps every field on its line. -/
theorem plain_of_gives [Uri.Idna] {o : Order} {p : Plan} {choices : Choices} {b : Built}
    {m : Message} (hp : p.Follows o) (hissued : p.issued.millis? = some b.issuedAt)
    (hexpires : p.expires.millis? = some b.expirationTime)
    (hm : (p.draft o.address (choices.nonce defaultNonceLength).1 b.issuedAt
      b.expirationTime).Gives m) : m.Plain ∧ m.resources = p.resources := by
  have hresources : m.resources = p.resources :=
    (List.map_injective_iff.mpr text_injective hm.resources.1).symm
  refine ⟨?_, hresources⟩
  exact {
    domain := hp.domain _ hm.domain.1
    address := hp.address _ hm.address.1
    uri := hp.uri _ hm.uri.1
    nonce := Json.text.inj hm.nonce.1 ▸ oneLine_nonce choices defaultNonceLength
    issuedAt := Json.text.inj hm.issuedAt.1 ▸ Calendar.Stamp.oneLine_of_millis? hissued
    statement := by
      intro s hs
      have h := hm.statement.1
      rw [Option.mem_def.mp hs, Plan.draft] at h
      split at h
      · simp [Json.ofText?] at h
      · exact hp.statement s h
    expirationTime := by
      intro s hs
      have h := hm.expirationTime.1
      rw [Option.mem_def.mp hs] at h
      exact Json.text.inj h ▸ Calendar.Stamp.oneLine_of_millis? hexpires
    notBefore := by
      intro s hs
      have h := hm.notBefore.1
      rw [Option.mem_def.mp hs] at h
      simp [Plan.draft, Json.ofText?] at h
    requestId := by
      intro s hs
      have h := hm.requestId
      rw [Option.mem_def.mp hs] at h
      simp [Plan.draft, Json.ofText?] at h
    resources := by
      intro uri huri
      exact (Resource.isResource_of_ofRequest hp.resources uri (hresources ▸ huri)).oneLine }

/-- A statement that is built holds the resources that were asked for, and no others. -/
theorem linesOf_build [Uri.Idna] {settings : Settings} {now : Calendar.Stamp}
    {choices : Choices} {o : Order} {b : Built} (h : (build settings now choices o).1 = .ok b) :
    Resource.ofRequest o.resources = .ok b.resources ∧
      Resource.linesOfStatement b.message = .ok b.resources := by
  obtain ⟨p, hplan, hfinish⟩ := build_eq_ok.mp h
  obtain ⟨hissued, hexpires, -, hb, m, hm, -, hmessage⟩ := finish_eq_ok.mp hfinish
  have hp := follows_of_plan hplan
  obtain ⟨hplain, hresources⟩ := plain_of_gives hp hissued hexpires hm
  have haddress := ne_sectionHeader_of_isAddress hm.address.2
  refine ⟨hb ▸ hp.resources, ?_⟩
  rw [hmessage, Resource.linesOfStatement_eq_ok m.isBlankText_render,
    Message.linesOf_render hplain haddress, hresources, hb]

/-- Nothing is lost and nothing is smuggled in: whatever the fields of an order say, the statement
that is built for it holds exactly the resources of the order, and a scan of it finds what the order
asks for and nothing else. -/
theorem scan_build [Uri.Idna] {settings : Settings} {now : Calendar.Stamp}
    {choices : Choices} {o : Order} {b : Built} (h : (build settings now choices o).1 = .ok b) :
    Resource.ofRequest o.resources = .ok b.resources ∧
    Resource.linesOfStatement b.message = .ok b.resources ∧
    (o.resources.strict = true → o.resources.provider.isVacant = false →
      ∀ t ∈ o.resources.traits, ∃ q, Requirement.parse t.1 t.2 = .ok q) ∧
    (o.resources.traits.Distinct →
      (∀ t ∈ o.resources.traits, ∃ q, Requirement.parse t.1 t.2 = .ok q) →
      ∃ f, Resource.scan b.message = .ok f ∧ f.resources = b.resources ∧
        Resource.Reports o.resources f) := by
  obtain ⟨hrequest, hlines⟩ := linesOf_build h
  refine ⟨hrequest, hlines, ?_, ?_⟩
  · intro hstrict hprovider t ht
    obtain ⟨q, hq, -⟩ := Resource.parses_of_strict hrequest hstrict hprovider t ht
    exact ⟨q, hq⟩
  · intro hdistinct hparse
    obtain ⟨rs, hrs⟩ := Outcome.exists_map_ok hparse
    obtain ⟨f, hf, hreports⟩ := Resource.reports_of_ofRequest hrequest hrs hdistinct
    refine ⟨f, ?_, Resource.resources_of_gather hf, hreports⟩
    simp [Resource.scan, hlines, hf]

/-! ## Fields that look like resources -/

/-- One o'clock on the first day of the calendar. -/
def oneOClock : Calendar.Stamp := ⟨3600000000, some 0, by decide⟩

/-- An hour later. -/
def twoOClock : Calendar.Stamp := ⟨7200000000, some 0, by decide⟩

/-- An order whose domain looks like a marked resource, and whose line for people like the line
that opens the section. -/
def lookalikeOrder : Order where
  address := .text (String.ofList ('0' :: 'x' :: List.replicate 40 '0'))
  resources := {
    provider := .text "x"
    traits := [("verified", .flag true), ("followers", .text "gte:1000")]
    action := .text "claim"
    strict := true }
  domain := .text "- urn:verify:action:other"
  uri := .text "http://localhost:3000"
  chainId := .whole 1
  statement := .text "Resources:"
  expiresIn := some 3600000000

/-- The message of that order, with the first letters as its nonce. -/
def lookalikeMessage : Message where
  domain := "- urn:verify:action:other"
  address := String.ofList ('0' :: 'x' :: List.replicate 40 '0')
  uri := "http://localhost:3000"
  chainId := 1
  issuedAt := "0001-01-01T01:00:00.000Z"
  nonce := "abcdefghijklmnopq"
  statement := some "Resources:"
  expirationTime := some "0001-01-01T02:00:00.000Z"
  resources := ["urn:verify:provider:x", "urn:verify:provider:x:verified:eq:true",
    "urn:verify:provider:x:followers:gte:1000", "urn:verify:action:claim"]

theorem lookalikeOrder_builds [Uri.Idna] :
    ∃ b, (build {} oneOClock ⟨id, 0⟩ lookalikeOrder).1 = .ok b := by
  have hplan : plan {} oneOClock lookalikeOrder = .ok ⟨lookalikeOrder.domain,
      lookalikeOrder.uri, lookalikeOrder.chainId, lookalikeOrder.statement,
      lookalikeMessage.resources, oneOClock, twoOClock⟩ := by rfl
  refine ⟨⟨lookalikeMessage.render, lookalikeMessage.nonce, lookalikeMessage.issuedAt,
    "0001-01-01T02:00:00.000Z", lookalikeMessage.resources⟩, build_eq_ok.mpr ⟨_, hplan, ?_⟩⟩
  refine finish_eq_ok.mpr ⟨by rfl, by rfl, by rfl, rfl, lookalikeMessage, ?_, by decide, rfl⟩
  exact {
    domain := ⟨rfl, by decide⟩
    address := ⟨rfl, Wallet.isAddress_zeros⟩
    uri := ⟨rfl, Uri.isWebAddress_of_plain (by decide +kernel)⟩
    chainId := ⟨rfl, by decide⟩
    issuedAt := ⟨rfl, by decide +kernel⟩
    nonce := ⟨by rfl, by decide⟩
    statement := ⟨rfl, by decide⟩
    expirationTime := ⟨rfl, by decide +kernel⟩
    notBefore := ⟨rfl, rfl⟩
    requestId := rfl
    resources := ⟨rfl, Uri.forall_isWebAddress_of_plain (by decide +kernel)⟩ }

section

attribute [local instance] Uri.Idna.plain

theorem scan_build_lookalike :
    ∃ b f, (build {} oneOClock ⟨id, 0⟩ lookalikeOrder).1 = .ok b ∧
      Resource.scan b.message = .ok f ∧ f.providers = ["x"] ∧ f.action = some "claim" ∧
      f.verification = none ∧ f.malformed = [] := by
  obtain ⟨b, hb⟩ := lookalikeOrder_builds
  obtain ⟨-, -, hstrict, hscan⟩ := scan_build hb
  have hdistinct : lookalikeOrder.resources.traits.Distinct := by
    unfold Mapping.Distinct
    decide
  obtain ⟨f, hf, -, hreports⟩ := hscan hdistinct (hstrict rfl rfl)
  exact ⟨b, f, hb, hf, hreports.providers, hreports.action, hreports.verification,
    hreports.malformed⟩

end

end Eligibility.Statement
