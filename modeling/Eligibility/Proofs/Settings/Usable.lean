import Eligibility.Proofs.Statement.Buildable
set_option autoImplicit false

/-!
# Settings: what an accepted configuration can be used for

A statement is built from an address and the settings alone if the settings pass the
checks of the builder too.  Most of these follow from their own checks, which every
default passes.  The others look at the same fields in another way: a CR ends a line
for the builder alone, a location is read leniently when it is set and strictly when it
is written, and a lifetime or a chain may be as large as it likes.
-/

namespace Eligibility.Settings

open Eligibility.Calendar (Stamp Duration Zoned)
open Eligibility.Field (Problem Checked)
open Eligibility.Text (OneLine Unbroken)

/-! ## What acceptance makes sure of -/

/-- A location of a web page without slashes at its end. -/
def IsPage (url : String) : Prop :=
  ∃ given, Uri.Location.isWeb given = true ∧ url = Text.dropTrailing '/' given

/-- The settings pass their own checks. -/
structure Accepted (s : Settings) : Prop where
  appUrl : IsPage s.appUrl
  chainId : 0 < s.chainId
  statement : '\n' ∉ s.statement.toList
  statementTtlHours : s.statementTtlHours.isPositive = true
  cacheTtlSeconds : s.cacheTtlSeconds.isPositive = true
  authorityUrl : IsPage s.authorityUrl
  authorityTimeout : s.authorityTimeout.isPositive = true

/-- Every default passes its own check. -/
theorem accepted_default : ({} : Settings).Accepted where
  appUrl := ⟨"http://localhost:3000", by rfl, by decide⟩
  chainId := by decide
  statement := by decide
  statementTtlHours := by decide +kernel
  cacheTtlSeconds := by decide +kernel
  authorityUrl := ⟨"https://verify.base.dev/v1", by rfl, by decide⟩
  authorityTimeout := by decide +kernel

section

variable {j : Json} {given : String → Option Json}

theorem readUrl_eq_ok {url : String} (h : readUrl j = .ok url) : IsPage url := by
  obtain ⟨s, hs, hurl⟩ := Outcome.bind_eq_ok.mp h
  obtain ⟨t, -, ht⟩ := Outcome.then_eq_ok.mp hs
  obtain ⟨rfl, hweb⟩ := Field.require_eq_ok.mp ht
  exact ⟨t, hweb, (Outcome.pure_eq_ok.mp hurl).symm⟩

theorem readLine_eq_ok {line : String} (h : readLine j = .ok line) : '\n' ∉ line.toList := by
  obtain ⟨s, -, hs⟩ := Outcome.then_eq_ok.mp h
  obtain ⟨rfl, hline⟩ := Field.require_eq_ok.mp hs
  simpa using hline

theorem readPositiveWhole_eq_ok {n : Int} (h : readPositiveWhole j = .ok n) : 0 < n := by
  obtain ⟨m, -, hm⟩ := Outcome.then_eq_ok.mp h
  obtain ⟨rfl, hpos⟩ := Field.require_eq_ok.mp hm
  simpa using hpos

theorem readPositive_eq_ok {x : Binary64} (h : readPositive j = .ok x) : x.isPositive = true := by
  obtain ⟨y, -, hy⟩ := Outcome.then_eq_ok.mp h
  obtain ⟨rfl, hpos⟩ := Field.require_eq_ok.mp hy
  exact hpos

/-- A field has what its default has and what its reader makes sure of. -/
theorem field_eq_ok {α : Type} {name : String} {read : Json → Except Problem α} {default a : α}
    {P : α → Prop} (h : field given name read default = .ok a) (hdefault : P default)
    (hread : ∀ j a, read j = .ok a → P a) : P a := by
  unfold field at h
  split at h
  · next j _ => exact hread j a (Checked.located_eq_ok.mp h)
  · exact Except.ok.inj h ▸ hdefault

theorem field_positive_eq_ok {name : String} {default x : Binary64}
    (h : field given name readPositive default = .ok x) (hdefault : default.isPositive = true) :
    x.isPositive = true :=
  field_eq_ok (P := fun x => x.isPositive = true) h hdefault fun _ _ => readPositive_eq_ok

theorem accepted_of_ofFields {s : Settings} (h : ofFields given = .ok s) : s.Accepted := by
  -- The fields are peeled off from the last one to the first one.
  simp only [ofFields, Checked.also, Checked.apply_eq_ok] at h
  obtain ⟨_, _, h, -, rfl⟩ := h
  obtain ⟨_, _, h, -, rfl⟩ := h
  obtain ⟨_, _, h, -, rfl⟩ := h
  obtain ⟨_, _, h, hauthorityTimeout, rfl⟩ := h
  obtain ⟨_, _, h, -, rfl⟩ := h
  obtain ⟨_, _, h, hauthorityUrl, rfl⟩ := h
  obtain ⟨_, _, h, hcacheTtl, rfl⟩ := h
  obtain ⟨_, _, h, hstatementTtl, rfl⟩ := h
  obtain ⟨_, _, h, hstatement, rfl⟩ := h
  obtain ⟨_, _, h, hchainId, rfl⟩ := h
  obtain ⟨_, _, h, happUrl, rfl⟩ := h
  obtain rfl := Except.ok.inj h
  have d := accepted_default
  exact {
    appUrl := field_eq_ok happUrl d.appUrl fun _ _ => readUrl_eq_ok
    chainId := field_eq_ok hchainId d.chainId fun _ _ => readPositiveWhole_eq_ok
    statement := field_eq_ok (P := fun line => '\n' ∉ line.toList) hstatement d.statement
      fun _ _ => readLine_eq_ok
    statementTtlHours := field_positive_eq_ok hstatementTtl d.statementTtlHours
    cacheTtlSeconds := field_positive_eq_ok hcacheTtl d.cacheTtlSeconds
    authorityUrl := field_eq_ok hauthorityUrl d.authorityUrl fun _ _ => readUrl_eq_ok
    authorityTimeout := field_positive_eq_ok hauthorityTimeout d.authorityTimeout }

end

/-! ## What building asks for -/

/-- The domain of any settings is one line, and a domain. -/
theorem domain_eq_ok (s : Settings) : OneLine s.domain ∧ Statement.isDomain s.domain = true := by
  have hlocal : OneLine "localhost" ∧ Statement.isDomain "localhost" = true := by
    exact ⟨⟨by decide, by decide⟩, by decide⟩
  unfold domain
  split
  · next l hl =>
    split
    · exact hlocal
    · next hne =>
      have hhost := @Uri.Location.ne_of_mem_host s.appUrl l hl
      refine ⟨Unbroken.iff_forall.mpr fun c hc => (hhost hc).1, ?_⟩
      simp only [Statement.isDomain, Bool.and_eq_true, List.all_eq_true, bne_iff_ne]
      refine ⟨by simpa using hne, ?_⟩
      intro c hc
      obtain ⟨-, hslash, hquery, hfragment⟩ := hhost hc
      exact ⟨⟨hslash, hquery⟩, hfragment⟩
  · exact hlocal

/-- A lifetime above zero is no duration below zero. -/
theorem nonneg_of_isPositive {unit : Nat} {x : Binary64} {window : Int}
    (hx : x.isPositive = true) (h : Duration.ofUnits? unit x = some window) : 0 ≤ window := by
  cases x with
  | finite negative m e =>
    have hsign : negative = false := by
      simp only [Binary64.isPositive, Bool.and_eq_true, Bool.not_eq_true'] at hx
      exact hx.1
    subst hsign
    simp only [Duration.ofUnits?, Bool.false_eq_true, if_false, Option.ite_none_right_eq_some,
      Option.some.injEq] at h
    exact h.2 ▸ Int.natCast_nonneg _
  | infinite _ => simp [Duration.ofUnits?] at h
  | nan => simp [Duration.ofUnits?] at h

/-- What building asks of settings and no check of their own makes sure of. -/
structure Usable [Uri.Idna] (s : Settings) (now : Stamp) : Prop where
  statement : '\r' ∉ s.statement.toList
  appUrl : OneLine s.appUrl ∧ Uri.isWebAddress s.appUrl = true
  chainId : s.chainId < 10 ^ Decimal.maxDigits
  /-- The lifetime of a statement can be told, and the statement expires within the calendar. -/
  lifetime : ∃ window : Int, Duration.ofUnits? Duration.hour s.statementTtlHours = some window ∧
    now.ticks + window < Calendar.tickLimit

/-- An order for an address that leaves everything else to the settings. -/
def plainOrder (address : String) : Statement.Order where
  address := .text address

/-- The line for people of the settings, if it is not empty. -/
theorem line_plainOrder (s : Settings) (address : String) :
    (plainOrder address).line s =
      .ofText? (if s.statement = "" then none else some s.statement) := by
  by_cases h : s.statement = ""
  · rw [if_pos h]
    simp [Statement.Order.line, plainOrder, Statement.orNull, h, Json.isVacant, Json.ofText?]
  · rw [if_neg h]
    simp [Statement.Order.line, plainOrder, Statement.orNull, h, Json.isVacant, Json.ofText?]

/-- The statement expires at the end of the lifetime, if the calendar has that time. -/
theorem expires?_plainOrder {s : Settings} {now expires : Stamp} {address : String} :
    (plainOrder address).expires? s now = some expires ↔
      ∃ window : Int, Duration.ofUnits? Duration.hour s.statementTtlHours = some window ∧
        (expires.ticks : Int) = now.ticks + window ∧ expires.offset = now.offset := by
  have hwindow : (plainOrder address).expires? s now =
      (Duration.ofUnits? Duration.hour s.statementTtlHours).bind (Zoned.fixed now).add? := rfl
  rw [hwindow, Option.bind_eq_some_iff]
  simp only [Zoned.add?_fixed, Stamp.add?, Stamp.ofTicks?_eq_some]

section

variable [Uri.Idna]

theorem Usable.buildable {s : Settings} {now : Stamp} (h : s.Usable now) (haccepted : s.Accepted)
    (hnow : now.offset = some 0) {address : String} (haddress : Wallet.isAddress address = true) :
    Statement.Buildable s now (plainOrder address) := by
  obtain ⟨window, hwindow, hbound⟩ := h.lifetime
  have hnonneg := nonneg_of_isPositive haccepted.statementTtlHours hwindow
  let expires : Stamp := ⟨(now.ticks + window).toNat, now.offset, by omega⟩
  have hticks : (expires.ticks : Int) = now.ticks + window := Int.toNat_of_nonneg (by omega)
  exact {
    address := ⟨address, rfl, haddress⟩
    domain := ⟨s.domain, rfl, s.domain_eq_ok⟩
    uri := ⟨s.appUrl, rfl, h.appUrl⟩
    chainId := ⟨s.chainId, rfl, Int.le_of_lt haccepted.chainId, h.chainId⟩
    statement := by
      refine ⟨_, line_plainOrder s address, ?_⟩
      intro line hmem
      split at hmem
      · simp at hmem
      · exact Option.some.inj hmem ▸ ⟨haccepted.statement, h.statement⟩
    resources := ⟨[], rfl⟩
    times := ⟨expires, expires?_plainOrder.mpr ⟨window, hwindow, hticks, rfl⟩,
      Stamp.exists_millis? hnow, Stamp.exists_millis? hnow⟩ }

theorem usable_of_buildable {s : Settings} {now : Stamp} {address : String}
    (h : Statement.Buildable s now (plainOrder address)) : s.Usable now := by
  obtain ⟨url, hurl, hurlLine, hisUrl⟩ := h.uri
  obtain ⟨n, hn, -, hshort⟩ := h.chainId
  obtain ⟨line, hstatement, hstatementLine⟩ := h.statement
  obtain ⟨expires, hexpires, -⟩ := h.times
  obtain rfl : s.appUrl = url := Json.text.inj hurl
  obtain rfl : s.chainId = n := Except.ok.inj hn
  obtain rfl := Statement.ofText?_injective ((line_plainOrder s address).symm.trans hstatement)
  obtain ⟨window, hwindow, hticks, -⟩ := expires?_plainOrder.mp hexpires
  refine ⟨?_, ⟨hurlLine, hisUrl⟩, hshort, window, hwindow, ?_⟩
  · by_cases hempty : s.statement = ""
    · simp [hempty]
    · rw [if_neg hempty] at hstatementLine
      exact (hstatementLine s.statement rfl).noReturn
  · have hbounded := expires.bounded
    omega

/-- Accepted settings give a statement for an address, with nothing else asked for, exactly if they
pass what building asks of them beyond their own checks. -/
theorem exists_build_iff_usable {given : String → Option Json} {s : Settings}
    (h : ofFields given = .ok s) {now : Stamp} (hnow : now.offset = some 0)
    (choices : Statement.Choices) {address : String} (haddress : Wallet.isAddress address = true) :
    (∃ b, (Statement.build s now choices (plainOrder address)).1 = .ok b) ↔ s.Usable now := by
  rw [Statement.exists_build_iff]
  exact ⟨usable_of_buildable, fun husable =>
    husable.buildable (accepted_of_ofFields h) hnow haddress⟩

theorem usable_default : ({} : Settings).Usable Statement.oneOClock where
  statement := by decide
  appUrl := ⟨⟨by decide, by decide⟩, Uri.isWebAddress_of_plain (by decide +kernel)⟩
  chainId := @Decimal.lt_limit_of_lt 8453 4 (by decide) (by decide)
  lifetime := ⟨21600000000, by decide +kernel, by decide⟩

end

section

attribute [local instance] Uri.Idna.plain

theorem exists_build_of_defaults :
    ofFields (fun _ => none) = .ok {} ∧
      ∃ b, (Statement.build {} Statement.oneOClock ⟨id, 0⟩ (plainOrder Wallet.zeroAddress)).1 =
        .ok b := by
  have hdefaults : ofFields (fun _ => none) = .ok {} := by rfl
  exact ⟨hdefaults, (exists_build_iff_usable hdefaults rfl ⟨id, 0⟩
    Wallet.isAddress_zeroAddress).mpr usable_default⟩

/-- A CR in the line for people is accepted with the settings, and no statement is built of it. -/
theorem not_build_of_return :
    ∃ (given : String → Option Json) (s : Settings), ofFields given = .ok s ∧
      Wallet.isAddress Wallet.zeroAddress = true ∧
      ∀ choices b,
        (Statement.build s Statement.oneOClock choices (plainOrder Wallet.zeroAddress)).1 ≠
          .ok b := by
  let s : Settings := { statement := "Claim\rairdrop" }
  refine ⟨fun name => if name = "statement" then some (.text "Claim\rairdrop") else none, s,
    by rfl, Wallet.isAddress_zeroAddress, ?_⟩
  intro choices b hb
  obtain ⟨line, hstatement, hline⟩ := (Statement.buildable_of_build hb).statement
  have hsome : some "Claim\rairdrop" = line :=
    @Statement.ofText?_injective (some "Claim\rairdrop") line hstatement
  exact absurd (hline _ hsome.symm).noReturn (by decide)

end

end Eligibility.Settings
