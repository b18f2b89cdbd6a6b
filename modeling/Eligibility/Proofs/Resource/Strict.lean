import Eligibility.Proofs.Gate.Decision
import Eligibility.Proofs.Resource.Build
import Eligibility.Proofs.Resource.RoundTrip
import Eligibility.Proofs.Validation.Unreadable
set_option autoImplicit false

/-!
# Resources: strict requests

A strict request is checked before its traits are written, and what it writes is what
the same request writes without the check.  The check looks at the raw value alone, but
it is the line that counts later, so what is promised here is told of the line: whoever
reads a trait out of it finds a requirement whose operator fits its value, and no
comparison can hold the trait itself against the statement.  What the check refuses is
the first trait, in the order of the caller, that deserves it.
-/

namespace Eligibility.Resource

open Trait (Fault Raw Requirement IsToken)
open Validation (Mismatch Reason Side Verdict)

/-! ## The check of one trait -/

/-- The raw value of a trait stands for a requirement whose operator fits its value. -/
def IsFit (t : String × Raw) : Prop :=
  ∃ q, Requirement.parse t.1 t.2 = .ok q ∧ q.isWellTyped = true

/-- Why a trait is not fit. -/
inductive Unfit (t : String × Raw) : Fault → Prop
  | unreadable {fault : Fault} (h : Requirement.parse t.1 t.2 = .error fault) : Unfit t fault
  | illTyped {q : Requirement} (h : Requirement.parse t.1 t.2 = .ok q)
      (hkind : q.isWellTyped = false) :
      Unfit t (.unsupportedOperator q.operator q.value.kind q.name q.raw)

theorem unfit_of_requireWellTyped {t : String × Raw} {fault : Fault}
    (h : requireWellTyped t.1 t.2 = .error fault) : Unfit t fault := by
  rcases Outcome.bind_eq_error.mp h with hparse | ⟨q, hparse, h⟩
  · exact .unreadable hparse
  · rcases Outcome.bind_eq_error.mp h with hkind | ⟨_, -, h⟩
    · unfold Requirement.ensureWellTyped at hkind
      split at hkind
      · simp at hkind
      · next hill =>
        obtain rfl := Except.error.inj hkind
        exact .illTyped hparse (Bool.not_eq_true _ ▸ hill)
    · exact absurd h Outcome.pure_ne_error

/-- Where a trait can be written, only the check can refuse it. -/
theorem unfit_of_checkedTrait {given : Json} {t : String × Raw} {line : String} {fault : Fault}
    (hline : checkedTrait false given t.1 t.2 = .ok line)
    (h : checkedTrait true given t.1 t.2 = .error fault) : Unfit t fault := by
  have hwritten := (checkedTrait_eq_ok.mp hline).2
  rcases Outcome.bind_eq_error.mp h with hcheck | ⟨_, -, h⟩
  · exact unfit_of_requireWellTyped hcheck
  · simp [hwritten] at h

/-- The check changes nothing of the line. -/
theorem checkedTrait_of_strict {given : Json} {name line : String} {raw : Raw}
    (h : checkedTrait true given name raw = .ok line) :
    checkedTrait false given name raw = .ok line := by
  apply checkedTrait_eq_ok.mpr
  exact ⟨Bool.noConfusion, (checkedTrait_eq_ok.mp h).2⟩

/-! ## A request with the check and without it -/

section

variable {r : Request} {uris : List String}

theorem scopeLines_of_strict {lines : List String}
    (h : scopeLines { r with strict := true } = .ok lines) :
    scopeLines { r with strict := false } = .ok lines := by
  unfold scopeLines at h ⊢
  split at h
  · next hvacant =>
    rw [if_pos hvacant]
    exact h
  · next hgiven =>
    rw [if_neg hgiven]
    simp only [Outcome.bind_eq_ok, Outcome.pure_eq_ok] at h ⊢
    obtain ⟨scope, hscope, traits, htraits, rfl⟩ := h
    refine ⟨scope, hscope, traits, ?_, rfl⟩
    rw [Outcome.mapM_eq_ok] at htraits ⊢
    rw [← htraits]
    apply List.map_congr_left
    intro t ht
    obtain ⟨line, -, hline⟩ := Outcome.exists_of_map_ok htraits ht
    exact (checkedTrait_of_strict hline).trans hline.symm

/-- What a strict request writes is what it writes without the check. -/
theorem ofRequest_of_strict (h : ofRequest { r with strict := true } = .ok uris) :
    ofRequest { r with strict := false } = .ok uris := by
  obtain ⟨scope, actions, verifications, hscope, hactions, hverifications, rfl⟩ :=
    ofRequest_eq_ok.mp h
  apply ofRequest_eq_ok.mpr
  exact ⟨scope, actions, verifications, scopeLines_of_strict hscope, hactions, hverifications, rfl⟩

/-- The first trait that is not fit is what the check refuses. -/
theorem exists_unfit_of_scopeLines {lines : List String} {fault : Fault}
    (hlines : scopeLines { r with strict := false } = .ok lines)
    (h : scopeLines { r with strict := true } = .error fault) :
    ∃ p before t after, r.provider = .text p ∧ p ≠ "" ∧ r.traits = before ++ t :: after ∧
      (∀ u ∈ before, IsFit u) ∧ Unfit t fault := by
  unfold scopeLines at hlines h
  split at h
  · simp at h
  · next hgiven =>
    rw [if_neg hgiven] at hlines
    simp only [Outcome.bind_eq_ok, Outcome.mapM_eq_ok] at hlines
    obtain ⟨scope, hscope, traits, htraits, -⟩ := hlines
    obtain ⟨p, hp, htoken, -⟩ := provider_eq_ok.mp hscope
    -- The provider was written, so the fault is that of a trait.
    rcases Outcome.bind_eq_error.mp h with h | ⟨_, -, h⟩
    · simp [hscope] at h
    rcases Outcome.bind_eq_error.mp h with h | ⟨_, -, h⟩
    · obtain ⟨before, t, after, htraitsEq, hbefore, ht⟩ := Outcome.mapM_eq_error.mp h
      refine ⟨p, before, t, after, hp, htoken.ne_empty, htraitsEq, ?_, ?_⟩
      · intro u hu
        obtain ⟨line, hline⟩ := hbefore u hu
        exact (checkedTrait_eq_ok.mp hline).1 rfl
      · have hmem : t ∈ r.traits := by
          rw [htraitsEq]
          exact List.mem_append_right before List.mem_cons_self
        obtain ⟨line, -, hline⟩ := Outcome.exists_of_map_ok htraits hmem
        exact unfit_of_checkedTrait hline ht
    · exact absurd h Outcome.pure_ne_error

/-- The check is all that can keep a request from being written. -/
theorem scopeLines_of_ofRequest {fault : Fault}
    (huris : ofRequest { r with strict := false } = .ok uris)
    (h : ofRequest { r with strict := true } = .error fault) :
    scopeLines { r with strict := true } = .error fault := by
  obtain ⟨_, actions, verifications, -, hactions, hverifications, -⟩ := ofRequest_eq_ok.mp huris
  rcases Outcome.bind_eq_error.mp h with hscope | ⟨_, -, h⟩
  · exact hscope
  rcases Outcome.bind_eq_error.mp h with h | ⟨_, -, h⟩
  · simp [hactions] at h
  rcases Outcome.bind_eq_error.mp h with h | ⟨_, -, h⟩
  · simp [hverifications] at h
  · exact absurd h Outcome.pure_ne_error

/-! ## The lines of a strict request -/

/-- A line in the scope of a provider is the line of a trait. -/
theorem exists_trait_of_scoped (h : ofRequest r = .ok uris) {p body : String}
    (hcolon : ':' ∉ p.toList) (hmem : providerLead ++ p ++ ":" ++ body ∈ uris) :
    ∃ t ∈ r.traits,
      checkedTrait r.strict (.text p) t.1 t.2 = .ok (providerLead ++ p ++ ":" ++ body) := by
  obtain ⟨scope, actions, verifications, hscope, hactions, hverifications, rfl⟩ :=
    ofRequest_eq_ok.mp h
  obtain ⟨rfl, -⟩ := partLine_eq_ok (fun _ _ => action_eq_ok) hactions
  obtain ⟨rfl, -⟩ := partLine_eq_ok (fun _ _ => verification_eq_ok) hverifications
  have hafter : Text.after? providerLead (providerLead ++ p ++ ":" ++ body) =
      some (p ++ ":" ++ body) :=
    Text.after?_eq_some.mpr (by simp [String.append_assoc])
  simp only [List.mem_append, List.mem_map] at hmem
  rcases hmem with (hmem | ⟨a, -, ha⟩) | ⟨v, -, hv⟩
  · rcases scopeLines_eq_ok hscope with ⟨-, -, rfl⟩ | ⟨q, traits, -, htoken, rfl, htraits⟩
    · simp at hmem
    · rcases List.mem_cons.mp hmem with hmem | hmem
      · -- The line of a provider has no second part.
        rw [hmem, after?_append, Option.some.injEq] at hafter
        have hnoColon := htoken.noColon
        simp [hafter] at hnoColon
      · obtain ⟨t, ht, hline⟩ := Outcome.exists_item_of_map_ok htraits hmem
        obtain ⟨_, _, _, _, ⟨⟩, -, -, -, -, -, -, heq⟩ :=
          trait_eq_ok.mp (checkedTrait_eq_ok.mp hline).2
        obtain rfl := scope_injective hcolon htoken.noColon heq
        exact ⟨t, ht, hline⟩
  · rw [← ha, after?_providerLead_actionLead] at hafter
    simp at hafter
  · rw [← hv, after?_providerLead_verificationLead] at hafter
    simp at hafter

/-- Whoever reads a trait line of a strict request finds what the caller gave, and it is well
typed. -/
theorem exists_traitOf?_of_scoped (h : ofRequest { r with strict := true } = .ok uris)
    {p body : String} (hcolon : ':' ∉ p.toList)
    (hmem : providerLead ++ p ++ ":" ++ body ∈ uris) :
    ∃ q, traitOf? (providerLead ++ p ++ ":" ++ body) (.text p) = .ok (some q) ∧
      q.isWellTyped = true ∧ ∃ t ∈ r.traits, Requirement.parse t.1 t.2 = .ok q := by
  obtain ⟨t, ht, hline⟩ := exists_trait_of_scoped h hcolon hmem
  obtain ⟨hfit, hwritten⟩ := checkedTrait_eq_ok.mp hline
  obtain ⟨q, hparse, hwell⟩ := hfit rfl
  exact ⟨q, (traitOf?_trait hwritten hparse).2, hwell, t, ht, hparse⟩

theorem isWellTyped_of_lastTrait? (h : ofRequest { r with strict := true } = .ok uris)
    {p name : String} {q : Requirement} (hlast : lastTrait? uris p name = some q) :
    q.isWellTyped = true := by
  obtain ⟨line, hmem, hline⟩ := List.exists_of_findSome?_eq_some hlast
  have hread := traitIn?_eq_some.mp (Option.filter_eq_some_iff.mp hline).1
  obtain ⟨hp, -, -, rfl⟩ := traitOf?_eq_some.mp hread
  obtain ⟨found, hfound, hwell, -⟩ :=
    exists_traitOf?_of_scoped h hp.noColon (List.mem_reverse.mp hmem)
  obtain rfl : found = q := by
    have hsame := hfound.symm.trans hread
    simpa using hsame
  exact hwell

end

/-! ## Comparisons -/

/-- A requirement that is well typed is not to blame for an invalid value or an operator that is not
supported: the expected side is. -/
theorem blame_of_compare {name : String} {given : Option Requirement} {expected : Side}
    {m : Mismatch} (hgiven : ∀ q, given = some q → q.isWellTyped = true)
    (h : Validation.compare name (given.map .requirement) expected = .ok (some m)) :
    m.trait = name ∧ (m.reason = .invalidValue → expected.Unreadable name) ∧
      (m.reason = .unsupportedOperator →
        ∃ e, expected.read name = .ok e ∧ e.isWellTyped = false) := by
  have hcompared := Validation.compared name (given.map .requirement) expected
  generalize Validation.compare name (given.map .requirement) expected = result at h hcompared
  cases hcompared with
  | long | overlong => simp at h
  | missing =>
    obtain rfl := Option.some.inj (Except.ok.inj h)
    simp [Validation.missing]
  | unreadable found _ hfound hread =>
    obtain ⟨q, -, rfl⟩ := Option.map_eq_some_iff.mp hfound.1
    obtain rfl := Option.some.inj (Except.ok.inj h)
    refine ⟨rfl, ?_, ?_⟩
    · intro _
      rcases hread with hexpected | ⟨fault, hfault⟩
      · exact hexpected
      · simp [Side.read] at hfault
    · simp [Validation.invalid]
  | read found f e _ hfound hf he =>
    obtain ⟨q, hq, rfl⟩ := Option.map_eq_some_iff.mp hfound.1
    obtain rfl := Except.ok.inj hf
    obtain ⟨reason, hreason, rfl⟩ := Option.map_eq_some_iff.mp (Except.ok.inj h)
    refine ⟨rfl, ?_, ?_⟩
    · intro hinvalid
      obtain rfl : reason = .invalidValue := hinvalid
      simpa using Validation.reasonAgainst?_eq_some hreason
    · intro hunsupported
      obtain rfl : reason = .unsupportedOperator := hunsupported
      refine ⟨e, he, ?_⟩
      cases hwell : e.isWellTyped with
      | false => rfl
      | true =>
        cases hstrict : q.atLeastAsStrict e <;>
          simp [Validation.reasonAgainst?, hwell, hgiven q hq, hstrict] at hreason

/-- A gate does not hold a well typed requirement against a statement for its form. -/
theorem reason_of_unmet? {found : Option Requirement} {expected : Requirement} {reason : Reason}
    (hfound : ∀ q, found = some q → q.isWellTyped = true)
    (h : Validation.unmet? found expected = some reason) :
    reason = .missing ∨ reason = .notStrictEnough := by
  cases found with
  | none => exact .inl (Option.some.inj h).symm
  | some q =>
    cases hstrict : q.atLeastAsStrict expected with
    | true => simp [Validation.unmet?, hfound q rfl, hstrict] at h
    | false =>
      simp only [Validation.unmet?, hfound q rfl, hstrict, Bool.true_eq_false, Bool.false_eq_true,
        ↓reduceIte, Option.some.injEq] at h
      exact .inr h.symm

theorem reason_of_actionMismatch? {lines : List String} {action : Option String} {m : Mismatch}
    (h : Gate.actionMismatch? lines action = some m) :
    m.reason = .missing ∨ m.reason = .unexpectedAction := by
  unfold Gate.actionMismatch? at h
  split at h
  · simp at h
  · split at h
    · obtain rfl := Option.some.inj h
      exact .inl rfl
    · split at h
      · simp at h
      · obtain rfl := Option.some.inj h
        exact .inr rfl

/-- Lines that hold well typed traits only: each trait line is read as what one of the traits stands
for, and no comparison holds it against the statement that a value is invalid or an operator not
supported.  Where one of these is reported, it is the expected side that is at fault, and a gate,
which expects nothing of the kind, never reports them. -/
structure HoldsWellTyped (traits : Mapping Raw) (lines : List String) : Prop where
  reads : ∀ p body, ':' ∉ p.toList → providerLead ++ p ++ ":" ++ body ∈ lines →
    ∃ q, traitOf? (providerLead ++ p ++ ":" ++ body) (.text p) = .ok (some q) ∧
      q.isWellTyped = true ∧ ∃ t ∈ traits, Requirement.parse t.1 t.2 = .ok q
  compares : ∀ message, linesOf message = lines → ∀ p expected verdict,
    Validation.compareStatement message p expected = .ok verdict → ∀ m ∈ verdict.mismatches,
      ∃ x ∈ expected, m.trait = x.1 ∧ (m.reason = .invalidValue → x.2.Unreadable x.1) ∧
        (m.reason = .unsupportedOperator → ∃ e, x.2.read x.1 = .ok e ∧ e.isWellTyped = false)
  checks : ∀ message, linesOf message = lines → ∀ (g : Gate) verdict,
    g.check message = .ok verdict → ∀ m ∈ verdict.mismatches,
      m.reason ≠ .invalidValue ∧ m.reason ≠ .unsupportedOperator

section

variable {lines : List String}
  (hlast : ∀ p name q, lastTrait? lines p name = some q → q.isWellTyped = true)

include hlast

theorem blame_of_compareStatement {message p : String} (hlines : linesOf message = lines)
    {expected : Mapping Side} {verdict : Verdict}
    (h : Validation.compareStatement message p expected = .ok verdict) {m : Mismatch}
    (hm : m ∈ verdict.mismatches) :
    ∃ x ∈ expected, m.trait = x.1 ∧ (m.reason = .invalidValue → x.2.Unreadable x.1) ∧
      (m.reason = .unsupportedOperator →
        ∃ e, x.2.read x.1 = .ok e ∧ e.isWellTyped = false) := by
  simp only [Validation.compareStatement, traitsIn, Outcome.bind_eq_ok, Outcome.pure_eq_ok,
    Outcome.ok_of_mapError] at h
  obtain ⟨_, ⟨f, hf, rfl⟩, hverdict⟩ := h
  obtain ⟨x, hx, hcompare⟩ := (Validation.mem_mismatches hverdict).mp hm
  rw [Mapping.get?_mapValues, get?_traitsFor_of_gather (scan_eq_ok.mp hf).2, hlines] at hcompare
  exact ⟨x, hx, blame_of_compare (hlast p x.1) hcompare⟩

theorem reason_of_check {message : String} (hlines : linesOf message = lines) {g : Gate}
    {verdict : Verdict} (h : g.check message = .ok verdict) {m : Mismatch}
    (hm : m ∈ verdict.mismatches) :
    m.reason ≠ .invalidValue ∧ m.reason ≠ .unsupportedOperator := by
  obtain ⟨f, hf, -⟩ := Outcome.bind_eq_ok.mp h
  obtain rfl := Except.ok.inj ((Gate.check_of_scan g hf).symm.trans h)
  rw [hlines] at hm
  rcases List.mem_append.mp hm with hm | hm
  · obtain ⟨e, -, he⟩ := List.mem_filterMap.mp hm
    obtain ⟨reason, hreason, rfl⟩ := Option.map_eq_some_iff.mp he
    rcases reason_of_unmet? (hlast g.provider e.name) hreason with rfl | rfl
    · simp
    · simp
  · rcases reason_of_actionMismatch? (Option.mem_toList.mp hm) with hreason | hreason
    · simp [hreason]
    · simp [hreason]

end

/-! ## The check as a filter -/

/-- The check of a strict request only filters.  What passes is what is written without the check,
and holds well typed traits only; what is written without the check and does not pass has a
provider, and the first trait that is not fit is the one that is refused. -/
theorem strict_filters (r : Request) :
    (∀ uris, ofRequest { r with strict := true } = .ok uris →
      ofRequest { r with strict := false } = .ok uris ∧ HoldsWellTyped r.traits uris) ∧
    ∀ uris fault, ofRequest { r with strict := false } = .ok uris →
      ofRequest { r with strict := true } = .error fault →
      ∃ p before t after, r.provider = .text p ∧ p ≠ "" ∧ r.traits = before ++ t :: after ∧
        (∀ u ∈ before, IsFit u) ∧ Unfit t fault := by
  refine ⟨?_, ?_⟩
  · intro uris h
    have hlast : ∀ p name q, lastTrait? uris p name = some q → q.isWellTyped = true := by
      intro p name q hq
      exact isWellTyped_of_lastTrait? h hq
    refine ⟨ofRequest_of_strict h, ?_, ?_, ?_⟩
    · intro p body hcolon hmem
      exact exists_traitOf?_of_scoped h hcolon hmem
    · intro message hlines p expected verdict hverdict m hm
      exact blame_of_compareStatement hlast hlines hverdict hm
    · intro message hlines g verdict hverdict m hm
      exact reason_of_check hlast hlines hverdict hm
  · intro uris fault huris h
    obtain ⟨lines, _, _, hlines, -, -, -⟩ := ofRequest_eq_ok.mp huris
    exact exists_unfit_of_scopeLines hlines (scopeLines_of_ofRequest huris h)

/-- A request of which the first trait is fit and the others are not. -/
def unfitRequest : Request where
  provider := .text "x"
  traits := [("verified", .flag true), ("country", .text "gt:US"), ("city", .text "in:,")]

/-- The first trait that is not fit is refused, although the request can be written; the fit one
passes by itself and is read back. -/
theorem strict_filters_country :
    (∃ uris q,
      ofRequest { unfitRequest with traits := [("verified", .flag true)], strict := true } =
        .ok uris ∧
      traitOf? "urn:verify:provider:x:verified:eq:true" (.text "x") = .ok (some q) ∧
      q.isWellTyped = true) ∧
    ∃ uris before t after, ofRequest { unfitRequest with strict := false } = .ok uris ∧
      ofRequest { unfitRequest with strict := true } =
        .error (.unsupportedOperator .gt .text "country" "gt:US") ∧
      unfitRequest.traits = before ++ t :: after ∧ (∀ u ∈ before, IsFit u) ∧
      Unfit t (.unsupportedOperator .gt .text "country" "gt:US") := by
  obtain ⟨hpasses, -⟩ := strict_filters { unfitRequest with traits := [("verified", .flag true)] }
  obtain ⟨-, hrefuses⟩ := strict_filters unfitRequest
  have hfit : ofRequest { unfitRequest with traits := [("verified", .flag true)], strict := true } =
      .ok ["urn:verify:provider:x", "urn:verify:provider:x:verified:eq:true"] := by rfl
  have hwritten : ofRequest { unfitRequest with strict := false } =
      .ok ["urn:verify:provider:x", "urn:verify:provider:x:verified:eq:true",
        "urn:verify:provider:x:country:gt:US", "urn:verify:provider:x:city:in:,"] := by rfl
  have hrefused : ofRequest { unfitRequest with strict := true } =
      .error (.unsupportedOperator .gt .text "country" "gt:US") := by rfl
  obtain ⟨-, hholds⟩ := hpasses _ hfit
  obtain ⟨q, hq, hwell, -⟩ := hholds.reads "x" "verified:eq:true" (by simp) (by decide)
  obtain ⟨-, before, t, after, -, -, htraits, hbefore, ht⟩ := hrefuses _ _ hwritten hrefused
  exact ⟨⟨_, q, hfit, hq, hwell⟩, _, before, t, after, hwritten, hrefused, htraits, hbefore, ht⟩

end Eligibility.Resource
