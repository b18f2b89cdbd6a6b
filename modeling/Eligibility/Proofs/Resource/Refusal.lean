import Eligibility.Proofs.Resource.Findings
import Eligibility.Proofs.Resource.RoundTrip
set_option autoImplicit false

/-!
# Resources: lines that cannot be read

A scan steps over a line that does not follow the grammar and keeps it as malformed.
One fault is not of the grammar and ends the scan: a trait line that is well formed but
whose value is a whole number with more digits than are read.  Without such a line every
statement with a text is scanned, whatever its lines say.
-/

namespace Eligibility.Resource

open Trait (Fault Raw Requirement Operator IsToken IsOverlong)

/-! ## One line -/

/-- A trait after its scope whose value is a whole number of `count` digits, more than are read. -/
def IsOverlongBody (body : String) (count : Nat) : Prop :=
  ∃ name operator text, IsToken name ∧ operator ≠ Operator.oneOf ∧ IsOverlong text count ∧
    body = name ++ ":" ++ operator.text ++ ":" ++ text

/-- A trait line whose value is a whole number of `count` digits, more than are read. -/
def IsOverlongLine (line : String) (count : Nat) : Prop :=
  ∃ p body, IsToken p ∧ IsOverlongBody body count ∧ line = providerLead ++ p ++ ":" ++ body

theorem isGrammar_of_uriText {label : String} {given : Json} {fault : Fault}
    (h : Trait.uriText label given = .error fault) : fault.isGrammar = true := by
  unfold Trait.uriText at h
  split at h
  · split at h
    · rw [← Except.error.inj h]
      rfl
    · split at h
      · simp at h
      · rw [← Except.error.inj h]
        rfl
  · rw [← Except.error.inj h]
    rfl

theorem isGrammar_of_token {label : String} {given : Json} {fault : Fault}
    (h : Trait.token label given = .error fault) : fault.isGrammar = true := by
  rcases Outcome.bind_eq_error.mp h with h | ⟨s, -, h⟩
  · exact isGrammar_of_uriText h
  · split at h
    · rw [← Except.error.inj h]
      rfl
    · exact absurd h Outcome.pure_ne_error

theorem isGrammar_of_provider {given : Json} {fault : Fault} (h : provider given = .error fault) :
    fault.isGrammar = true := by
  rcases Outcome.bind_eq_error.mp h with h | ⟨p, -, h⟩
  · exact isGrammar_of_token h
  · exact absurd h Outcome.pure_ne_error

theorem readTrait_of_overlong {line body : String} {count : Nat} (h : IsOverlongBody body count) :
    readTrait line body = .error (.tooManyDigits count) := by
  obtain ⟨name, operator, text, hname, hoperator, htext, rfl⟩ := h
  have hread : Requirement.read name operator text = .error (.tooManyDigits count) :=
    Trait.Requirement.read_eq_error.mpr
      (Trait.Value.read_eq_error.mpr (.inr ⟨hoperator, count, rfl, htext⟩))
  rw [readTrait_encoded hname htext.isPathText, hread]
  rfl

/-- A trait that cannot be read does not follow the grammar, or is overlong. -/
theorem readTrait_error_cases {line body : String} {fault : Fault}
    (h : readTrait line body = .error fault) :
    fault.isGrammar = true ∨ ∃ count, fault = .tooManyDigits count ∧ IsOverlongBody body count := by
  have hline : ∀ why, .error (.malformedLine line why) = (.error fault : Except Fault Requirement) →
      fault.isGrammar = true := by
    intro why heq
    rw [← Except.error.inj heq]
    rfl
  unfold readTrait at h
  split at h
  · exact .inl (hline _ h)
  · next name word text hparts =>
    obtain ⟨hname, -, rfl⟩ := traitParts?_eq_some.mp hparts
    split at h
    · exact .inl (hline _ h)
    · split at h
      · exact .inl (hline _ h)
      · next operator hop =>
        split at h
        · exact .inl (hline _ h)
        · split at h
          · exact .inl (hline _ h)
          · next hpath =>
            simp only [Bool.or_eq_true, Bool.not_eq_true', not_or, Bool.not_eq_false] at hpath
            split at h
            · exact .inl (hline _ h)
            · rcases Trait.Value.read_eq_error.mp (Requirement.read_eq_error.mp h) with
                ⟨-, -, rfl⟩ | ⟨hoperator, count, rfl, htext⟩
              · exact .inl rfl
              · obtain rfl := Operator.text_of_ofText? hop
                refine .inr ⟨count, rfl, name, operator, text, ⟨hpath.1, hname⟩, hoperator, htext,
                  ?_⟩
                simp [String.append_assoc]

/-- A line that a provider cannot read does not follow the grammar, or is overlong. -/
theorem traitOf?_error_cases {line p : String} {fault : Fault}
    (h : traitOf? line (.text p) = .error fault) :
    fault.isGrammar = true ∨ ∃ count, fault = .tooManyDigits count ∧ IsOverlongLine line count := by
  rcases Outcome.bind_eq_error.mp h with h | ⟨scope, hscope, h⟩
  · exact .inl (isGrammar_of_provider h)
  · obtain ⟨_, ⟨⟩, hp, rfl⟩ := provider_eq_ok.mp hscope
    split at h
    · exact absurd h Outcome.pure_ne_error
    · next body hafter =>
      obtain rfl := Text.after?_eq_some.mp hafter
      rcases Outcome.bind_eq_error.mp h with h | ⟨r, -, h⟩
      · rcases readTrait_error_cases h with hgrammar | ⟨count, rfl, hbody⟩
        · exact .inl hgrammar
        · exact .inr ⟨count, rfl, p, body, hp, hbody, rfl⟩
      · exact absurd h Outcome.pure_ne_error

/-- What a provider finds in a line of its own scope is a requirement or a fault. -/
theorem traitOf?_ne_none (p body : String) :
    traitOf? (providerLead ++ p ++ ":" ++ body) (.text p) ≠ .ok none := by
  intro h
  by_cases hp : IsToken p
  · rw [traitOf?_scoped hp] at h
    simp at h
  · simp only [traitOf?, Outcome.bind_eq_ok, provider_eq_ok, Json.text.injEq] at h
    obtain ⟨_, ⟨_, rfl, htoken, -⟩, -⟩ := h
    exact hp htoken

/-! ## Reading a line -/

/-- A line of a provider's scope is read as what the provider finds in it. -/
theorem read_scoped {p : String} (hne : p ≠ "") (hcolon : ':' ∉ p.toList) (body : String) :
    read (providerLead ++ p ++ ":" ++ body) =
      match traitOf? (providerLead ++ p ++ ":" ++ body) (.text p) with
      | .ok (some r) => .ok (.trait p r)
      | .ok none => .ok .foreign
      | .error fault => if fault.isGrammar then .ok .malformed else .error fault := by
  have hl : providerLead ++ p ++ ":" ++ body = providerLead ++ (p ++ ":" ++ body) := by
    simp [String.append_assoc]
  have hcut : Text.cutAt ':' (p ++ ":" ++ body) = (p, some body) :=
    Text.cutAt_eq_some.mpr ⟨hcolon, by simp⟩
  have hempty : p.isEmpty = false := by simpa using hne
  rw [hl, read_providerLead, ← hl]
  cases htrait : traitOf? (providerLead ++ p ++ ":" ++ body) (.text p) with
  | error fault => simp [readProvider, hcut, hempty, htrait]
  | ok found => cases found <;> simp [readProvider, hcut, hempty, htrait]

/-- A line in the scope of no provider is malformed. -/
theorem read_unscoped (body : String) :
    read (providerLead ++ "" ++ ":" ++ body) = .ok .malformed := by
  have hl : providerLead ++ "" ++ ":" ++ body = providerLead ++ (":" ++ body) := by
    simp [String.append_assoc]
  have hcut : Text.cutAt ':' (":" ++ body) = ("", some body) :=
    Text.cutAt_eq_some.mpr ⟨by simp, by simp⟩
  rw [hl, read_providerLead]
  simp only [readProvider, hcut]
  rfl

theorem read_of_overlong {line : String} {count : Nat} (h : IsOverlongLine line count) :
    read line = .error (.tooManyDigits count) := by
  obtain ⟨p, body, hp, hbody, rfl⟩ := h
  rw [read_scoped hp.ne_empty hp.noColon, traitOf?_scoped hp, readTrait_of_overlong hbody]
  rfl

/-- The only lines that cannot be read are the overlong ones. -/
theorem read_eq_error {line : String} {fault : Fault} :
    read line = .error fault ↔
      ∃ count, fault = .tooManyDigits count ∧ IsOverlongLine line count := by
  constructor
  · intro h
    rcases lead_cases line with ⟨rest, rfl⟩ | ⟨a, rfl⟩ | ⟨v, rfl⟩ | hforeign
    · rw [read_providerLead, readProvider] at h
      split at h
      next p tail hcut =>
      split at h
      · simp at h
      · split at h
        · simp at h
        · split at h
          · simp at h
          · simp at h
          · next fault' htrait =>
            split at h
            · simp at h
            · next hgrammar =>
              obtain rfl := Except.error.inj h
              exact (traitOf?_error_cases htrait).resolve_left hgrammar
    · simp [read_actionLead] at h
    · simp [read_verificationLead] at h
    · simp [hforeign] at h
  · intro h
    obtain ⟨count, rfl, hline⟩ := h
    exact read_of_overlong hline

theorem exists_read {line : String} :
    (∃ reading, read line = .ok reading) ↔ ∀ count, ¬ IsOverlongLine line count := by
  constructor
  · intro h count hline
    obtain ⟨reading, hread⟩ := h
    simp [read_of_overlong hline] at hread
  · intro h
    cases hread : read line with
    | ok reading => exact ⟨reading, rfl⟩
    | error fault =>
      obtain ⟨count, -, hline⟩ := read_eq_error.mp hread
      exact absurd hline (h count)

/-- A trait line is malformed exactly if its provider finds no requirement in it. -/
theorem isMalformed_scoped {p body : String} (hcolon : ':' ∉ p.toList)
    (hread : ∀ count, ¬ IsOverlongLine (providerLead ++ p ++ ":" ++ body) count) :
    isMalformed (providerLead ++ p ++ ":" ++ body) = true ↔
      ∀ r, traitOf? (providerLead ++ p ++ ":" ++ body) (.text p) ≠ .ok (some r) := by
  unfold isMalformed
  by_cases hp : p = ""
  · subst hp
    rw [read_unscoped]
    simp only [true_iff]
    intro r hr
    exact (traitOf?_eq_some.mp hr).1.ne_empty rfl
  · rw [read_scoped hp hcolon]
    cases htrait : traitOf? (providerLead ++ p ++ ":" ++ body) (.text p) with
    | ok found =>
      cases found with
      | none => exact absurd htrait (traitOf?_ne_none p body)
      | some r => simp
    | error fault =>
      rcases traitOf?_error_cases htrait with hgrammar | ⟨count, -, hline⟩
      · simp [hgrammar]
      · exact absurd hline (hread count)

/-! ## Scanning a statement -/

/-- Lines are gathered exactly if none of them is overlong. -/
theorem exists_gather {lines : List String} :
    (∃ f, gather lines = .ok f) ↔ ∀ line ∈ lines, ∀ count, ¬ IsOverlongLine line count := by
  unfold gather readAll
  rw [Outcome.exists_bind_pure, Outcome.exists_mapM_ok]
  simp only [Outcome.exists_bind_pure, exists_read]

/-- A fault that ends a scan is that of an overlong line. -/
theorem overlong_of_gather {lines : List String} {fault : Fault}
    (h : gather lines = .error fault) :
    ∃ line ∈ lines, ∃ count, fault = .tooManyDigits count ∧ IsOverlongLine line count := by
  rcases Outcome.bind_eq_error.mp h with h | ⟨readings, -, h⟩
  · obtain ⟨line, hline, hread⟩ := Outcome.exists_item_of_mapM_error h
    rcases Outcome.bind_eq_error.mp hread with hread | ⟨reading, -, hread⟩
    · exact ⟨line, hline, read_eq_error.mp hread⟩
    · exact absurd hread Outcome.pure_ne_error
  · exact absurd h Outcome.pure_ne_error

theorem scan_of_text {message : String} (h : Text.isBlankText message = false) :
    scan message = (gather (linesOf message)).mapError .trait := by
  rw [scan, linesOfStatement_eq_ok h]
  rfl

/-- How a scan deals with a statement that is not as it should be: it is refused for want of a text,
an overlong line ends it, and any other trait line without a trait is kept as malformed. -/
structure StepsOver (message : String) : Prop where
  blank : scan message = .error .blank ↔ Text.isBlankText message = true
  scans : (∃ f, scan message = .ok f) ↔
    Text.isBlankText message = false ∧
      ∀ line ∈ linesOf message, ∀ count, ¬ IsOverlongLine line count
  /-- Nothing else ends a scan. -/
  fault : ∀ fault, scan message = .error (.trait fault) →
    ∃ line ∈ linesOf message, ∃ count, fault = .tooManyDigits count ∧ IsOverlongLine line count
  malformed : ∀ f, scan message = .ok f → ∀ p body, ':' ∉ p.toList →
    providerLead ++ p ++ ":" ++ body ∈ linesOf message →
    (providerLead ++ p ++ ":" ++ body ∈ f.malformed ↔
      ∀ r, traitOf? (providerLead ++ p ++ ":" ++ body) (.text p) ≠ .ok (some r))

theorem scan_eq_blank {message : String} :
    scan message = .error .blank ↔ Text.isBlankText message = true := by
  constructor
  · intro h
    cases hblank : Text.isBlankText message with
    | true => rfl
    | false =>
      rw [scan_of_text hblank] at h
      cases hgather : gather (linesOf message) <;> simp [hgather, Except.mapError] at h
  · exact scan_blank

theorem traitsIn_eq_blank {message provider : String} :
    traitsIn message provider = .error .blank ↔ Text.isBlankText message = true := by
  rw [← scan_eq_blank, traitsIn, Outcome.bind_eq_error]
  simp only [Outcome.pure_ne_error, and_false, exists_false, or_false]

theorem exists_scan {message : String} : (∃ f, scan message = .ok f) ↔
    Text.isBlankText message = false ∧
      ∀ line ∈ linesOf message, ∀ count, ¬ IsOverlongLine line count := by
  rw [← exists_gather]
  simp only [scan_eq_ok]
  constructor
  · intro h
    obtain ⟨f, hblank, hf⟩ := h
    exact ⟨hblank, f, hf⟩
  · intro h
    obtain ⟨hblank, f, hf⟩ := h
    exact ⟨f, hblank, hf⟩

theorem stepsOver (message : String) : StepsOver message where
  blank := scan_eq_blank
  scans := exists_scan
  fault := by
    intro fault h
    cases hblank : Text.isBlankText message with
    | true => simp [scan_blank hblank] at h
    | false =>
      rw [scan_of_text hblank] at h
      cases hgather : gather (linesOf message) with
      | ok f => simp [hgather, Except.mapError] at h
      | error cause =>
        rw [hgather] at h
        obtain rfl : cause = fault := by simpa [Except.mapError] using h
        exact overlong_of_gather hgather
  malformed := by
    intro f hf p body hcolon hmem
    have hread := (exists_scan.mp ⟨f, hf⟩).2 _ hmem
    rw [malformed_of_gather (scan_eq_ok.mp hf).2, List.mem_filter, isMalformed_scoped hcolon hread]
    exact and_iff_right hmem

end Eligibility.Resource
