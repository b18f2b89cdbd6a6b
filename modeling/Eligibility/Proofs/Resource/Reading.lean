import Eligibility.Proofs.Resource.Line
import Eligibility.Resource.Scan
set_option autoImplicit false

/-!
# Resources: what one line says

The reading of a line is cut out in several stages, and what it finds depends on
where the cuts fall.  Here each finding is a question that can be asked of the
line by itself, and a line has a reading exactly if the question of that reading
has its answer.
-/

namespace Eligibility.Resource

open Trait (Fault Requirement)

/-! ## One line -/

/-- The requirement that a line holds of a provider. -/
def traitIn? (p line : String) : Option Requirement :=
  match traitOf? line (.text p) with
  | .ok found => found
  | .error _ => none

/-- The provider that a line names and says nothing more of. -/
def scopeIn? (line : String) : Option String :=
  (Text.after? providerLead line).filter fun p => p ≠ "" ∧ ':' ∉ p.toList

/-- The action that a line asks for. -/
def actionIn? (line : String) : Option String := (Text.after? actionLead line).filter (· ≠ "")

/-- The verification that a line belongs to. -/
def verificationIn? (line : String) : Option String :=
  (Text.after? verificationLead line).filter (· ≠ "")

/-- A line that starts as a resource of this library and does not follow its grammar. -/
def isMalformed (line : String) : Bool :=
  match read line with
  | .ok .malformed => true
  | _ => false

theorem traitIn?_eq_some {p line : String} {r : Requirement} :
    traitIn? p line = some r ↔ traitOf? line (.text p) = .ok (some r) := by
  unfold traitIn?
  split
  · next found h => simp [h]
  · next fault h => simp [h]

theorem scopeIn?_eq_some {line p : String} :
    scopeIn? line = some p ↔ p ≠ "" ∧ ':' ∉ p.toList ∧ line = providerLead ++ p := by
  simp only [scopeIn?, Option.filter_eq_some_iff, Text.after?_eq_some, decide_eq_true_eq]
  constructor
  · rintro ⟨rfl, hne, hc⟩
    exact ⟨hne, hc, rfl⟩
  · rintro ⟨hne, hc, rfl⟩
    exact ⟨rfl, hne, hc⟩

theorem actionIn?_eq_some {line a : String} :
    actionIn? line = some a ↔ a ≠ "" ∧ line = actionLead ++ a := by
  simp only [actionIn?, Option.filter_eq_some_iff, Text.after?_eq_some, decide_eq_true_eq]
  exact and_comm

theorem verificationIn?_eq_some {line v : String} :
    verificationIn? line = some v ↔ v ≠ "" ∧ line = verificationLead ++ v := by
  simp only [verificationIn?, Option.filter_eq_some_iff, Text.after?_eq_some, decide_eq_true_eq]
  exact and_comm

/-! ## Reading a line -/

theorem after?_append (lead rest : String) : Text.after? lead (lead ++ rest) = some rest :=
  Text.after?_eq_some.mpr rfl

theorem after?_providerLead_actionLead (a : String) :
    Text.after? providerLead (actionLead ++ a) = none := by
  simp [Text.after?, providerLead, actionLead, Text.afterList?]

theorem after?_providerLead_verificationLead (v : String) :
    Text.after? providerLead (verificationLead ++ v) = none := by
  simp [Text.after?, providerLead, verificationLead, Text.afterList?]

theorem after?_actionLead_verificationLead (v : String) :
    Text.after? actionLead (verificationLead ++ v) = none := by
  simp [Text.after?, actionLead, verificationLead, Text.afterList?]

theorem read_providerLead (rest : String) :
    read (providerLead ++ rest) = readProvider (providerLead ++ rest) rest := by
  simp [read, after?_append]

theorem read_actionLead (a : String) :
    read (actionLead ++ a) = .ok (if a.isEmpty then .malformed else .action a) := by
  simp [read, after?_append, after?_providerLead_actionLead]

theorem read_verificationLead (v : String) :
    read (verificationLead ++ v) = .ok (if v.isEmpty then .malformed else .verification v) := by
  simp [read, after?_append, after?_providerLead_verificationLead,
    after?_actionLead_verificationLead]

/-- Every line starts as a provider line, an action line or a verification line, or is foreign. -/
theorem lead_cases (line : String) :
    (∃ rest, line = providerLead ++ rest) ∨ (∃ a, line = actionLead ++ a) ∨
      (∃ v, line = verificationLead ++ v) ∨ read line = .ok .foreign := by
  cases hp : Text.after? providerLead line with
  | some rest => exact .inl ⟨rest, Text.after?_eq_some.mp hp⟩
  | none =>
    cases ha : Text.after? actionLead line with
    | some a => exact .inr (.inl ⟨a, Text.after?_eq_some.mp ha⟩)
    | none =>
      cases hv : Text.after? verificationLead line with
      | some v => exact .inr (.inr (.inl ⟨v, Text.after?_eq_some.mp hv⟩))
      | none => exact .inr (.inr (.inr (by simp [read, hp, ha, hv])))

/-- A provider line says that it is malformed, names its provider, or holds a trait of it. -/
theorem readProvider_cases {line rest : String} {reading : Reading}
    (h : readProvider line rest = .ok reading) :
    reading = .malformed ∨ reading = .foreign ∨
      (∃ p, reading = .scope p ∧ p ≠ "" ∧ ':' ∉ p.toList ∧ rest = p) ∨
      (∃ p r, reading = .trait p r ∧ traitOf? line (.text p) = .ok (some r)) := by
  unfold readProvider at h
  split at h
  next p tail hcut =>
  split at h
  · exact .inl (Except.ok.inj h).symm
  · next hp =>
    split at h
    · next htail =>
      obtain rfl := Option.isNone_iff_eq_none.mp htail
      obtain ⟨hcolon, rfl⟩ := Text.cutAt_eq_none.mp hcut
      exact .inr (.inr (.inl ⟨p, (Except.ok.inj h).symm, by simpa using hp, hcolon, rfl⟩))
    · split at h
      · next r hr => exact .inr (.inr (.inr ⟨p, r, (Except.ok.inj h).symm, hr⟩))
      · exact .inr (.inl (Except.ok.inj h).symm)
      · split at h
        · exact .inl (Except.ok.inj h).symm
        · simp at h

/-- Everything that a line can say, with the question about the line alone that it answers. -/
theorem read_cases {line : String} {reading : Reading} (h : read line = .ok reading) :
    reading = .malformed ∨ reading = .foreign ∨
      (∃ p, reading = .scope p ∧ scopeIn? line = some p) ∨
      (∃ p r, reading = .trait p r ∧ traitIn? p line = some r) ∨
      (∃ a, reading = .action a ∧ actionIn? line = some a) ∨
      (∃ v, reading = .verification v ∧ verificationIn? line = some v) := by
  rcases lead_cases line with ⟨rest, rfl⟩ | ⟨a, rfl⟩ | ⟨v, rfl⟩ | hf
  · rw [read_providerLead] at h
    rcases readProvider_cases h with hr | hr | ⟨p, hr, hne, hc, rfl⟩ | ⟨p, r, hr, ht⟩
    · exact .inl hr
    · exact .inr (.inl hr)
    · exact .inr (.inr (.inl ⟨_, hr, scopeIn?_eq_some.mpr ⟨hne, hc, rfl⟩⟩))
    · exact .inr (.inr (.inr (.inl ⟨p, r, hr, traitIn?_eq_some.mpr ht⟩)))
  · rw [read_actionLead] at h
    split at h
    · exact .inl (Except.ok.inj h).symm
    · next hne =>
      have ha : actionIn? (actionLead ++ a) = some a :=
        actionIn?_eq_some.mpr ⟨by simpa using hne, rfl⟩
      exact .inr (.inr (.inr (.inr (.inl ⟨a, (Except.ok.inj h).symm, ha⟩))))
  · rw [read_verificationLead] at h
    split at h
    · exact .inl (Except.ok.inj h).symm
    · next hne =>
      have hv : verificationIn? (verificationLead ++ v) = some v :=
        verificationIn?_eq_some.mpr ⟨by simpa using hne, rfl⟩
      exact .inr (.inr (.inr (.inr (.inr ⟨v, (Except.ok.inj h).symm, hv⟩))))
  · rw [hf] at h
    exact .inr (.inl (Except.ok.inj h).symm)

theorem read_eq_trait {line p : String} {r : Requirement} :
    read line = .ok (.trait p r) ↔ traitIn? p line = some r := by
  constructor
  · intro h
    rcases read_cases h with hr | hr | ⟨_, hr, -⟩ | ⟨q, s, hr, ht⟩ | ⟨_, hr, -⟩ | ⟨_, hr, -⟩ <;>
      simp only [reduceCtorEq, Reading.trait.injEq] at hr
    rw [hr.1, hr.2]
    exact ht
  · intro h
    have htrait := traitIn?_eq_some.mp h
    obtain ⟨hp, -, -, rfl⟩ := traitOf?_eq_some.mp htrait
    have hl : traitLine p r = providerLead ++ (p ++ ":" ++ r.encode) := by
      simp [traitLine, String.append_assoc]
    have hcut : Text.cutAt ':' (p ++ ":" ++ r.encode) = (p, some r.encode) :=
      Text.cutAt_eq_some.mpr ⟨hp.noColon, by simp⟩
    rw [hl, read_providerLead, ← hl]
    simp [readProvider, hcut, hp.ne_empty, htrait]

theorem read_eq_scope {line p : String} :
    read line = .ok (.scope p) ↔ scopeIn? line = some p := by
  constructor
  · intro h
    rcases read_cases h with hr | hr | ⟨q, hr, hs⟩ | ⟨_, _, hr, -⟩ | ⟨_, hr, -⟩ | ⟨_, hr, -⟩ <;>
      simp only [reduceCtorEq, Reading.scope.injEq] at hr
    rw [hr]
    exact hs
  · intro h
    obtain ⟨hne, hc, rfl⟩ := scopeIn?_eq_some.mp h
    have hcut : Text.cutAt ':' p = (p, none) := Text.cutAt_eq_none.mpr ⟨hc, rfl⟩
    simp [read_providerLead, readProvider, hcut, hne]

theorem read_eq_action {line a : String} :
    read line = .ok (.action a) ↔ actionIn? line = some a := by
  constructor
  · intro h
    rcases read_cases h with hr | hr | ⟨_, hr, -⟩ | ⟨_, _, hr, -⟩ | ⟨b, hr, ha⟩ | ⟨_, hr, -⟩ <;>
      simp only [reduceCtorEq, Reading.action.injEq] at hr
    rw [hr]
    exact ha
  · intro h
    obtain ⟨hne, rfl⟩ := actionIn?_eq_some.mp h
    simp [read_actionLead, hne]

theorem read_eq_verification {line v : String} :
    read line = .ok (.verification v) ↔ verificationIn? line = some v := by
  constructor
  · intro h
    rcases read_cases h with hr | hr | ⟨_, hr, -⟩ | ⟨_, _, hr, -⟩ | ⟨_, hr, -⟩ | ⟨w, hr, hv⟩ <;>
      simp only [reduceCtorEq, Reading.verification.injEq] at hr
    rw [hr]
    exact hv
  · intro h
    obtain ⟨hne, rfl⟩ := verificationIn?_eq_some.mp h
    simp [read_verificationLead, hne]

end Eligibility.Resource
