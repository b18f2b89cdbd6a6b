import Eligibility.Proofs.Trait.Implication
set_option autoImplicit false

/-!
# Traits: strictness as an order

Every well-typed requirement is as strict as itself, and a chain of two comparisons
gives the third one, except where the spelling of a number comes in between.  An
equality is met by every spelling of its number, but it meets a choice by its own
spelling, so 007 meets 7, 7 meets the choice of 7, and 007 does not meet that choice.
Towards an equality or a bound strictness is implication, which chains by itself;
what needs an argument is a choice at the end of the chain.
-/

namespace Eligibility.Trait

/-- Only the text `true` or `false` is read as a truth value. -/
theorem eq_of_readSingle_boolean {s : String} {b : Bool} (h : readSingle s = .ok (.boolean b)) :
    s = if b then "true" else "false" := by
  unfold readSingle at h
  split at h
  · next hs =>
    have hb : true = b := Value.boolean.inj (Except.ok.inj h)
    rw [← hb]
    exact hs
  · split at h
    · next hs =>
      have hb : false = b := Value.boolean.inj (Except.ok.inj h)
      rw [← hb]
      exact hs
    · split at h
      · split at h <;> simp at h
      · simp at h

namespace Requirement

/-- Two equalities to one whole number that write it in different ways. -/
structure Respells (r s : Requirement) : Prop where
  operators : r.operator = .eq ∧ s.operator = .eq
  number : ∃ n, r.value = .integer n ∧ s.value = .integer n
  text : r.text ≠ s.text

variable {found between expected : Requirement}

/-- Two equalities to one value that are written differently respell a number: a truth value and a
text have one spelling. -/
theorem respells_of_ne (hf : found.isWellTyped = true) (hfo : found.operator = .eq)
    (hbo : between.operator = .eq) (hvalue : found.value = between.value)
    (htext : found.text ≠ between.text) : found.Respells between := by
  refine ⟨⟨hfo, hbo⟩, ?_, htext⟩
  rcases cases_of_isWellTyped hf with ⟨-, v, hv⟩ | ⟨hb, -⟩ | ⟨ho, -⟩
  · cases v with
    | integer n => exact ⟨n, hv, hvalue ▸ hv⟩
    | boolean b =>
      have hspell : ∀ r : Requirement, r.operator = .eq → r.value = .boolean b →
          r.text = if b then "true" else "false" := by
        intro r ho hr
        have hreads := r.reads
        rw [ho, hr, Value.read_of_ne_oneOf r.text (by decide)] at hreads
        exact eq_of_readSingle_boolean hreads
      have hsame := (hspell found hfo hv).trans (hspell between hbo (hvalue ▸ hv)).symm
      exact absurd hsame htext
    | text s =>
      have hkind : found.value.kind = .text := by rw [hv]; rfl
      have hsame : Value.text found.text = .text between.text := by
        rw [← value_eq_text hkind, ← value_eq_text (hvalue ▸ hkind), hvalue]
      exact absurd (Value.text.inj hsame) htext
  · simp [hfo, Operator.isBound] at hb
  · simp [hfo] at ho

/-- What is as strict as an equality is an equality to the same value. -/
theorem eq_of_atLeastAsStrict (ho : expected.operator = .eq)
    (h : found.atLeastAsStrict expected = true) :
    found.operator = .eq ∧ found.value = expected.value := by
  simpa [atLeastAsStrict, ho] using h

/-- What is as strict as a bound is no choice. -/
theorem ne_oneOf_of_atLeastAsStrict (ho : expected.operator.isBound = true)
    (h : found.atLeastAsStrict expected = true) : found.operator ≠ .oneOf := by
  intro hfo
  have hbounds : found.bounds? = none := by
    unfold bounds?
    split <;> simp [hfo]
  have hmet : expected.boundMetBy found = false := by
    unfold boundMetBy
    rw [hbounds]
    cases expected.bounds? <;> rfl
  rw [atLeastAsStrict_of_isBound ho, hmet] at h
  exact Bool.false_ne_true h

/-- What is as strict as a choice is a narrower choice, or an equality whose text is in it. -/
theorem items_of_atLeastAsStrict (ho : expected.operator = .oneOf)
    (h : found.atLeastAsStrict expected = true) :
    found.operator = .eq ∧ found.text ∈ choiceItems expected.text ∨
    found.operator = .oneOf ∧ ∀ s ∈ choiceItems found.text, s ∈ choiceItems expected.text := by
  obtain ⟨-, hc⟩ := Value.read_oneOf (ho ▸ expected.reads)
  by_cases hfo : found.operator = .oneOf
  · obtain ⟨-, hfc⟩ := Value.read_oneOf (hfo ▸ found.reads)
    refine .inr ⟨hfo, ?_⟩
    simpa [atLeastAsStrict, ho, choiceMetBy, hc, hfo, hfc, Choice.isWithin_iff] using h
  · have heq : found.operator = .eq := by
      simp only [atLeastAsStrict, ho, choiceMetBy, hc] at h
      split at h <;> simp_all
    exact .inl ⟨heq, (atLeastAsStrict_oneOf_of_eq ho heq).mp h⟩

/-- A choice takes every narrower choice. -/
theorem atLeastAsStrict_of_items (hfo : found.operator = .oneOf) (ho : expected.operator = .oneOf)
    (h : ∀ s ∈ choiceItems found.text, s ∈ choiceItems expected.text) :
    found.atLeastAsStrict expected = true := by
  obtain ⟨-, hc⟩ := Value.read_oneOf (ho ▸ expected.reads)
  obtain ⟨-, hfc⟩ := Value.read_oneOf (hfo ▸ found.reads)
  simpa [atLeastAsStrict, ho, choiceMetBy, hc, hfo, hfc, Choice.isWithin_iff] using h

/-! ## Chains -/

/-- Towards an equality the value is handed down the chain. -/
theorem trans_eq (ho : expected.operator = .eq) (h : found.atLeastAsStrict between = true)
    (h' : between.atLeastAsStrict expected = true) : found.atLeastAsStrict expected = true := by
  obtain ⟨hbo, hbv⟩ := eq_of_atLeastAsStrict ho h'
  obtain ⟨hfo, hfv⟩ := eq_of_atLeastAsStrict hbo h
  simp [atLeastAsStrict, ho, hfo, hfv, hbv]

/-- Towards a bound every step of the chain is an implication. -/
theorem trans_bound (hf : found.isWellTyped = true) (hb : between.isWellTyped = true)
    (he : expected.isWellTyped = true) (ho : expected.operator.isBound = true)
    (h : found.atLeastAsStrict between = true) (h' : between.atLeastAsStrict expected = true) :
    found.atLeastAsStrict expected = true := by
  have hsecond : between.Implies expected := (atLeastAsStrict_bound hb he ho).mp h'
  have hfirst : found.Implies between := by
    rcases cases_of_isWellTyped hb with ⟨hbo, -⟩ | ⟨hbound, -⟩ | ⟨hbo, -⟩
    · obtain ⟨hfo, -⟩ := eq_of_atLeastAsStrict hbo h
      exact (atLeastAsStrict_eq hf hbo (by simp [hfo])).mp h
    · exact (atLeastAsStrict_bound hf hb hbound).mp h
    · exact absurd hbo (ne_oneOf_of_atLeastAsStrict ho h')
  exact (atLeastAsStrict_bound hf he ho).mpr fun v hv => hsecond v (hfirst v hv)

/-- Towards a choice the texts are handed down the chain, but an equality in between may be met by
another spelling of its number, which the choice need not hold. -/
theorem trans_oneOf (hf : found.isWellTyped = true) (ho : expected.operator = .oneOf)
    (h : found.atLeastAsStrict between = true) (h' : between.atLeastAsStrict expected = true) :
    found.atLeastAsStrict expected = true ↔
      ¬(found.Respells between ∧ found.text ∉ choiceItems expected.text) := by
  rcases items_of_atLeastAsStrict ho h' with ⟨hbo, hbtext⟩ | ⟨hbo, hwithin⟩
  · obtain ⟨hfo, hvalue⟩ := eq_of_atLeastAsStrict hbo h
    rw [atLeastAsStrict_oneOf_of_eq ho hfo]
    constructor
    · rintro hmem ⟨-, hnot⟩
      exact hnot hmem
    · intro hspelt
      by_cases htext : found.text = between.text
      · rw [htext]
        exact hbtext
      · have hrespells := respells_of_ne hf hfo hbo hvalue htext
        exact Decidable.byContradiction fun hnot => hspelt ⟨hrespells, hnot⟩
  · have hmet : found.atLeastAsStrict expected = true := by
      rcases items_of_atLeastAsStrict hbo h with ⟨hfo, hftext⟩ | ⟨hfo, hfwithin⟩
      · exact (atLeastAsStrict_oneOf_of_eq ho hfo).mpr (hwithin _ hftext)
      · exact atLeastAsStrict_of_items hfo ho fun s hs => hwithin s (hfwithin s hs)
    have hchoice : ¬(found.Respells between ∧ found.text ∉ choiceItems expected.text) := by
      rintro ⟨hrespells, -⟩
      simp [hrespells.operators.2] at hbo
    exact iff_of_true hmet hchoice

/-- Strictness is reflexive, and it is transitive but for one kind of chain: two spellings of a
number in front of a choice that holds the second spelling and not the first. -/
theorem atLeastAsStrict_refl_and_trans_iff (hf : found.isWellTyped = true)
    (hb : between.isWellTyped = true) (he : expected.isWellTyped = true) :
    found.atLeastAsStrict found = true ∧
    (found.atLeastAsStrict between = true → between.atLeastAsStrict expected = true →
      (found.atLeastAsStrict expected = true ↔
        ¬(expected.operator = .oneOf ∧ found.Respells between ∧
          found.text ∉ choiceItems expected.text))) := by
  refine ⟨atLeastAsStrict_refl hf, ?_⟩
  intro h h'
  rcases cases_of_isWellTyped he with ⟨ho, -⟩ | ⟨hbound, -⟩ | ⟨ho, -⟩
  · exact iff_of_true (trans_eq ho h h') (by simp [ho])
  · have hne : expected.operator ≠ .oneOf := fun ho => by simp [ho, Operator.isBound] at hbound
    exact iff_of_true (trans_bound hf hb he hbound h h') (by simp [hne])
  · simpa [ho] using trans_oneOf hf ho h h'

/-- The number seven, in two spellings. -/
def seven : Requirement := ⟨"level", .eq, "7", .integer 7, rfl⟩

/-- The number seven behind zeros. -/
def paddedSeven : Requirement := ⟨"level", .eq, "007", .integer 7, rfl⟩

/-- A bound looks at the number only, so the chain over another spelling holds. -/
theorem paddedSeven_atLeastAsStrict_bound :
    ∃ bound : Requirement, parse "level" (.text "lt:8") = .ok bound ∧
      paddedSeven.Respells seven ∧ paddedSeven.atLeastAsStrict bound = true := by
  have hrespells : paddedSeven.Respells seven := ⟨⟨rfl, rfl⟩, ⟨7, rfl, rfl⟩, by decide⟩
  obtain ⟨-, hchain⟩ := @atLeastAsStrict_refl_and_trans_iff paddedSeven seven
    ⟨"level", .lt, "8", .integer 8, rfl⟩ rfl rfl rfl
  exact ⟨⟨"level", .lt, "8", .integer 8, rfl⟩, rfl, hrespells, (hchain rfl rfl).mpr (by simp)⟩

/-- Strictness is not transitive: 007 meets 7 and 7 meets the choice of 7, but 007 does not. -/
theorem not_atLeastAsStrict_trans :
    ∃ found between expected : Requirement,
      parse "level" (.text "007") = .ok found ∧ parse "level" (.text "7") = .ok between ∧
      parse "level" (.text "in:7") = .ok expected ∧ found.isWellTyped = true ∧
      between.isWellTyped = true ∧ expected.isWellTyped = true ∧
      found.atLeastAsStrict between = true ∧ between.atLeastAsStrict expected = true ∧
      found.atLeastAsStrict expected = false := by
  have hchoice : Value.read .oneOf "7" = .ok (.choice (Choice.ofList ["7"])) := by rfl
  exact ⟨paddedSeven, seven, ⟨"level", .oneOf, "7", .choice (Choice.ofList ["7"]), hchoice⟩,
    rfl, rfl, rfl, rfl, rfl, rfl, rfl, rfl, by rfl⟩

end Requirement

end Eligibility.Trait
