import Eligibility.Trait.Strictness
set_option autoImplicit false

/-!
# Traits: strictness is implication

A requirement stands for the set of single values that meet it.  The comparison
of requirements never looks at that set; it compares typed values, the ends of
intervals and lists of texts.  This module gives requirements their meaning,
`Requirement.Admits`, which mentions none of these, and shows that the comparison
decides inclusion.  It departs from inclusion in two places only: a choice never
meets an equality, and a truth value or a number meets a choice by its text.
-/

namespace Eligibility.Trait

/-! ## The meaning of a requirement -/

/-- A single value, which is what an account has of a trait. -/
inductive Single where
  | boolean (b : Bool)
  | integer (n : Int)
  | text (s : String)
  deriving DecidableEq, Repr

/-- The single value as the value of a requirement. -/
def Single.toValue : Single → Value
  | boolean b => .boolean b
  | integer n => .integer n
  | text s => .text s

theorem Single.toValue_inj {v w : Single} (h : v.toValue = w.toValue) : v = w := by
  cases v <;> cases w <;> simp_all [Single.toValue]

namespace Requirement

/-- A single value meets the requirement.  An equality is met by the one value of the same kind, a
bound by numbers and a choice by texts. -/
def Admits (r : Requirement) (v : Single) : Prop :=
  match r.operator, r.value, v with
  | .eq, value, v => v.toValue = value
  | .gt, .integer n, .integer m => n < m
  | .gte, .integer n, .integer m => n ≤ m
  | .lt, .integer n, .integer m => m < n
  | .lte, .integer n, .integer m => m ≤ n
  | .oneOf, .choice c, .text s => c.contains s = true
  | _, _, _ => False

/-- Every value that meets the one requirement meets the other. -/
def Implies (found expected : Requirement) : Prop := ∀ v, found.Admits v → expected.Admits v

end Requirement

/-! ## Intervals -/

namespace Bounds

/-- The lower end of an interval that holds a number can be told from its numbers: it is one of
them, and without it a number below any other end is. -/
theorem lowWithin_iff {inner : Bounds} {n : Int} (hn : inner.Mem n) (outer : Bounds) :
    inner.lowWithin outer = true ↔ ∀ m, inner.Mem m → ∀ l ∈ outer.low, l ≤ m := by
  obtain ⟨il, ih⟩ := inner
  obtain ⟨ol, oh⟩ := outer
  cases ol with
  | none => simp [lowWithin]
  | some l =>
    cases il with
    | none =>
      simp only [lowWithin, Bool.false_eq_true, false_iff]
      intro h
      have hmem : (Bounds.mk none ih).Mem (min n (l - 1)) := by
        refine ⟨by simp, ?_⟩
        intro u hu
        have hle := hn.2 u hu
        omega
      have hle := h _ hmem l rfl
      omega
    | some a =>
      simp only [lowWithin, decide_eq_true_eq]
      constructor
      · intro h m hm k hk
        have hle := hm.1 a rfl
        obtain rfl := Option.some.inj hk
        omega
      · intro h
        have hmem : (Bounds.mk (some a) ih).Mem a := by
          refine ⟨?_, ?_⟩
          · intro k hk
            exact Int.le_of_eq (Option.some.inj hk).symm
          · intro u hu
            have hle := hn.2 u hu
            have hge := hn.1 a rfl
            omega
        exact h a hmem l rfl

/-- The interval on the other side of zero, which turns an upper end into a lower one. -/
def neg (b : Bounds) : Bounds := ⟨b.high.map (- ·), b.low.map (- ·)⟩

theorem highWithin_eq (inner outer : Bounds) :
    inner.highWithin outer = inner.neg.lowWithin outer.neg := by
  obtain ⟨il, ih⟩ := inner
  obtain ⟨ol, oh⟩ := outer
  cases oh <;> cases ih <;> simp [highWithin, lowWithin, neg]

theorem mem_neg {b : Bounds} {n : Int} : b.neg.Mem n ↔ b.Mem (-n) := by
  obtain ⟨low, high⟩ := b
  cases low <;> cases high <;> simp [neg, Mem]
  all_goals omega

/-- Comparing the ends decides inclusion, as long as the inner interval holds a number. -/
theorem within_iff {inner outer : Bounds} {n : Int} (hn : inner.Mem n) :
    inner.within outer = true ↔ ∀ m, inner.Mem m → outer.Mem m := by
  have hneg : inner.neg.Mem (-n) := mem_neg.mpr (by simpa using hn)
  rw [within, Bool.and_eq_true, lowWithin_iff hn, highWithin_eq, lowWithin_iff hneg]
  constructor
  · rintro ⟨hlow, hhigh⟩ m hm
    refine ⟨hlow m hm, ?_⟩
    intro u hu
    have hmem : inner.neg.Mem (-m) := mem_neg.mpr (by simpa using hm)
    have hle := hhigh (-m) hmem (-u) (Option.mem_map_of_mem _ hu)
    omega
  · intro h
    refine ⟨fun m hm => (h m hm).1, ?_⟩
    intro m hm l hl
    obtain ⟨u, hu, rfl⟩ := Option.map_eq_some_iff.mp hl
    have hle := (h (-m) (mem_neg.mp hm)).2 u hu
    omega

theorem mem_atLeast {a n : Int} : (Bounds.mk (some a) none).Mem n ↔ a ≤ n := by
  constructor
  · intro h
    exact h.1 a rfl
  · intro h
    refine ⟨?_, by simp⟩
    intro l hl
    exact Option.some.inj hl ▸ h

theorem mem_atMost {b n : Int} : (Bounds.mk none (some b)).Mem n ↔ n ≤ b := by
  constructor
  · intro h
    exact h.2 b rfl
  · intro h
    refine ⟨by simp, ?_⟩
    intro u hu
    exact Option.some.inj hu ▸ h

/-- Every bound leaves two numbers, so no single value stands for it. -/
theorem exists_two_mem_of {operator : Operator} (n : Int) (h : operator.isBound = true) :
    ∃ a b, a ≠ b ∧ (of operator n).Mem a ∧ (of operator n).Mem b := by
  cases operator <;> simp only [Operator.isBound, Bool.false_eq_true] at h
  · exact ⟨n + 1, n + 2, by omega, mem_atLeast.mpr (by omega), mem_atLeast.mpr (by omega)⟩
  · exact ⟨n, n + 1, by omega, mem_atLeast.mpr (by omega), mem_atLeast.mpr (by omega)⟩
  · exact ⟨n - 1, n - 2, by omega, mem_atMost.mpr (by omega), mem_atMost.mpr (by omega)⟩
  · exact ⟨n, n - 1, by omega, mem_atMost.mpr (by omega), mem_atMost.mpr (by omega)⟩

end Bounds

/-! ## Well-typed requirements -/

/-- A text is read as a truth value, as a whole number, or as itself. -/
theorem readSingle_eq_ok {s : String} {v : Value} (h : readSingle s = .ok v) :
    (∃ b, v = .boolean b) ∨ (∃ n, v = .integer n) ∨ v = .text s := by
  unfold readSingle at h
  split at h
  · exact .inl ⟨true, (Except.ok.inj h).symm⟩
  · split at h
    · exact .inl ⟨false, (Except.ok.inj h).symm⟩
    · split at h
      · split at h
        · simp at h
        · exact .inr (.inl ⟨_, (Except.ok.inj h).symm⟩)
      · exact .inr (.inr (Except.ok.inj h).symm)

namespace Requirement

/-- The forms of a well-typed requirement: a single value, a bound on a number, or a choice that is
not empty. -/
theorem cases_of_isWellTyped {r : Requirement} (h : r.isWellTyped = true) :
    (r.operator = .eq ∧ ∃ v : Single, r.value = v.toValue) ∨
    (r.operator.isBound = true ∧ ∃ n, r.value = .integer n) ∨
    (r.operator = .oneOf ∧ choiceItems r.text ≠ [] ∧
      r.value = .choice (Choice.ofList (choiceItems r.text))) := by
  obtain ⟨name, operator, text, value, reads⟩ := r
  cases operator with
  | eq =>
    refine .inl ⟨rfl, ?_⟩
    cases value with
    | boolean b => exact ⟨.boolean b, rfl⟩
    | integer n => exact ⟨.integer n, rfl⟩
    | text s => exact ⟨.text s, rfl⟩
    | choice c => simp [isWellTyped, Value.kind] at h
  | oneOf => exact .inr (.inr ⟨rfl, Value.read_oneOf reads⟩)
  | gt | gte | lt | lte =>
    refine .inr (.inl ⟨rfl, ?_⟩)
    cases value <;> simp_all [isWellTyped, Value.kind]

/-- A text is its own value. -/
theorem value_eq_text {r : Requirement} (h : r.value.kind = .text) : r.value = .text r.text := by
  obtain ⟨name, operator, text, value, reads⟩ := r
  have ho : operator ≠ .oneOf := fun ho => by
    have := (Value.kind_eq_choice_iff reads).mpr ho
    simp_all
  rw [Value.read_of_ne_oneOf text ho] at reads
  rcases readSingle_eq_ok reads with ⟨b, rfl⟩ | ⟨n, rfl⟩ | rfl
  · simp [Value.kind] at h
  · simp [Value.kind] at h
  · rfl

theorem admits_eq {r : Requirement} (h : r.operator = .eq) (v : Single) :
    r.Admits v ↔ v.toValue = r.value := by
  simp [Admits, h]

theorem admits_oneOf {r : Requirement} {c : Choice} (h : r.operator = .oneOf)
    (hv : r.value = .choice c) (v : Single) :
    r.Admits v ↔ ∃ s, v = .text s ∧ c.contains s = true := by
  cases v <;> simp [Admits, h, hv]

/-- The interval of a requirement holds the numbers that meet it, and nothing else meets it. -/
theorem admits_iff_mem {r : Requirement} {b : Bounds} (h : r.bounds? = some b) (v : Single) :
    r.Admits v ↔ ∃ n, v = .integer n ∧ b.Mem n := by
  obtain ⟨name, operator, text, value, reads⟩ := r
  simp only [bounds?] at h
  split at h
  · next n =>
    split at h
    · simp at h
    · simp only [Option.some.injEq] at h
      subst h
      cases operator <;> cases v <;>
        simp_all [Admits, Bounds.of, Bounds.Mem, Single.toValue]
      -- An equality is an interval of one number, and a strict bound ends at the next number.
      all_goals omega
  · simp at h

theorem bounds?_of_isBound {r : Requirement} {n : Int} (h : r.operator.isBound = true)
    (hv : r.value = .integer n) : r.bounds? = some (Bounds.of r.operator n) := by
  have ho : r.operator ≠ .oneOf := fun ho => by simp [ho, Operator.isBound] at h
  simp [bounds?, hv, ho]

/-- Every well-typed requirement can be met. -/
theorem exists_admits {r : Requirement} (h : r.isWellTyped = true) : ∃ v, r.Admits v := by
  rcases cases_of_isWellTyped h with ⟨ho, v, hv⟩ | ⟨hb, n, hv⟩ | ⟨ho, hne, hv⟩
  · exact ⟨v, (admits_eq ho v).mpr hv.symm⟩
  · obtain ⟨a, -, -, ha, -⟩ := Bounds.exists_two_mem_of n hb
    exact ⟨.integer a, (admits_iff_mem (bounds?_of_isBound hb hv) _).mpr ⟨a, rfl, ha⟩⟩
  · obtain ⟨s, hs⟩ := List.exists_mem_of_ne_nil _ hne
    exact ⟨.text s, (admits_oneOf ho hv _).mpr ⟨s, rfl, by simpa using hs⟩⟩

/-- Without an interval, no number meets a well-typed requirement. -/
theorem not_admits_integer {r : Requirement} (h : r.isWellTyped = true) (hb : r.bounds? = none)
    (n : Int) : ¬ r.Admits (.integer n) := by
  rcases cases_of_isWellTyped h with ⟨ho, v, hv⟩ | ⟨hop, m, hv⟩ | ⟨ho, -, hv⟩
  · rw [admits_eq ho]
    intro hn
    simp [bounds?, ho, ← hn, Single.toValue] at hb
  · simp [bounds?_of_isBound hop hv] at hb
  · rw [admits_oneOf ho hv]
    simp

/-! ## The comparison -/

/-- An equality is implied by the same value under an equality, and by no bound. -/
theorem atLeastAsStrict_eq {found expected : Requirement} (hf : found.isWellTyped = true)
    (ho : expected.operator = .eq) (hne : found.operator ≠ .oneOf) :
    found.atLeastAsStrict expected = true ↔ found.Implies expected := by
  have hdef : found.atLeastAsStrict expected = true ↔
      found.operator = .eq ∧ found.value = expected.value := by
    simp [atLeastAsStrict, ho]
  rw [hdef]
  rcases cases_of_isWellTyped hf with ⟨hfo, v, hv⟩ | ⟨hb, n, hn⟩ | ⟨hfo, -, -⟩
  · constructor
    · rintro ⟨-, heq⟩ w hw
      rw [admits_eq hfo] at hw
      rw [admits_eq ho, hw, heq]
    · intro h
      have hw := h v ((admits_eq hfo v).mpr hv.symm)
      rw [admits_eq ho] at hw
      exact ⟨hfo, hv.trans hw⟩
  · -- Two numbers meet a bound, and an equality is met by one value only.
    have hfo : found.operator ≠ .eq := fun hfo => by simp [hfo, Operator.isBound] at hb
    simp only [hfo, false_and, false_iff]
    intro h
    obtain ⟨a, b, hab, ha, hb'⟩ := Bounds.exists_two_mem_of n hb
    have hadm := admits_iff_mem (bounds?_of_isBound hb hn)
    have h1 := (admits_eq ho _).mp (h (.integer a) ((hadm _).mpr ⟨a, rfl, ha⟩))
    have h2 := (admits_eq ho _).mp (h (.integer b) ((hadm _).mpr ⟨b, rfl, hb'⟩))
    have := Single.toValue_inj (h1.trans h2.symm)
    exact hab (by simpa using this)
  · exact absurd hfo hne

/-- Towards a bound strictness looks at the bounds of both sides. -/
theorem atLeastAsStrict_of_isBound {found expected : Requirement}
    (ho : expected.operator.isBound = true) :
    found.atLeastAsStrict expected = expected.boundMetBy found := by
  simp only [atLeastAsStrict]
  split <;> simp_all [Operator.isBound]

/-- A bound is implied exactly by the requirements whose interval lies in its own. -/
theorem atLeastAsStrict_bound {found expected : Requirement} (hf : found.isWellTyped = true)
    (he : expected.isWellTyped = true) (ho : expected.operator.isBound = true) :
    found.atLeastAsStrict expected = true ↔ found.Implies expected := by
  obtain ⟨n, hn⟩ : ∃ n, expected.value = .integer n := by
    rcases cases_of_isWellTyped he with ⟨ho', -⟩ | ⟨-, h⟩ | ⟨ho', -⟩
    · simp [ho', Operator.isBound] at ho
    · exact h
    · simp [ho', Operator.isBound] at ho
  have hbe := bounds?_of_isBound ho hn
  rw [atLeastAsStrict_of_isBound ho]
  obtain ⟨v, hv⟩ := exists_admits hf
  cases hbf : found.bounds? with
  | none =>
    simp only [boundMetBy, hbe, hbf, Bool.false_eq_true, false_iff]
    intro h
    obtain ⟨m, rfl, -⟩ := (admits_iff_mem hbe v).mp (h v hv)
    exact not_admits_integer hf hbf m hv
  | some b =>
    obtain ⟨m, -, hm⟩ := (admits_iff_mem hbf v).mp hv
    simp only [boundMetBy, hbe, hbf]
    rw [Bounds.within_iff hm]
    constructor
    · intro h w hw
      obtain ⟨k, rfl, hk⟩ := (admits_iff_mem hbf w).mp hw
      exact (admits_iff_mem hbe _).mpr ⟨k, rfl, h k hk⟩
    · intro h k hk
      obtain ⟨j, hj, hmem⟩ := (admits_iff_mem hbe _).mp
        (h (.integer k) ((admits_iff_mem hbf _).mpr ⟨k, rfl, hk⟩))
      rw [Single.integer.inj hj]
      exact hmem

/-- An equality meets a choice by its text, whatever kind of value the text has. -/
theorem atLeastAsStrict_oneOf_of_eq {found expected : Requirement}
    (ho : expected.operator = .oneOf) (hfo : found.operator = .eq) :
    found.atLeastAsStrict expected = true ↔ found.text ∈ choiceItems expected.text := by
  obtain ⟨-, hc⟩ := Value.read_oneOf (ho ▸ expected.reads)
  simp [atLeastAsStrict, ho, choiceMetBy, hfo, hc]

/-- A choice is implied by a narrower choice, by an equality to one of its texts, and by no
bound. -/
theorem atLeastAsStrict_oneOf {found expected : Requirement} (hf : found.isWellTyped = true)
    (ho : expected.operator = .oneOf)
    (hne : ¬(found.operator = .eq ∧ (found.value.kind = .boolean ∨ found.value.kind = .integer))) :
    found.atLeastAsStrict expected = true ↔ found.Implies expected := by
  obtain ⟨-, hc⟩ := Value.read_oneOf (ho ▸ expected.reads)
  rcases cases_of_isWellTyped hf with ⟨hfo, v, hv⟩ | ⟨hb, n, hn⟩ | ⟨hfo, -, hfc⟩
  · have htext : found.value = .text found.text := by
      cases v <;> simp_all [Single.toValue, Value.kind, value_eq_text]
    rw [atLeastAsStrict_oneOf_of_eq ho hfo]
    constructor
    · intro h w hw
      rw [admits_eq hfo, htext] at hw
      rw [admits_oneOf ho hc]
      exact ⟨found.text, Single.toValue_inj hw, by simpa using h⟩
    · intro h
      obtain ⟨s, hs, hmem⟩ := (admits_oneOf ho hc _).mp
        (h (.text found.text) ((admits_eq hfo _).mpr htext.symm))
      simpa [Single.text.inj hs] using hmem
  · have hfalse : found.atLeastAsStrict expected = false := by
      have hfo : found.operator ≠ .oneOf := fun hfo => by simp [hfo, Operator.isBound] at hb
      simp only [atLeastAsStrict, ho, choiceMetBy, hc]
      split <;> simp_all [Operator.isBound]
    simp only [hfalse, Bool.false_eq_true, false_iff]
    intro h
    obtain ⟨a, -, -, ha, -⟩ := Bounds.exists_two_mem_of n hb
    have hadm := (admits_iff_mem (bounds?_of_isBound hb hn) (.integer a)).mpr ⟨a, rfl, ha⟩
    obtain ⟨s, hs, -⟩ := (admits_oneOf ho hc _).mp (h _ hadm)
    simp at hs
  · have hdef : found.atLeastAsStrict expected = true ↔
        ∀ s ∈ choiceItems found.text, s ∈ choiceItems expected.text := by
      simp [atLeastAsStrict, ho, choiceMetBy, hc, hfo, hfc, Choice.isWithin_iff]
    rw [hdef]
    constructor
    · intro h w hw
      obtain ⟨s, rfl, hs⟩ := (admits_oneOf hfo hfc w).mp hw
      exact (admits_oneOf ho hc _).mpr ⟨s, rfl, by simpa using h s (by simpa using hs)⟩
    · intro h s hs
      obtain ⟨t, ht, hmem⟩ := (admits_oneOf ho hc _).mp
        (h (.text s) ((admits_oneOf hfo hfc _).mpr ⟨s, rfl, by simpa using hs⟩))
      simpa [Single.text.inj ht] using hmem

/-- A well-typed requirement is as strict as itself. -/
theorem atLeastAsStrict_refl {r : Requirement} (h : r.isWellTyped = true) :
    r.atLeastAsStrict r = true := by
  have hself : r.Implies r := fun _ hv => hv
  rcases cases_of_isWellTyped h with ⟨ho, -⟩ | ⟨hb, -⟩ | ⟨ho, -, -⟩
  · exact (atLeastAsStrict_eq h ho (by simp [ho])).mpr hself
  · exact (atLeastAsStrict_bound h h hb).mpr hself
  · exact (atLeastAsStrict_oneOf h ho (by simp [ho])).mpr hself

/-- Strictness is implication, but for two clauses: a choice never meets an equality, not even a
choice of one text, and an equality to a truth value or a number meets a choice that holds its
text. -/
theorem atLeastAsStrict_iff_implies {found expected : Requirement}
    (hf : found.isWellTyped = true) (he : expected.isWellTyped = true) :
    found.atLeastAsStrict expected = true ↔
      if expected.operator = .eq ∧ found.operator = .oneOf then False
      else if expected.operator = .oneOf ∧ found.operator = .eq ∧
          (found.value.kind = .boolean ∨ found.value.kind = .integer) then
        found.text ∈ choiceItems expected.text
      else found.Implies expected := by
  split
  · next h => simp [atLeastAsStrict, h.1, h.2]
  · next hchoice =>
    split
    · next h => exact atLeastAsStrict_oneOf_of_eq h.1 h.2.1
    · next hkind =>
      rcases cases_of_isWellTyped he with ⟨ho, -⟩ | ⟨hb, -⟩ | ⟨ho, -⟩
      · exact atLeastAsStrict_eq hf ho fun hfo => hchoice ⟨ho, hfo⟩
      · exact atLeastAsStrict_bound hf he hb
      · exact atLeastAsStrict_oneOf hf ho fun h => hkind ⟨ho, h⟩

/-- More than 999 implies at least 1000, though the two share no text. -/
theorem moreThan_implies_atLeast :
    ∃ found expected : Requirement,
      parse "followers" (.text "gt:999") = .ok found ∧
      parse "followers" (.text "gte:1000") = .ok expected ∧
      found.isWellTyped = true ∧ expected.isWellTyped = true ∧ found.Implies expected := by
  refine ⟨⟨"followers", .gt, "999", .integer 999, rfl⟩,
    ⟨"followers", .gte, "1000", .integer 1000, rfl⟩, rfl, rfl, rfl, rfl, ?_⟩
  have h := (@atLeastAsStrict_iff_implies ⟨"followers", .gt, "999", .integer 999, rfl⟩
    ⟨"followers", .gte, "1000", .integer 1000, rfl⟩ rfl rfl).mp rfl
  simpa using h

end Requirement

end Eligibility.Trait
