import Eligibility.Proofs.Mapping
import Eligibility.Proofs.Outcome
import Eligibility.Proofs.Text.Cut
import Eligibility.Proofs.Trait.Faults
import Eligibility.Validation.Compare
set_option autoImplicit false

/-!
# Validation: sides that cannot be read

A comparison counts a side that stands for no requirement against the statement, as an
invalid value, and goes on; a side that is nothing counts as one that was not found.  It
gives no verdict only if it comes to a whole number with more digits than are read or
written.  A number that a caller passes as such is written before anything is read; of two
texts, the found one is not looked at once the expected one is known to be invalid.
-/

namespace Eligibility.Validation

open Trait (Fault Raw Requirement comparison)

/-! ## One side -/

namespace Side

/-- The side is a whole number, given as such, with more digits than are written. -/
def isLong : Side → Bool
  | raw r => r.isLong
  | requirement _ => false

/-- The value of the side is a whole number of `count` digits, more than are read. -/
def IsOverlong : Side → Nat → Prop
  | raw r, count =>
    (comparison r.written).1 ≠ .oneOf ∧ Trait.IsOverlong (comparison r.written).2 count
  | requirement _, _ => False

/-- The side stands for no requirement. -/
def Unreadable (side : Side) (name : String) : Prop := ∃ fault, side.read name = .error fault

theorem text_of_short {side : Side} (h : side.isLong = false) : side.text = .ok side.written := by
  cases side with
  | raw r => exact Raw.render_eq_ok.mpr ⟨h, rfl⟩
  | requirement r => rfl

theorem text_of_long {side : Side} (h : side.isLong = true) : side.text = .error .longNumber := by
  cases side with
  | raw r => exact Raw.render_eq_error.mpr ⟨h, rfl⟩
  | requirement r => simp [isLong] at h

theorem isAbsent_iff {side : Side} : side.isAbsent = true ↔ side = .raw .absent := by
  cases side with
  | requirement r => simp [isAbsent]
  | raw r => cases r <;> simp [isAbsent]

theorem read_of_overlong {side : Side} {count : Nat} (hshort : side.isLong = false)
    (h : side.IsOverlong count) (name : String) :
    side.read name = .error (.tooManyDigits count) := by
  cases side with
  | requirement r => exact h.elim
  | raw r =>
    exact Requirement.parse_eq_error.mpr
      (.inr ⟨hshort, Trait.Value.read_eq_error.mpr (.inr ⟨h.1, count, rfl, h.2⟩)⟩)

/-- A whole number without an operator is compared for equality, whatever its length. -/
theorem isOverlong_text {s : String} {count : Nat} (h : Trait.IsOverlong s count) :
    (raw (.text s)).IsOverlong count := by
  have hcomparison : comparison s = (.eq, s) := by
    rw [comparison, Text.cutAt_eq_none.mpr ⟨h.noColon, rfl⟩]
  simp only [IsOverlong, Raw.written, hcomparison]
  exact ⟨Trait.Operator.noConfusion, h⟩

/-- A side that can be written stands for a requirement, does not follow the grammar, or is
overlong. -/
theorem read_cases {side : Side} (hshort : side.isLong = false) (name : String) :
    (∃ r, side.read name = .ok r ∧ ∀ count, ¬ side.IsOverlong count) ∨
    (∃ fault, side.read name = .error fault ∧ fault.isGrammar = true ∧
      ∀ count, ¬ side.IsOverlong count) ∨
    (∃ count, side.read name = .error (.tooManyDigits count) ∧ side.IsOverlong count) := by
  cases hread : side.read name with
  | ok r =>
    refine .inl ⟨r, rfl, ?_⟩
    intro count hlong
    simp [read_of_overlong hshort hlong] at hread
  | error fault =>
    cases side with
    | requirement r => simp [read] at hread
    | raw r =>
      rcases Requirement.parse_eq_error.mp hread with ⟨hlong, -⟩ | ⟨-, hvalue⟩
      · simp [isLong, hlong] at hshort
      · rcases Trait.Value.read_eq_error.mp hvalue with
          ⟨hoperator, -, rfl⟩ | ⟨hoperator, count, rfl, hlong⟩
        · exact .inr (.inl ⟨_, rfl, rfl, fun count hlong => hlong.1 hoperator⟩)
        · exact .inr (.inr ⟨count, rfl, hoperator, hlong⟩)

end Side

/-! ## One trait -/

section

variable {name : String} {found expected : Side}

/-- Both sides can be looked at: the expected one is not overlong, and neither is the found one if
it comes to that. -/
def Readable (name : String) (found expected : Side) : Prop :=
  (∀ count, ¬ expected.IsOverlong count) ∧
    (expected.Unreadable name ∨ ∀ count, ¬ found.IsOverlong count)

/-- What is known of both sides once they are looked at. -/
theorem readBoth_cases (name : String) (hfound : found.isLong = false)
    (hexpected : expected.isLong = false) :
    (Readable name found expected ∧ (expected.Unreadable name ∨ found.Unreadable name) ∧
      readBoth name found expected = .ok none) ∨
    (Readable name found expected ∧ ∃ f e, found.read name = .ok f ∧ expected.read name = .ok e ∧
      readBoth name found expected = .ok (some (f, e))) ∨
    (¬ Readable name found expected ∧
      ∃ count, readBoth name found expected = .error (.tooManyDigits count)) := by
  unfold readBoth
  rcases Side.read_cases hexpected name with ⟨e, he, hexpected⟩ | ⟨fault, he, hgrammar, hexpected⟩ |
    ⟨count, he, hlong⟩
  · rcases Side.read_cases hfound name with ⟨f, hf, hfound⟩ | ⟨fault, hf, hgrammar, hfound⟩ |
      ⟨count, hf, hlong⟩
    · exact .inr (.inl ⟨⟨hexpected, .inr hfound⟩, f, e, hf, he, by simp only [he, hf]⟩)
    · exact .inl ⟨⟨hexpected, .inr hfound⟩, .inr ⟨fault, hf⟩, by simp [he, hf, hgrammar]⟩
    · have hreadable : ¬ expected.Unreadable name := by
        intro h
        obtain ⟨fault, hfault⟩ := h
        simp [he] at hfault
      refine .inr (.inr ⟨?_, count, by simp [he, hf, Fault.isGrammar]⟩)
      intro h
      exact h.2.elim hreadable fun hfine => hfine count hlong
  · exact .inl ⟨⟨hexpected, .inl ⟨fault, he⟩⟩, .inl ⟨fault, he⟩, by simp [he, hgrammar]⟩
  · refine .inr (.inr ⟨?_, count, by simp [he, Fault.isGrammar]⟩)
    intro h
    exact h.1 count hlong

end

variable {name : String} {given : Option Side} {found expected : Side}

/-- What was given is the side, and it is not nothing. -/
def Finds (given : Option Side) (side : Side) : Prop := given = some side ∧ side ≠ .raw .absent

/-- The comparison comes to no whole number with too many digits. -/
structure Comparable (name : String) (given : Option Side) (expected : Side) : Prop where
  expectedShort : expected.isLong = false
  foundShort : ∀ side, Finds given side → side.isLong = false
  readable : ∀ side, Finds given side → Readable name side expected

theorem filter_eq_some : given.filter (!·.isAbsent) = some found ↔ Finds given found := by
  rw [Option.filter_eq_some_iff, Finds, Bool.not_eq_true', ← Bool.not_eq_true,
    Side.isAbsent_iff]

/-- The mismatch of a trait of which nothing was found. -/
def missing (name : String) (expected : Side) : Mismatch :=
  ⟨name, expected.written, none, .missing⟩

/-- The mismatch of a side that cannot be read. -/
def invalid (name : String) (found expected : Side) : Mismatch :=
  ⟨name, expected.written, some found.written, .invalidValue⟩

/-- What a comparison may come to. -/
inductive Compared (name : String) (given : Option Side) (expected : Side) :
    Except Fault (Option Mismatch) → Prop
  | long (h : ¬ Comparable name given expected) : Compared name given expected (.error .longNumber)
  | overlong (count : Nat) (h : ¬ Comparable name given expected) :
    Compared name given expected (.error (.tooManyDigits count))
  | missing (h : Comparable name given expected) (hnone : ∀ side, ¬ Finds given side) :
    Compared name given expected (.ok (some (missing name expected)))
  | unreadable (found : Side) (h : Comparable name given expected) (hfound : Finds given found)
      (hread : expected.Unreadable name ∨ found.Unreadable name) :
    Compared name given expected (.ok (some (invalid name found expected)))
  | read (found : Side) (f e : Requirement) (h : Comparable name given expected)
      (hfound : Finds given found) (hf : found.read name = .ok f)
      (he : expected.read name = .ok e) :
    Compared name given expected (.ok ((reasonAgainst? f e).map fun reason =>
      ⟨name, expected.written, some found.written, reason⟩))

theorem compare_of_expected_long (h : expected.isLong = true) :
    compare name given expected = .error .longNumber := by
  unfold compare
  rw [Side.text_of_long h]
  rfl

theorem compare_of_found_long (h : Finds given found) (hexpected : expected.isLong = false)
    (hfound : found.isLong = true) : compare name given expected = .error .longNumber := by
  simp only [compare, Side.text_of_short hexpected, filter_eq_some.mpr h, Side.text_of_long hfound]
  rfl

theorem compared_of_finds (h : Finds given found) (hexpected : expected.isLong = false)
    (hfound : found.isLong = false) :
    Compared name given expected (compare name given expected) := by
  have hunique : ∀ side, Finds given side → side = found := by
    intro side hside
    exact Option.some.inj (hside.1.symm.trans h.1)
  have hcomparable : Comparable name given expected ↔ Readable name found expected := by
    constructor
    · intro hc
      exact hc.readable found h
    · intro hr
      exact ⟨hexpected, fun side hside => hunique side hside ▸ hfound,
        fun side hside => hunique side hside ▸ hr⟩
  rw [compare_of_present (Side.text_of_short hexpected) (filter_eq_some.mpr h)
    (Side.text_of_short hfound)]
  rcases readBoth_cases name hfound hexpected with ⟨hr, hu, hb⟩ | ⟨hr, f, e, hf, he, hb⟩ |
    ⟨hr, count, hb⟩
  · rw [hb]
    exact .unreadable found (hcomparable.mpr hr) h hu
  · rw [hb]
    exact .read found f e (hcomparable.mpr hr) h hf he
  · rw [hb]
    exact .overlong count (mt hcomparable.mp hr)

theorem compared (name : String) (given : Option Side) (expected : Side) :
    Compared name given expected (compare name given expected) := by
  cases hexpected : expected.isLong with
  | true =>
    rw [compare_of_expected_long hexpected]
    refine .long fun h => ?_
    simp [h.expectedShort] at hexpected
  | false =>
    cases hgiven : given.filter (!·.isAbsent) with
    | none =>
      have hnone : ∀ side, ¬ Finds given side := by
        intro side hside
        simp [filter_eq_some.mpr hside] at hgiven
      rw [compare_of_absent (Side.text_of_short hexpected) hgiven]
      exact .missing ⟨hexpected, fun side h => (hnone side h).elim,
        fun side h => (hnone side h).elim⟩ hnone
    | some found =>
      have hfinds := filter_eq_some.mp hgiven
      cases hfound : found.isLong with
      | true =>
        rw [compare_of_found_long hfinds hexpected hfound]
        refine .long fun h => ?_
        simp [h.foundShort found hfinds] at hfound
      | false => exact compared_of_finds hfinds hexpected hfound

theorem exists_compare : (∃ m, compare name given expected = .ok m) ↔
    Comparable name given expected := by
  have h := compared name given expected
  generalize compare name given expected = result at h
  cases h with
  | long h | overlong _ h => simp [h]
  | missing h | unreadable _ h | read _ _ _ h => simp [h]

/-- The only fault of a comparison is a number with too many digits. -/
theorem fault_of_compare {fault : Fault} (h : compare name given expected = .error fault) :
    fault = .longNumber ∨ ∃ count, fault = .tooManyDigits count := by
  have hcompared := compared name given expected
  rw [h] at hcompared
  cases hcompared with
  | long => exact .inl rfl
  | overlong count => exact .inr ⟨count, rfl⟩

theorem reasonAgainst?_eq_some {f e : Requirement} {reason : Reason}
    (h : reasonAgainst? f e = some reason) :
    reason = .unsupportedOperator ∨ reason = .notStrictEnough := by
  unfold reasonAgainst? at h
  split at h
  · exact .inl (Option.some.inj h).symm
  · split at h
    · simp at h
    · exact .inr (Option.some.inj h).symm

/-- A trait is missing exactly if nothing was found, or what was found is nothing. -/
theorem compare_missing {m : Mismatch} (hc : Comparable name given expected) :
    (compare name given expected = .ok (some m) ∧ m.reason = .missing) ↔
      (∀ side, ¬ Finds given side) ∧ m = missing name expected := by
  have hcompared := compared name given expected
  generalize compare name given expected = result at hcompared
  cases hcompared with
  | long h | overlong _ h => exact absurd hc h
  | missing _ hnone =>
    simp only [Except.ok.injEq, Option.some.injEq]
    constructor
    · rintro ⟨rfl, -⟩
      exact ⟨hnone, rfl⟩
    · rintro ⟨-, rfl⟩
      exact ⟨rfl, rfl⟩
  | unreadable found _ hfound =>
    simp only [Except.ok.injEq, Option.some.injEq]
    constructor
    · rintro ⟨rfl, hreason⟩
      simp [invalid] at hreason
    · intro hm
      exact absurd hfound (hm.1 found)
  | read found f e _ hfound =>
    constructor
    · intro hm
      obtain ⟨reason, hreason, rfl⟩ := Option.map_eq_some_iff.mp (Except.ok.inj hm.1)
      obtain rfl : reason = .missing := hm.2
      simpa using reasonAgainst?_eq_some hreason
    · intro hm
      exact absurd hfound (hm.1 found)

/-- A trait has an invalid value exactly if one of its sides cannot be read. -/
theorem compare_invalidValue {m : Mismatch} (hc : Comparable name given expected) :
    (compare name given expected = .ok (some m) ∧ m.reason = .invalidValue) ↔
      ∃ side, Finds given side ∧ (expected.Unreadable name ∨ side.Unreadable name) ∧
        m = invalid name side expected := by
  have hcompared := compared name given expected
  generalize compare name given expected = result at hcompared
  cases hcompared with
  | long h | overlong _ h => exact absurd hc h
  | missing _ hnone =>
    simp only [Except.ok.injEq, Option.some.injEq]
    constructor
    · rintro ⟨rfl, hreason⟩
      simp [missing] at hreason
    · rintro ⟨side, hside, -⟩
      exact absurd hside (hnone side)
  | unreadable found _ hfound hread =>
    simp only [Except.ok.injEq, Option.some.injEq]
    constructor
    · rintro ⟨rfl, -⟩
      exact ⟨found, hfound, hread, rfl⟩
    · rintro ⟨side, hside, -, rfl⟩
      obtain rfl := Option.some.inj (hside.1.symm.trans hfound.1)
      exact ⟨rfl, rfl⟩
  | read found f e _ hfound hf he =>
    constructor
    · intro hm
      obtain ⟨reason, hreason, rfl⟩ := Option.map_eq_some_iff.mp (Except.ok.inj hm.1)
      obtain rfl : reason = .invalidValue := hm.2
      simpa using reasonAgainst?_eq_some hreason
    · rintro ⟨side, hside, hread, -⟩
      obtain rfl := Option.some.inj (hside.1.symm.trans hfound.1)
      simp [Side.Unreadable, hf, he] at hread

/-! ## All traits -/

variable {found expected : Mapping Side}

theorem exists_compareAll : (∃ verdict, compareAll found expected = .ok verdict) ↔
    ∀ x ∈ expected, Comparable x.1 (Mapping.get? x.1 found) x.2 := by
  unfold compareAll
  rw [Outcome.exists_bind_pure, Outcome.exists_mapM_ok]
  simp only [exists_compare]

/-- The mismatches are those of the expected traits. -/
theorem mem_mismatches {verdict : Verdict} (h : compareAll found expected = .ok verdict)
    {m : Mismatch} : m ∈ verdict.mismatches ↔
      ∃ x ∈ expected, compare x.1 (Mapping.get? x.1 found) x.2 = .ok (some m) := by
  unfold compareAll at h
  obtain ⟨results, hresults, hverdict⟩ := Outcome.bind_eq_ok.mp h
  obtain rfl := Outcome.pure_eq_ok.mp hverdict
  have hmap := Outcome.mapM_eq_ok.mp hresults
  rw [List.mem_filterMap]
  constructor
  · intro hm
    obtain ⟨result, hresult, rfl⟩ := hm
    exact Outcome.exists_item_of_map_ok hmap hresult
  · intro hm
    obtain ⟨x, hx, hcompare⟩ := hm
    obtain ⟨result, hresult, heq⟩ := Outcome.exists_of_map_ok hmap hx
    obtain rfl := Except.ok.inj (hcompare.symm.trans heq)
    exact ⟨some m, hresult, rfl⟩

/-- The mismatches for one reason are those of the expected traits for it. -/
theorem mem_mismatches_of_reason {verdict : Verdict} (h : compareAll found expected = .ok verdict)
    {m : Mismatch} {reason : Reason} (Wrong : Option Side → String → Side → Prop)
    (hone : ∀ name given expected, Comparable name given expected →
      ((compare name given expected = .ok (some m) ∧ m.reason = reason) ↔
        Wrong given name expected)) :
    (m ∈ verdict.mismatches ∧ m.reason = reason) ↔
      ∃ x ∈ expected, Wrong (Mapping.get? x.1 found) x.1 x.2 := by
  have hcomparable := exists_compareAll.mp ⟨verdict, h⟩
  rw [mem_mismatches h]
  constructor
  · rintro ⟨⟨x, hx, hcompare⟩, hreason⟩
    exact ⟨x, hx, (hone _ _ _ (hcomparable x hx)).mp ⟨hcompare, hreason⟩⟩
  · rintro ⟨x, hx, hwrong⟩
    obtain ⟨hcompare, hreason⟩ := (hone _ _ _ (hcomparable x hx)).mpr hwrong
    exact ⟨⟨x, hx, hcompare⟩, hreason⟩

/-- How a comparison deals with sides that cannot be read: a number with too many digits leaves no
verdict, what is nothing is missing, and every other side is an invalid value. -/
structure CountsUnreadable (found expected : Mapping Side) : Prop where
  compares : (∃ verdict, compareAll found expected = .ok verdict) ↔
    ∀ x ∈ expected, Comparable x.1 (Mapping.get? x.1 found) x.2
  /-- Nothing else leaves no verdict. -/
  fault : ∀ fault, compareAll found expected = .error fault →
    fault = .longNumber ∨ ∃ count, fault = .tooManyDigits count
  missing : ∀ verdict, compareAll found expected = .ok verdict → ∀ m,
    (m ∈ verdict.mismatches ∧ m.reason = .missing) ↔
      ∃ x ∈ expected, (∀ side, ¬ Finds (Mapping.get? x.1 found) side) ∧ m = missing x.1 x.2
  invalidValue : ∀ verdict, compareAll found expected = .ok verdict → ∀ m,
    (m ∈ verdict.mismatches ∧ m.reason = .invalidValue) ↔
      ∃ x ∈ expected, ∃ side, Finds (Mapping.get? x.1 found) side ∧
        (x.2.Unreadable x.1 ∨ side.Unreadable x.1) ∧ m = invalid x.1 side x.2

theorem countsUnreadable (found expected : Mapping Side) : CountsUnreadable found expected where
  compares := exists_compareAll
  fault := by
    intro fault h
    rcases Outcome.bind_eq_error.mp h with h | ⟨results, -, h⟩
    · obtain ⟨⟨name, side⟩, -, hcompare⟩ := Outcome.exists_item_of_mapM_error h
      exact fault_of_compare hcompare
    · exact absurd h Outcome.pure_ne_error
  missing := by
    intro verdict hverdict m
    exact mem_mismatches_of_reason hverdict (fun given name expected =>
      (∀ side, ¬ Finds given side) ∧ m = Validation.missing name expected)
      fun _ _ _ hc => compare_missing hc
  invalidValue := by
    intro verdict hverdict m
    exact mem_mismatches_of_reason hverdict (fun given name expected =>
      ∃ side, Finds given side ∧ (expected.Unreadable name ∨ side.Unreadable name) ∧
        m = invalid name side expected) fun _ _ _ hc => compare_invalidValue hc

end Eligibility.Validation
