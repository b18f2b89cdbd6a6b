import Eligibility.Gate
import Eligibility.Proofs.Resource.Findings
set_option autoImplicit false

/-!
# The gate: its decision

What a gate decides is told here without its pass over the statement.  Of each
expected trait only the last line counts that holds it for the provider, and of
the action the last line that asks for one.  The verdict is this rule, and so
nothing else in the statement matters.
-/

namespace Eligibility

open Resource (lastTrait? lastAction? linesOf)
open Trait (Raw Requirement)
open Validation (Mismatch Reason Verdict)

/-! ## The rule -/

/-- What is wrong with the requirement that was found, against the expected one. -/
def Validation.unmet? (found : Option Requirement) (expected : Requirement) : Option Reason :=
  match found with
  | none => some .missing
  | some r =>
    if r.isWellTyped = false then some .unsupportedOperator
    else if r.atLeastAsStrict expected = true then none
    else some .notStrictEnough

namespace Gate

/-- How the lines of a statement miss an expected trait. -/
def mismatch? (lines : List String) (provider : String) (e : Expectation) : Option Mismatch :=
  (Validation.unmet? (lastTrait? lines provider e.name) e.requirement).map fun reason =>
    ⟨e.name, e.raw, (lastTrait? lines provider e.name).map (·.raw), reason⟩

/-- How the lines of a statement miss an expected action. -/
def actionMismatch? (lines : List String) : Option String → Option Mismatch
  | none => none
  | some a =>
    match lastAction? lines with
    | none => some ⟨"action", a, none, .missing⟩
    | some b => if b = a then none else some ⟨"action", a, some b, .unexpectedAction⟩

/-! ## Making a gate -/

theorem read_expectation {name raw : String} {e : Expectation}
    (h : Expectation.read name raw = .ok e) : e.name = name ∧ e.raw = raw := by
  unfold Expectation.read at h
  split at h
  · simp at h
  · split at h
    · obtain rfl := Except.ok.inj h
      exact ⟨rfl, rfl⟩
    · simp at h

/-- Every value that a gate is made with can be written. -/
theorem isLong_of_make {provider : String} {expected : Mapping Raw} {action : Option String}
    {g : Gate} (h : make provider expected action = .ok g) :
    ∀ x ∈ expected, x.2.isLong = false := by
  unfold make at h
  obtain ⟨texts, htexts, -⟩ := Outcome.bind_eq_ok.mp h
  intro x hx
  obtain ⟨_, -, hstep⟩ := Outcome.exists_of_map_ok (Outcome.mapM_eq_ok.mp htexts) hx
  obtain ⟨s, hs, -⟩ := Outcome.bind_eq_ok.mp hstep
  exact (Raw.render_eq_ok.mp hs).1

/-- A gate expects what it was made with, in the same order. -/
theorem make_eq_ok {provider : String} {expected : Mapping Raw} {action : Option String}
    {g : Gate} (h : make provider expected action = .ok g) :
    g.provider = provider ∧ g.action = action ∧
      g.expected.map (fun e => (e.name, e.raw)) = expected.map fun x => (x.1, x.2.written) := by
  unfold make at h
  simp only [Outcome.bind_eq_ok, Outcome.pure_eq_ok] at h
  obtain ⟨texts, htexts, es, hes, rfl⟩ := h
  have hwritten : texts.map id = expected.map fun x => (x.1, x.2.written) := by
    refine Outcome.map_eq_of_map_ok ?_ (Outcome.mapM_eq_ok.mp htexts)
    intro x y hxy
    obtain ⟨s, hs, hy⟩ := Outcome.bind_eq_ok.mp hxy
    obtain rfl := Outcome.pure_eq_ok.mp hy
    rw [(Raw.render_eq_ok.mp hs).2, id]
  have hread : es.map (fun e => (e.name, e.raw)) = texts.map id := by
    refine Outcome.map_eq_of_map_ok ?_ (Outcome.mapM_eq_ok.mp hes)
    intro x e he
    obtain ⟨hn, hr⟩ := read_expectation he
    rw [hn, hr, id]
  exact ⟨rfl, rfl, hread.trans hwritten⟩

/-- The gate of every scenario can be made, and nothing of it is left out of a statement: the traits
have names of their own, and the action is not empty. -/
theorem ofScenario_of_mem {s : Scenario} (h : s ∈ Scenario.all) :
    (∃ g, ofScenario s = .ok g) ∧ Mapping.Distinct s.traits ∧ s.action ≠ "" := by
  have hall : ∀ s ∈ Scenario.all, (ofScenario s).toBool = true ∧
      (Mapping.keys s.traits).Nodup ∧ s.action ≠ "" := by decide
  obtain ⟨hmakes, hdistinct, haction⟩ := hall s h
  refine ⟨?_, hdistinct, haction⟩
  cases hg : ofScenario s with
  | ok g => exact ⟨g, rfl⟩
  | error fault => simp [hg, Except.toBool] at hmakes

/-! ## Checking -/

/-- The comparison of one expected trait is the rule for it. -/
theorem compare_expectation (lines : List String) (provider : String) (e : Expectation) :
    Validation.compare e.name ((lastTrait? lines provider e.name).map .requirement)
      (.raw (.text e.raw)) = .ok (mismatch? lines provider e) := by
  unfold mismatch?
  cases lastTrait? lines provider e.name with
  | none => rfl
  | some found =>
    have hread : Validation.readBoth e.name (.requirement found) (.raw (.text e.raw)) =
        .ok (some (found, e.requirement)) := by
      simp [Validation.readBoth, Validation.Side.read, e.parses]
    have hreason : Validation.reasonAgainst? found e.requirement =
        Validation.unmet? (some found) e.requirement := by
      cases hw : found.isWellTyped <;>
        simp [Validation.reasonAgainst?, Validation.unmet?, e.wellTyped, hw]
    rw [Option.map_some, Validation.compare_of_present rfl rfl rfl, hread, ← hreason]
    rfl

theorem compareAction_eq (lines : List String) (action : Option String) :
    compareAction action (lastAction? lines) = actionMismatch? lines action := by
  cases action with
  | none => rfl
  | some a =>
    simp only [compareAction, actionMismatch?]
    cases lastAction? lines with
    | none => rfl
    | some b => by_cases h : b = a <;> simp [h, actionTrait]

/-- A gate's verdict on a statement is the rule on its lines. -/
theorem check_of_scan (g : Gate) {message : String} {f : Resource.Findings}
    (h : Resource.scan message = .ok f) :
    g.check message = .ok ⟨g.expected.filterMap (mismatch? (linesOf message) g.provider) ++
      (actionMismatch? (linesOf message) g.action).toList⟩ := by
  obtain ⟨-, hg⟩ := Resource.scan_eq_ok.mp h
  have hcompare : ∀ x ∈ g.sides,
      Validation.compare x.1
        (Mapping.get? x.1 ((f.traitsFor g.provider).mapValues .requirement)) x.2 =
      Validation.compare x.1
        ((lastTrait? (linesOf message) g.provider x.1).map .requirement) x.2 := by
    intro x hx
    rw [Mapping.get?_mapValues, Resource.get?_traitsFor_of_gather hg]
  have hsides : g.sides.mapM (fun x => Validation.compare x.1
        (Mapping.get? x.1 ((f.traitsFor g.provider).mapValues .requirement)) x.2) =
      .ok (g.expected.map (mismatch? (linesOf message) g.provider)) := by
    rw [Outcome.mapM_eq_ok, List.map_congr_left hcompare]
    unfold sides
    rw [List.map_map, List.map_map]
    exact List.map_congr_left fun e _ => compare_expectation _ _ e
  unfold check
  simp only [Outcome.bind_eq_ok, Outcome.pure_eq_ok, Outcome.ok_of_mapError, h]
  refine ⟨f, rfl, ⟨g.expected.filterMap (mismatch? (linesOf message) g.provider)⟩, ?_, ?_⟩
  · unfold Validation.compareAll
    rw [Outcome.bind_eq_ok]
    refine ⟨_, hsides, ?_⟩
    rw [Outcome.pure_eq_ok, List.filterMap_map]
    rfl
  · rw [Resource.action_of_gather hg, compareAction_eq]

/-- Nothing is wrong exactly if a requirement was found, is well typed and is at least as strict. -/
theorem unmet?_eq_none {found : Option Requirement} {expected : Requirement} :
    Validation.unmet? found expected = none ↔
      ∃ r, found = some r ∧ r.isWellTyped = true ∧ r.atLeastAsStrict expected = true := by
  cases found with
  | none => simp [Validation.unmet?]
  | some r =>
    cases hw : r.isWellTyped <;> cases hs : r.atLeastAsStrict expected <;>
      simp [Validation.unmet?, hw, hs]

theorem actionMismatch?_eq_none {lines : List String} {action : Option String} :
    actionMismatch? lines action = none ↔ ∀ a, action = some a → lastAction? lines = some a := by
  cases action with
  | none => simp [actionMismatch?]
  | some a =>
    simp only [actionMismatch?, Option.some.injEq, forall_eq']
    cases lastAction? lines with
    | none => simp
    | some b => simp

theorem reason_ne_invalidValue {lines : List String} {provider : String} {e : Expectation}
    {m : Mismatch} (h : mismatch? lines provider e = some m) : m.reason ≠ .invalidValue := by
  obtain ⟨reason, hreason, rfl⟩ := Option.map_eq_some_iff.mp h
  unfold Validation.unmet? at hreason
  split at hreason
  · simp [← Option.some.inj hreason]
  · split at hreason
    · simp [← Option.some.inj hreason]
    · split at hreason
      · simp at hreason
      · simp [← Option.some.inj hreason]

theorem actionReason_ne_invalidValue {lines : List String} {action : Option String} {m : Mismatch}
    (h : actionMismatch? lines action = some m) : m.reason ≠ .invalidValue := by
  unfold actionMismatch? at h
  split at h
  · simp at h
  · split at h
    · simp [← Option.some.inj h]
    · split at h
      · simp at h
      · simp [← Option.some.inj h]

/-- The decision of a gate is the rule on the lines of the statement.  Each expected trait is met
by its last line or gives one mismatch, in the order in which the gate was made; the action gives
one more at the end, or none.  Statements in which the last line of every expected trait and the
last action agree get the same verdict. -/
theorem check_decides {provider : String} {expected : Mapping Raw} {action : Option String}
    {g : Gate} (hg : make provider expected action = .ok g) {message : String}
    {f : Resource.Findings} (hs : Resource.scan message = .ok f) :
    g.expected.map (fun e => (e.name, e.raw)) = expected.map (fun x => (x.1, x.2.written)) ∧
    ∃ verdict, g.check message = .ok verdict ∧
      (verdict.isValid = true ↔
        (∀ e ∈ g.expected, ∃ found, lastTrait? (linesOf message) provider e.name = some found ∧
          found.isWellTyped = true ∧ found.atLeastAsStrict e.requirement = true) ∧
        ∀ a, action = some a → lastAction? (linesOf message) = some a) ∧
      verdict.mismatches = g.expected.filterMap (mismatch? (linesOf message) provider) ++
        (actionMismatch? (linesOf message) action).toList ∧
      (∀ m ∈ verdict.mismatches, m.reason ≠ .invalidValue) ∧
      ∀ message' f', Resource.scan message' = .ok f' →
        (∀ e ∈ g.expected, lastTrait? (linesOf message') provider e.name =
          lastTrait? (linesOf message) provider e.name) →
        lastAction? (linesOf message') = lastAction? (linesOf message) →
        g.check message' = .ok verdict := by
  obtain ⟨rfl, rfl, hexpected⟩ := make_eq_ok hg
  refine ⟨hexpected, _, check_of_scan g hs, ?_, rfl, ?_, ?_⟩
  · simp only [Verdict.isValid, List.isEmpty_iff, List.append_eq_nil_iff,
      List.filterMap_eq_nil_iff, Option.toList_eq_nil_iff, actionMismatch?_eq_none]
    simp only [mismatch?, Option.map_eq_none_iff, unmet?_eq_none]
  · intro m hm
    rcases List.mem_append.mp hm with hm | hm
    · obtain ⟨e, -, he⟩ := List.mem_filterMap.mp hm
      exact reason_ne_invalidValue he
    · exact actionReason_ne_invalidValue (Option.mem_toList.mp hm)
  · intro message' f' hs' htraits haction
    have hmismatch : ∀ e ∈ g.expected, mismatch? (linesOf message') g.provider e =
        mismatch? (linesOf message) g.provider e := by
      intro e he
      unfold mismatch?
      rw [htraits e he]
    have hact : actionMismatch? (linesOf message') g.action =
        actionMismatch? (linesOf message) g.action := by
      unfold actionMismatch?
      rw [haction]
    rw [check_of_scan g hs', hact, List.filterMap_congr hmismatch]

/-- A statement in which a weaker line follows a correct one. -/
def weakerRepetition : String :=
  "Resources:\n- urn:verify:provider:x:age:gte:21\n- urn:verify:provider:x:age:gte:18"

/-- The weaker line counts, so it cannot hide behind the correct one. -/
theorem check_weakerRepetition :
    ∃ g f verdict, make "x" [("age", .text "gte:21")] none = .ok g ∧
      Resource.scan weakerRepetition = .ok f ∧ g.check weakerRepetition = .ok verdict ∧
      verdict.mismatches = [⟨"age", "gte:21", some "gte:18", .notStrictEnough⟩] := by
  have hg : make "x" [("age", .text "gte:21")] none =
      .ok ⟨"x", [⟨"age", "gte:21", ⟨"age", .gte, "21", .integer 21, by rfl⟩, by rfl, by rfl⟩],
        none⟩ := by rfl
  obtain ⟨f, hf⟩ : ∃ f, Resource.scan weakerRepetition = .ok f := ⟨_, by rfl⟩
  obtain ⟨-, verdict, hcheck, -, hm, -⟩ := check_decides hg hf
  exact ⟨_, f, verdict, hg, hf, hcheck, hm.trans (by rfl)⟩

end Gate

end Eligibility
