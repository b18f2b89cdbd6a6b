import Eligibility.Proofs.Resource.Findings
import Eligibility.Proofs.Resource.RoundTrip
import Eligibility.Validation.Compare
set_option autoImplicit false

/-!
# Validation: requirements and their raw forms

What a statement requires can be handed on as requirements or as raw texts, which are read
again when they are compared.  Both come to the same: a requirement that stands in a line is
what its raw form stands for, so a comparison cannot tell which of the two it was given.
-/

namespace Eligibility.Validation

open Trait (Requirement)

/-- A side that is something, reads as another one and has its text compares as that one. -/
theorem compare_congr {name : String} {found found' : Side} (expected : Side)
    (hpresent : found.isAbsent = false) (hpresent' : found'.isAbsent = false)
    (hread : found.read name = found'.read name) (htext : found.text = found'.text) :
    compare name (some found) expected = compare name (some found') expected := by
  have hboth : readBoth name found expected = readBoth name found' expected := by
    unfold readBoth
    rw [hread]
  have hfound : (some found).filter (!·.isAbsent) = some found := by simp [hpresent]
  have hfound' : (some found').filter (!·.isAbsent) = some found' := by simp [hpresent']
  simp only [compare, hfound, hfound', hboth, htext]

/-- Only what is found under the expected names plays a part in a comparison. -/
theorem compareAll_congr {found found' expected : Mapping Side}
    (h : ∀ x ∈ expected, compare x.1 (Mapping.get? x.1 found) x.2 =
      compare x.1 (Mapping.get? x.1 found') x.2) :
    compareAll found expected = compareAll found' expected := by
  unfold compareAll
  have hsteps : (expected.mapM fun x => compare x.1 (Mapping.get? x.1 found) x.2) =
      expected.mapM fun x => compare x.1 (Mapping.get? x.1 found') x.2 := by
    induction expected with
    | nil => rfl
    | cons x rest ih =>
      have hrest := ih fun y hy => h y (List.mem_cons_of_mem x hy)
      rw [List.mapM_cons, List.mapM_cons, h x List.mem_cons_self, hrest]
  rw [hsteps]

/-- What a scan finds under a name is what its raw form stands for under that name. -/
theorem parse_raw_of_gather {lines : List String} {f : Resource.Findings}
    (h : Resource.gather lines = .ok f) {provider name : String} {r : Requirement}
    (hfound : Mapping.get? name (f.traitsFor provider) = some r) :
    Requirement.parse name (.text r.raw) = .ok r := by
  rw [Resource.get?_traitsFor_of_gather h] at hfound
  obtain ⟨line, -, hline⟩ := List.exists_of_findSome?_eq_some hfound
  obtain ⟨htrait, hname⟩ := Option.filter_eq_some_iff.mp hline
  obtain ⟨-, hparse⟩ := Resource.trait_of_traitOf? (Resource.traitIn?_eq_some.mp htrait)
  exact of_decide_eq_true hname ▸ hparse

/-- The findings of a scan compare as their raw forms do. -/
theorem compareAll_raw {lines : List String} {f : Resource.Findings}
    (h : Resource.gather lines = .ok f) (provider : String) (expected : Mapping Side) :
    compareAll ((f.traitsFor provider).mapValues fun r => .raw (.text r.raw)) expected =
      compareAll ((f.traitsFor provider).mapValues .requirement) expected := by
  apply compareAll_congr
  intro x _
  rw [Mapping.get?_mapValues, Mapping.get?_mapValues]
  cases hfound : Mapping.get? x.1 (f.traitsFor provider) with
  | none => rfl
  | some r => exact compare_congr x.2 rfl rfl (parse_raw_of_gather h hfound) rfl

/-- To read the traits of a provider as raw texts and compare these is to compare the statement:
the verdict is the same, and so is the fault if there is none. -/
theorem compareStatement_eq_raw (message provider : String) (expected : Mapping Side) :
    (do
      let found ← Resource.rawTraitsIn message provider
      (compareAll (found.mapValues fun s => .raw (.text s)) expected).mapError .trait) =
    compareStatement message provider expected := by
  unfold compareStatement Resource.rawTraitsIn Resource.traitsIn
  cases hscan : Resource.scan message with
  | error fault => rfl
  | ok f =>
    obtain ⟨-, hgather⟩ := Resource.scan_eq_ok.mp hscan
    have hmap : (Mapping.mapValues (·.raw) (f.traitsFor provider)).mapValues
        (fun s => Side.raw (.text s)) =
          (f.traitsFor provider).mapValues fun r => .raw (.text r.raw) := by
      simp only [Mapping.mapValues, List.map_map, Function.comp_def]
    have hcompare := compareAll_raw hgather provider expected
    rw [← hmap] at hcompare
    exact congrArg (·.mapError Resource.ScanFault.trait) hcompare

end Eligibility.Validation
