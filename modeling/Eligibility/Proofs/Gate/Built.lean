import Eligibility.Proofs.Gate.Decision
import Eligibility.Proofs.Statement.Build
import Eligibility.Proofs.Trait.Implication
set_option autoImplicit false

/-!
# The gate: statements that are built for it

A statement that is built for the traits and the action that a gate expects meets
every expectation of that gate.  What the builder writes is what the scan finds, and
a requirement is at least as strict as itself, so nobody who signs what was built for
them is turned away.
-/

namespace Eligibility.Gate

open Resource (linesOf lastTrait? lastAction?)
open Statement (Choices Order Built)
open Trait (Raw Requirement)

/-- A raw value that can be written stands for what its text stands for. -/
theorem parse_written {raw : Raw} (h : raw.isLong = false) (name : String) :
    Requirement.parse name (.text raw.written) = Requirement.parse name raw := by
  rw [Requirement.parse, Requirement.parse, Raw.render_eq_ok.mpr ⟨h, rfl⟩, Raw.render_text]

/-- A gate expects what the traits that it was made with stand for. -/
theorem exists_raw_of_mem_expected {provider : String} {expected : Mapping Raw}
    {action : Option String} {g : Gate} (hg : make provider expected action = .ok g)
    {e : Expectation} (he : e ∈ g.expected) :
    ∃ raw, (e.name, raw) ∈ expected ∧ Requirement.parse e.name raw = .ok e.requirement := by
  obtain ⟨-, -, hexpected⟩ := make_eq_ok hg
  have hmem : (e.name, e.raw) ∈ expected.map fun x => (x.1, x.2.written) :=
    hexpected ▸ List.mem_map.mpr ⟨e, he, rfl⟩
  obtain ⟨⟨name, raw⟩, hx, heq⟩ := List.mem_map.mp hmem
  obtain ⟨rfl, hraw⟩ := Prod.mk.inj heq
  refine ⟨raw, hx, ?_⟩
  rw [← parse_written (isLong_of_make hg _ hx), hraw]
  exact e.parses

/-- A gate is made only of traits that can be read. -/
theorem parses_of_make {provider : String} {expected : Mapping Raw} {action : Option String}
    {g : Gate} (hg : make provider expected action = .ok g) :
    ∀ t ∈ expected, ∃ q, Requirement.parse t.1 t.2 = .ok q := by
  intro t ht
  obtain ⟨-, -, hexpected⟩ := make_eq_ok hg
  have hmem : (t.1, t.2.written) ∈ g.expected.map fun e => (e.name, e.raw) :=
    hexpected ▸ List.mem_map.mpr ⟨t, ht, rfl⟩
  obtain ⟨e, -, heq⟩ := List.mem_map.mp hmem
  obtain ⟨hname, hraw⟩ := Prod.mk.inj heq
  exact ⟨e.requirement, by rw [← parse_written (isLong_of_make hg t ht), ← hname, ← hraw, e.parses]⟩

/-- An expectation is met by a statement in which its own requirement counts. -/
theorem mismatch?_eq_none_of_self {lines : List String} {provider : String} {e : Expectation}
    (h : lastTrait? lines provider e.name = some e.requirement) :
    mismatch? lines provider e = none := by
  unfold mismatch?
  rw [Option.map_eq_none_iff, unmet?_eq_none]
  exact ⟨e.requirement, h, e.wellTyped, Requirement.atLeastAsStrict_refl e.wellTyped⟩

/-- A statement for the provider, the traits and the action that a gate was made with misses none of
its expectations, whatever else the statement says. -/
theorem check_of_build [Uri.Idna] {settings : Settings} {now : Calendar.Stamp}
    {choices : Choices} {o : Order}
    {b : Built} {provider : String} {action : Option String} {g : Gate}
    (hprovider : o.resources.provider = .text provider) (hne : provider ≠ "")
    (haction : o.resources.action = .ofText? action) (hsome : action ≠ some "")
    (hdistinct : o.resources.traits.Distinct)
    (hg : make provider o.resources.traits action = .ok g)
    (hb : (Statement.build settings now choices o).1 = .ok b) : g.check b.message = .ok ⟨[]⟩ := by
  obtain ⟨hrequest, hlines⟩ := Statement.linesOf_build hb
  obtain ⟨rs, hrs⟩ := Outcome.exists_map_ok (parses_of_make hg)
  obtain ⟨f, hf, hreports⟩ := Resource.reports_of_ofRequest hrequest hrs hdistinct
  have hscan : Resource.scan b.message = .ok f := by simp [Resource.scan, hlines, hf]
  obtain ⟨-, hgather⟩ := Resource.scan_eq_ok.mp hscan
  obtain ⟨rfl, rfl, -⟩ := make_eq_ok hg
  have hgiven : Resource.given? o.resources.provider = some g.provider := by
    rw [hprovider, Resource.given?_text hne]
  have htraits : ∀ e ∈ g.expected, mismatch? (linesOf b.message) g.provider e = none := by
    intro e he
    obtain ⟨raw, hraw, hparse⟩ := exists_raw_of_mem_expected hg he
    apply mismatch?_eq_none_of_self
    rw [← Resource.get?_traitsFor_of_gather hgather]
    exact hreports.get?_traitsFor hgiven hdistinct hraw hparse
  have hact : actionMismatch? (linesOf b.message) g.action = none := by
    rw [actionMismatch?_eq_none]
    intro a ha
    have hnonempty : a ≠ "" := fun h => hsome (h ▸ ha)
    rw [← Resource.action_of_gather hgather, hreports.action, haction, ha]
    exact Resource.given?_text hnonempty
  rw [check_of_scan g hscan, hact, List.filterMap_eq_nil_iff.mpr htraits]
  rfl

end Eligibility.Gate
