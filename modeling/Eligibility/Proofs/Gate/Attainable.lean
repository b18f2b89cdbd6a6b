import Eligibility.Proofs.Gate.Decision
import Eligibility.Proofs.Gate.Refusal
import Eligibility.Proofs.Resource.Build
import Eligibility.Proofs.Resource.Section
import Eligibility.Proofs.Trait.Writable
set_option autoImplicit false

/-!
# The gate: whether any statement passes it

Making a gate reads its expected traits and looks at nothing else, so a gate can expect
what no line of a statement holds: a provider or a name with a colon, a text with a
space, an action without a character.  Nobody passes such a gate.  Here the gates that
some statement passes are told from the others by what they were made with.
-/

namespace Eligibility.Gate

open Resource (scan linesOf lastTrait? lastAction? traitLine actionLead Reading Reads)
open Trait (Raw Requirement IsToken)
open Validation (Verdict)

/-- What a gate expects can stand in the lines of a statement. -/
structure Attainable (g : Gate) : Prop where
  /-- The provider is a part of every expected line. -/
  provider : g.expected ≠ [] → IsToken g.provider
  name : ∀ e ∈ g.expected, IsToken e.name
  value : ∀ e ∈ g.expected, e.requirement.IsWritable
  /-- An action is taken at its word, whatever its characters, as long as it is on one line. -/
  action : ∀ a ∈ g.action, a ≠ "" ∧ '\n' ∉ a.toList

variable {g : Gate} {message : String}

/-- The requirement of an expectation has its name. -/
theorem requirement_name (e : Expectation) : e.requirement.name = e.name :=
  (Trait.Requirement.parse_eq_ok.mp e.parses).1

/-! ## Valid statements -/

/-- Lines that meet everything that a gate expects. -/
structure MetBy (g : Gate) (lines : List String) : Prop where
  traits : ∀ e ∈ g.expected, ∃ found, lastTrait? lines g.provider e.name = some found ∧
    found.isWellTyped = true ∧ found.atLeastAsStrict e.requirement = true
  action : ∀ a, g.action = some a → lastAction? lines = some a

theorem isValid_iff_metBy {f : Resource.Findings} (h : scan message = .ok f) :
    (∃ verdict, g.check message = .ok verdict ∧ verdict.isValid = true) ↔
      g.MetBy (linesOf message) := by
  simp only [check_of_scan g h, Except.ok.injEq, exists_eq_left', Verdict.isValid,
    List.isEmpty_iff, List.append_eq_nil_iff, List.filterMap_eq_nil_iff, Option.toList_eq_nil_iff,
    actionMismatch?_eq_none, mismatch?, Option.map_eq_none_iff, unmet?_eq_none]
  constructor
  · rintro ⟨htraits, haction⟩
    exact ⟨htraits, haction⟩
  · intro hmet
    exact ⟨hmet.traits, hmet.action⟩

/-- The trait that counts under a name stands in a line, which holds all of its parts. -/
theorem writable_of_lastTrait? {lines : List String} {p name : String} {r : Requirement}
    (h : lastTrait? lines p name = some r) :
    IsToken p ∧ IsToken r.name ∧ Uri.isPathText r.text = true ∧ r.name = name := by
  obtain ⟨line, -, hline⟩ := List.exists_of_findSome?_eq_some h
  obtain ⟨htrait, hname⟩ := Option.filter_eq_some_iff.mp hline
  obtain ⟨hp, hn, htext, -⟩ := Resource.traitOf?_eq_some.mp (Resource.traitIn?_eq_some.mp htrait)
  exact ⟨hp, hn, htext, of_decide_eq_true hname⟩

/-- The action that counts is not empty and stands on one line. -/
theorem noFeed_of_lastAction? {a : String} (h : lastAction? (linesOf message) = some a) :
    a ≠ "" ∧ '\n' ∉ a.toList := by
  obtain ⟨line, hline, haction⟩ := List.exists_of_findSome?_eq_some h
  obtain ⟨hne, rfl⟩ := Resource.actionIn?_eq_some.mp haction
  have hfeed := Resource.noFeed_of_mem_linesOf (List.mem_reverse.mp hline)
  rw [String.toList_append] at hfeed
  exact ⟨hne, fun hmem => hfeed (List.mem_append_right _ hmem)⟩

/-- Only an attainable gate is met. -/
theorem attainable_of_metBy (h : g.MetBy (linesOf message)) : g.Attainable := by
  have hline : ∀ e ∈ g.expected, IsToken g.provider ∧ IsToken e.name ∧
      e.requirement.IsWritable := by
    intro e he
    obtain ⟨found, hlast, htyped, hstrict⟩ := h.traits e he
    obtain ⟨hp, hn, htext, hname⟩ := writable_of_lastTrait? hlast
    refine ⟨hp, hname ▸ hn, (Requirement.isWritable_iff e.wellTyped).mpr ?_⟩
    exact ⟨found, hname.trans (requirement_name e).symm, htyped, hstrict, htext⟩
  refine ⟨?_, fun e he => (hline e he).2.1, fun e he => (hline e he).2.2, ?_⟩
  · intro hne
    obtain ⟨e, he⟩ := List.exists_mem_of_ne_nil _ hne
    exact (hline e he).1
  · intro a ha
    exact noFeed_of_lastAction? (h.action a ha)

/-- Only an attainable gate finds a statement valid. -/
theorem attainable_of_isValid {verdict : Verdict} (hcheck : g.check message = .ok verdict)
    (hvalid : verdict.isValid = true) : g.Attainable := by
  obtain ⟨f, hf⟩ := exists_check.mp ⟨verdict, hcheck⟩
  exact attainable_of_metBy ((isValid_iff_metBy hf).mp ⟨verdict, hcheck, hvalid⟩)

/-! ## A statement for an attainable gate -/

/-- Lines of a provider that hold requirements, and perhaps a line that asks for an action, each
with what it says. -/
def answer (p : String) (rs : List Requirement) (action : Option String) :
    List (String × Reading) :=
  rs.map (fun r => (traitLine p r, .trait p r)) ++
    action.toList.map fun a => (actionLead ++ a, .action a)

section

variable {p : String} {rs : List Requirement} {action : Option String}
  (htraits : ∀ r ∈ rs, Resource.traitIn? p (traitLine p r) = some r)

include htraits

theorem reads_answer (haction : ∀ a ∈ action, a ≠ "") :
    Reads ((answer p rs action).map (·.1)) (answer p rs action) := by
  refine ⟨rfl, ?_⟩
  intro x hx
  rcases List.mem_append.mp hx with hx | hx
  · obtain ⟨r, hr, rfl⟩ := List.mem_map.mp hx
    exact Resource.read_eq_trait.mpr (htraits r hr)
  · obtain ⟨a, ha, rfl⟩ := List.mem_map.mp hx
    exact Resource.read_eq_action.mpr
      (Resource.actionIn?_eq_some.mpr ⟨haction a (Option.mem_toList.mp ha), rfl⟩)

/-- Every line of an answer is one line. -/
theorem noFeed_answer (haction : ∀ a ∈ action, '\n' ∉ a.toList) :
    ∀ line ∈ (answer p rs action).map (·.1), '\n' ∉ line.toList := by
  intro line hline
  obtain ⟨x, hx, rfl⟩ := List.mem_map.mp hline
  rcases List.mem_append.mp hx with hx | hx
  · obtain ⟨r, hr, rfl⟩ := List.mem_map.mp hx
    exact (Resource.isResource_of_traitIn? (htraits r hr)).2.oneLine.noFeed
  · obtain ⟨a, ha, rfl⟩ := List.mem_map.mp hx
    simpa [actionLead] using haction a (Option.mem_toList.mp ha)

/-- Requirements with names of their own are what counts in their answer. -/
theorem lastTrait?_answer (haction : ∀ a ∈ action, a ≠ "")
    (hdistinct : (rs.map (·.name)).Nodup) {r : Requirement} (hr : r ∈ rs) :
    lastTrait? ((answer p rs action).map (·.1)) p r.name = some r := by
  have hgather := Resource.gather_eq_ok.mpr ⟨_, reads_answer htraits haction, rfl⟩
  have hpairs : Mapping.Distinct (rs.map fun r => (r.name, r)) := by
    simpa [Mapping.Distinct, Mapping.keys, Function.comp_def] using hdistinct
  have hfound : (answer p rs action).filterMap (·.2.trait? p) = rs := by
    simp [answer, List.filterMap_map, Reading.trait?]
  rw [← Resource.get?_traitsFor_of_gather hgather, Resource.Findings.traitsFor_addAll, hfound]
  have hempty : ({} : Resource.Findings).traitsFor p = [] := rfl
  rw [hempty, ← Mapping.ofPairs_eq_putAll, Mapping.ofPairs_of_distinct hpairs]
  exact Mapping.get?_of_mem hpairs (List.mem_map.mpr ⟨r, hr, rfl⟩)

theorem lastAction?_answer (haction : ∀ a ∈ action, a ≠ "") :
    lastAction? ((answer p rs action).map (·.1)) = action := by
  have hgather := Resource.gather_eq_ok.mpr ⟨_, reads_answer htraits haction, rfl⟩
  have hfound : (answer p rs action).filterMap (·.2.action?) = action.toList := by
    simp [answer, List.filterMap_map, Reading.action?]
  rw [← Resource.action_of_gather hgather, Resource.Findings.action_addAll,
    ← List.getLast?_filterMap, hfound]
  cases action <;> rfl

end

/-- For an attainable gate every expectation has a requirement that is as strict and that a line can
hold. -/
theorem exists_held (h : g.Attainable) (e : Expectation) :
    ∃ found : Requirement, e ∈ g.expected → found.name = e.name ∧ found.isWellTyped = true ∧
      found.atLeastAsStrict e.requirement = true ∧
      Resource.traitIn? g.provider (traitLine g.provider found) = some found := by
  by_cases he : e ∈ g.expected
  · obtain ⟨found, hname, htyped, hstrict, htext⟩ :=
      (Requirement.isWritable_iff e.wellTyped).mp (h.value e he)
    rw [requirement_name] at hname
    have hprovider := h.provider (List.ne_nil_of_mem he)
    have hline := Resource.traitIn?_eq_some.mpr
      (Resource.traitOf?_eq_some.mpr ⟨hprovider, hname ▸ h.name e he, htext, rfl⟩)
    exact ⟨found, fun _ => ⟨hname, htyped, hstrict, hline⟩⟩
  · exact ⟨e.requirement, fun hmem => absurd hmem he⟩

/-- Some statement meets an attainable gate. -/
theorem exists_metBy (hdistinct : (g.expected.map (·.name)).Nodup) (h : g.Attainable) :
    ∃ message f, scan message = .ok f ∧ g.MetBy (linesOf message) := by
  -- One line for each expectation; their names are those of the expectations, so the line of
  -- each is the last one of its name.
  choose found hfound using exists_held h
  have htraits : ∀ r ∈ g.expected.map found,
      Resource.traitIn? g.provider (traitLine g.provider r) = some r := by
    intro r hr
    obtain ⟨e, he, rfl⟩ := List.mem_map.mp hr
    exact (hfound e he).2.2.2
  have hnames : (g.expected.map found).map (·.name) = g.expected.map (·.name) := by
    rw [List.map_map]
    exact List.map_congr_left fun e he => (hfound e he).1
  have haction : ∀ a ∈ g.action, a ≠ "" := fun a ha => (h.action a ha).1
  have hgather := Resource.gather_eq_ok.mpr ⟨_, reads_answer htraits haction, rfl⟩
  have hmet : g.MetBy ((answer g.provider (g.expected.map found) g.action).map (·.1)) := by
    refine ⟨?_, ?_⟩
    · intro e he
      obtain ⟨hname, htyped, hstrict, -⟩ := hfound e he
      have hlast := lastTrait?_answer htraits haction (hnames ▸ hdistinct) (List.mem_map_of_mem he)
      exact ⟨found e, hname ▸ hlast, htyped, hstrict⟩
    · intro a ha
      rw [lastAction?_answer htraits haction, ha]
  rw [← Resource.linesOf_sectionText
    (noFeed_answer htraits fun a ha => (h.action a ha).2)] at hgather hmet
  exact ⟨_, _, Resource.scan_eq_ok.mpr ⟨Resource.isBlankText_sectionText _, hgather⟩, hmet⟩

/-- A gate that is made is passed by some statement exactly if everything that it expects can stand
in a line: making it does not look at the provider, at the names, at the characters of the values
or at the action. -/
theorem exists_valid_iff_attainable {provider : String} {expected : Mapping Raw}
    {action : Option String} (hdistinct : expected.Distinct)
    (hg : make provider expected action = .ok g) :
    (∃ message verdict, g.check message = .ok verdict ∧ verdict.isValid = true) ↔
      g.Attainable := by
  constructor
  · rintro ⟨message, verdict, hcheck, hvalid⟩
    exact attainable_of_isValid hcheck hvalid
  · intro h
    have hnames : g.expected.map (·.name) = expected.keys := by
      obtain ⟨-, -, hexpected⟩ := make_eq_ok hg
      simpa [Mapping.keys, Function.comp_def] using congrArg (List.map Prod.fst) hexpected
    obtain ⟨message, f, hf, hmet⟩ := exists_metBy (hnames ▸ hdistinct) h
    obtain ⟨verdict, hcheck, hvalid⟩ := (isValid_iff_metBy hf).mpr hmet
    exact ⟨message, verdict, hcheck, hvalid⟩

/-- The expectation of one of two cities, of which a line can hold the second. -/
def cityOfTwo : Expectation where
  name := "city"
  raw := "in:New York,Paris"
  requirement :=
    ⟨"city", .oneOf, "New York,Paris", .choice (Trait.Choice.ofList ["New York", "Paris"]), by rfl⟩
  parses := by rfl
  wellTyped := by rfl

/-- The gate of two cities is passed for the one without a space, even if its action has one. -/
theorem exists_valid_cityOfTwo :
    ∃ g, make "x" [("city", .text "in:New York,Paris")] (some "claim airdrop") = .ok g ∧
      ∃ message verdict, g.check message = .ok verdict ∧ verdict.isValid = true := by
  have hdistinct : Mapping.Distinct [("city", Raw.text "in:New York,Paris")] :=
    List.pairwise_singleton _ _
  have hmake : make "x" [("city", .text "in:New York,Paris")] (some "claim airdrop") =
      .ok ⟨"x", [cityOfTwo], some "claim airdrop"⟩ := by rfl
  have hattainable : Attainable ⟨"x", [cityOfTwo], some "claim airdrop"⟩ := by
    refine ⟨fun _ => ⟨by decide, by decide⟩, ?_, ?_, ?_⟩
    · exact List.forall_mem_singleton.mpr ⟨by decide, by decide⟩
    · exact List.forall_mem_singleton.mpr (by decide)
    · intro a ha
      obtain rfl := Option.some.inj ha
      decide
  exact ⟨_, hmake, (exists_valid_iff_attainable hdistinct hmake).mpr hattainable⟩

/-- The expectation of a city that no line can hold. -/
def spacedCity : Expectation where
  name := "city"
  raw := "New York"
  requirement := ⟨"city", .eq, "New York", .text "New York", by rfl⟩
  parses := by rfl
  wellTyped := by rfl

/-- The gate of a city with a space is made, and no statement passes it. -/
theorem not_valid_spacedCity :
    ∃ g, make "x" [("city", .text "New York")] none = .ok g ∧
      ∀ message verdict, g.check message = .ok verdict → verdict.isValid = false := by
  refine ⟨⟨"x", [spacedCity], none⟩, by rfl, ?_⟩
  intro message verdict hcheck
  rw [← Bool.not_eq_true]
  intro hvalid
  have hwritable := (attainable_of_isValid hcheck hvalid).value spacedCity List.mem_cons_self
  exact absurd hwritable (by decide)

end Eligibility.Gate
