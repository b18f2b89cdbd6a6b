import Eligibility.Proofs.Mapping
import Eligibility.Proofs.Resource.Reading
import Mathlib.Data.List.Basic
set_option autoImplicit false

/-!
# Resources: what a scan finds

A scan is one pass that carries its findings along.  What one line adds to each
part of them is a step lemma, what a run adds follows by induction, and the
readings of the lines give way to the questions that each line answers by itself.
The last line that answers counts, for the action and the verification as for
every trait.
-/

namespace Eligibility.Resource

open Trait (Requirement)

/-! ## What one line adds -/

namespace Reading

/-- The requirement of a provider in a reading. -/
def trait? (p : String) : Reading → Option Requirement
  | .trait q r => if q = p then some r else none
  | _ => none

/-- The provider that a reading names. -/
def scope? : Reading → Option String
  | .scope p => some p
  | _ => none

/-- The action of a reading. -/
def action? : Reading → Option String
  | .action a => some a
  | _ => none

/-- The verification of a reading. -/
def verification? : Reading → Option String
  | .verification v => some v
  | _ => none

end Reading

/-- A provider at the end of a list, unless the list has it. -/
def addNew (ps : List String) (p : String) : List String := if p ∈ ps then ps else ps ++ [p]

namespace Findings

variable (f : Findings) (line : String) (reading : Reading)

theorem resources_add : (f.add line reading).resources = f.resources ++ [line] := by
  cases reading with
  | scope p => simp only [add]; split <;> rfl
  | trait p r | action a | verification v | malformed | foreign => rfl

theorem action_add : (f.add line reading).action = reading.action?.or f.action := by
  cases reading with
  | scope p => simp only [add]; split <;> rfl
  | trait p r | action a | verification v | malformed | foreign => rfl

theorem verification_add :
    (f.add line reading).verification = reading.verification?.or f.verification := by
  cases reading with
  | scope p => simp only [add]; split <;> rfl
  | trait p r | action a | verification v | malformed | foreign => rfl

theorem malformed_add : (f.add line reading).malformed =
    f.malformed ++ if reading = .malformed then [line] else [] := by
  cases reading with
  | scope p => simp only [add]; split <;> simp
  | trait p r | action a | verification v | foreign => simp [add, addTrait, addAction]
  | malformed => rfl

theorem providers_add : (f.add line reading).providers =
    reading.scope?.toList.foldl addNew f.providers := by
  cases reading with
  | scope p =>
    simp only [add, Reading.scope?, Option.toList_some, List.foldl_cons, List.foldl_nil, addNew]
    split <;> rfl
  | trait p r | action a | verification v | malformed | foreign => rfl

theorem traitsFor_add (p : String) : (f.add line reading).traitsFor p =
    Mapping.putAll (f.traitsFor p) ((reading.trait? p).toList.map fun r => (r.name, r)) := by
  cases reading with
  | scope q => simp only [add]; split <;> rfl
  | trait q r =>
    by_cases h : q = p
    · subst h
      simp [add, addTrait, traitsFor, Reading.trait?, Mapping.get?_put, Mapping.putAll]
    · simp [add, addTrait, traitsFor, Reading.trait?, Mapping.get?_put, Mapping.putAll, h]
  | action a | verification v | malformed | foreign => rfl

/-! ## What a run adds -/

/-- Add what lines say, one after another. -/
def addAll (readings : List (String × Reading)) : Findings :=
  readings.foldl (fun f x => f.add x.1 x.2) f

theorem addAll_cons (x : String × Reading) (readings : List (String × Reading)) :
    f.addAll (x :: readings) = (f.add x.1 x.2).addAll readings := rfl

variable (readings : List (String × Reading))

theorem resources_addAll : (f.addAll readings).resources = f.resources ++ readings.map (·.1) := by
  induction readings generalizing f with
  | nil => simp [addAll]
  | cons x rest ih => rw [addAll_cons, ih, resources_add]; simp

theorem action_addAll : (f.addAll readings).action =
    (readings.reverse.findSome? (·.2.action?)).or f.action := by
  induction readings generalizing f with
  | nil => simp [addAll]
  | cons x rest ih =>
    rw [addAll_cons, ih, action_add, List.reverse_cons, List.findSome?_append, Option.or_assoc]
    simp

theorem verification_addAll : (f.addAll readings).verification =
    (readings.reverse.findSome? (·.2.verification?)).or f.verification := by
  induction readings generalizing f with
  | nil => simp [addAll]
  | cons x rest ih =>
    rw [addAll_cons, ih, verification_add, List.reverse_cons, List.findSome?_append,
      Option.or_assoc]
    simp

theorem malformed_addAll : (f.addAll readings).malformed =
    f.malformed ++ (readings.filter (·.2 = .malformed)).map (·.1) := by
  induction readings generalizing f with
  | nil => simp [addAll]
  | cons x rest ih =>
    rw [addAll_cons, ih, malformed_add, List.append_assoc]
    by_cases h : x.2 = .malformed <;> simp [h]

theorem providers_addAll : (f.addAll readings).providers =
    (readings.filterMap (·.2.scope?)).foldl addNew f.providers := by
  induction readings generalizing f with
  | nil => simp [addAll]
  | cons x rest ih =>
    rw [addAll_cons, ih, providers_add]
    cases h : x.2.scope? <;> simp [h]

theorem traitsFor_addAll (p : String) : (f.addAll readings).traitsFor p =
    Mapping.putAll (f.traitsFor p)
      ((readings.filterMap (·.2.trait? p)).map fun r => (r.name, r)) := by
  induction readings generalizing f with
  | nil => simp [addAll, Mapping.putAll]
  | cons x rest ih =>
    rw [addAll_cons, ih, traitsFor_add]
    cases h : x.2.trait? p <;> simp [h, Mapping.putAll]

end Findings

/-! ## The findings of lines -/

/-- The requirement of a provider under a name: the last line that holds one counts. -/
def lastTrait? (lines : List String) (p name : String) : Option Requirement :=
  lines.reverse.findSome? fun line => (traitIn? p line).filter (·.name = name)

/-- The action that is asked for: the last line that asks for one counts. -/
def lastAction? (lines : List String) : Option String := lines.reverse.findSome? actionIn?

/-- Lines with what each of them says. -/
structure Reads (lines : List String) (readings : List (String × Reading)) : Prop where
  lines : readings.map (·.1) = lines
  reads : ∀ x ∈ readings, read x.1 = .ok x.2

theorem Reads.append {lines lines' : List String} {readings readings' : List (String × Reading)}
    (h : Reads lines readings) (h' : Reads lines' readings') :
    Reads (lines ++ lines') (readings ++ readings') := by
  refine ⟨by rw [List.map_append, h.lines, h'.lines], ?_⟩
  intro x hx
  rcases List.mem_append.mp hx with hx | hx
  · exact h.reads x hx
  · exact h'.reads x hx

theorem readAll_eq_ok {lines : List String} {readings : List (String × Reading)} :
    readAll lines = .ok readings ↔ Reads lines readings := by
  unfold readAll
  rw [Outcome.mapM_eq_ok]
  constructor
  · intro h
    induction lines generalizing readings with
    | nil =>
      obtain rfl : readings = [] := by simpa using h.symm
      exact ⟨rfl, by simp⟩
    | cons line rest ih =>
      cases readings with
      | nil => simp at h
      | cons x readings =>
        rw [List.map_cons, List.map_cons, List.cons.injEq] at h
        simp only [Outcome.bind_eq_ok, Outcome.pure_eq_ok] at h
        obtain ⟨⟨reading, hread, rfl⟩, hrest⟩ := h
        have hr := ih hrest
        refine ⟨by simp [hr.lines], ?_⟩
        intro y hy
        rcases List.mem_cons.mp hy with rfl | hy
        · exact hread
        · exact hr.reads y hy
  · rintro ⟨rfl, hreads⟩
    rw [List.map_map]
    refine List.map_congr_left fun x hx => ?_
    simp only [Function.comp_apply, Outcome.bind_eq_ok, Outcome.pure_eq_ok]
    exact ⟨x.2, hreads x hx, rfl⟩

theorem gather_eq_ok {lines : List String} {f : Findings} :
    gather lines = .ok f ↔
      ∃ readings, Reads lines readings ∧ f = Findings.addAll {} readings := by
  unfold gather
  simp only [Outcome.bind_eq_ok, Outcome.pure_eq_ok, readAll_eq_ok]
  constructor
  · rintro ⟨readings, h, rfl⟩
    exact ⟨readings, h, rfl⟩
  · rintro ⟨readings, h, rfl⟩
    exact ⟨readings, h, rfl⟩

theorem Reads.filterMap {α : Type} {lines : List String} {readings : List (String × Reading)}
    (h : Reads lines readings) {ofReading : Reading → Option α} {ofLine : String → Option α}
    (heq : ∀ line reading, read line = .ok reading → ofReading reading = ofLine line) :
    readings.filterMap (fun x => ofReading x.2) = lines.filterMap ofLine := by
  rw [← h.lines, List.filterMap_map]
  exact List.filterMap_congr fun x hx => heq x.1 x.2 (h.reads x hx)

theorem trait?_eq_traitIn? {line : String} {reading : Reading} (h : read line = .ok reading)
    (p : String) : reading.trait? p = traitIn? p line := by
  apply Option.ext
  intro r
  rw [← read_eq_trait, h]
  cases reading <;> simp [Reading.trait?]

theorem scope?_eq_scopeIn? {line : String} {reading : Reading} (h : read line = .ok reading) :
    reading.scope? = scopeIn? line := by
  apply Option.ext
  intro p
  rw [← read_eq_scope, h]
  cases reading <;> simp [Reading.scope?]

theorem action?_eq_actionIn? {line : String} {reading : Reading} (h : read line = .ok reading) :
    reading.action? = actionIn? line := by
  apply Option.ext
  intro a
  rw [← read_eq_action, h]
  cases reading <;> simp [Reading.action?]

theorem verification?_eq_verificationIn? {line : String} {reading : Reading}
    (h : read line = .ok reading) : reading.verification? = verificationIn? line := by
  apply Option.ext
  intro v
  rw [← read_eq_verification, h]
  cases reading <;> simp [Reading.verification?]

section

variable {lines : List String} {f : Findings} (h : gather lines = .ok f)

include h

theorem resources_of_gather : f.resources = lines := by
  obtain ⟨readings, hr, rfl⟩ := gather_eq_ok.mp h
  rw [Findings.resources_addAll, hr.lines]
  rfl

/-- The last action counts. -/
theorem action_of_gather : f.action = lastAction? lines := by
  obtain ⟨readings, hr, rfl⟩ := gather_eq_ok.mp h
  rw [lastAction?, Findings.action_addAll, ← List.getLast?_filterMap, ← List.getLast?_filterMap,
    hr.filterMap fun _ _ => action?_eq_actionIn?]
  simp

/-- The last verification counts. -/
theorem verification_of_gather : f.verification = lines.reverse.findSome? verificationIn? := by
  obtain ⟨readings, hr, rfl⟩ := gather_eq_ok.mp h
  rw [Findings.verification_addAll, ← List.getLast?_filterMap, ← List.getLast?_filterMap,
    hr.filterMap fun _ _ => verification?_eq_verificationIn?]
  simp

theorem malformed_of_gather : f.malformed = lines.filter isMalformed := by
  obtain ⟨readings, hr, rfl⟩ := gather_eq_ok.mp h
  have hsame : ∀ x ∈ readings, decide (x.2 = .malformed) = isMalformed x.1 := by
    intro x hx
    simp only [isMalformed, hr.reads x hx]
    cases x.2 <;> rfl
  rw [Findings.malformed_addAll, ← hr.lines, List.filter_map, List.filter_congr hsame]
  rfl

theorem providers_of_gather : f.providers = (lines.filterMap scopeIn?).foldl addNew [] := by
  obtain ⟨readings, hr, rfl⟩ := gather_eq_ok.mp h
  rw [Findings.providers_addAll, hr.filterMap fun _ _ => scope?_eq_scopeIn?]

/-- The traits of a provider are those of its lines, put one after another. -/
theorem traitsFor_of_gather (p : String) : f.traitsFor p =
    Mapping.ofPairs ((lines.filterMap (traitIn? p)).map fun r => (r.name, r)) := by
  obtain ⟨readings, hr, rfl⟩ := gather_eq_ok.mp h
  rw [Findings.traitsFor_addAll, hr.filterMap fun _ _ h => trait?_eq_traitIn? h p]
  rfl

/-- The last trait of a name counts. -/
theorem get?_traitsFor_of_gather (p name : String) :
    Mapping.get? name (f.traitsFor p) = lastTrait? lines p name := by
  rw [traitsFor_of_gather h, Mapping.get?_ofPairs, ← List.map_reverse, List.findSome?_map,
    ← List.filterMap_reverse, ← List.head?_filterMap, List.filterMap_filterMap,
    List.head?_filterMap]
  unfold lastTrait?
  congr 1
  funext line
  cases traitIn? p line with
  | none => rfl
  | some r => by_cases hn : r.name = name <;> simp [Option.filter, hn]

end

theorem scan_eq_ok {message : String} {f : Findings} :
    scan message = .ok f ↔
      Text.isBlankText message = false ∧ gather (linesOf message) = .ok f := by
  unfold scan linesOfStatement
  cases hb : Text.isBlankText message with
  | true => simp
  | false => simp

end Eligibility.Resource
