import Eligibility.Proofs.Resource.Refusal
set_option autoImplicit false

/-!
# Resources: a scan as filters over the lines

A scan is one pass that carries its findings along and sends each line down one of
several branches.  Here the same findings are said without a pass.  The grammar of a
line is a relation that mentions no reader, every line says exactly one thing by it,
and each part of the findings is a filter over all the lines.  Findings that are what
the filters say are unique, so they are what a scan finds.
-/

namespace Eligibility.Resource

open Trait (Fault Requirement)

/-! ## The grammar of a line -/

/-- Lines that start as a resource of this library and do not follow its grammar. -/
inductive Rejected : String → Prop where
  /-- A provider line without a provider. -/
  | provider : Rejected providerLead
  /-- A trait line without a provider. -/
  | unscoped (body : String) : Rejected (providerLead ++ ":" ++ body)
  /-- A trait line in which its provider finds a fault. -/
  | trait {p body : String} {fault : Fault} (hne : p ≠ "") (hcolon : ':' ∉ p.toList)
      (h : traitOf? (providerLead ++ p ++ ":" ++ body) (.text p) = .error fault) :
      Rejected (providerLead ++ p ++ ":" ++ body)
  /-- An action line without an action. -/
  | action : Rejected actionLead
  /-- A verification line without a verification. -/
  | verification : Rejected verificationLead

/-- What a line says. -/
inductive Says : String → Reading → Prop where
  | scope {p : String} (hne : p ≠ "") (hcolon : ':' ∉ p.toList) :
      Says (providerLead ++ p) (.scope p)
  | trait {line p : String} {r : Requirement} (h : traitOf? line (.text p) = .ok (some r)) :
      Says line (.trait p r)
  | action {a : String} (hne : a ≠ "") : Says (actionLead ++ a) (.action a)
  | verification {v : String} (hne : v ≠ "") : Says (verificationLead ++ v) (.verification v)
  | malformed {line : String} (h : Rejected line) : Says line .malformed
  /-- A line with none of the leads: nothing with a lead is passed over. -/
  | foreign {line : String} (hprovider : ∀ rest, line ≠ providerLead ++ rest)
      (haction : ∀ a, line ≠ actionLead ++ a) (hverification : ∀ v, line ≠ verificationLead ++ v) :
      Says line .foreign

/-- A provider line stops at its lead, has no provider before its colon, names a provider and
nothing more, or goes on after its provider. -/
theorem provider_cases (rest : String) :
    rest = "" ∨ (∃ body, rest = ":" ++ body) ∨ (rest ≠ "" ∧ ':' ∉ rest.toList) ∨
      ∃ p body, p ≠ "" ∧ ':' ∉ p.toList ∧ rest = p ++ ":" ++ body := by
  cases hcut : Text.cutAt ':' rest with
  | mk p tail =>
    cases tail with
    | none =>
      obtain ⟨hcolon, rfl⟩ := Text.cutAt_eq_none.mp hcut
      by_cases hp : p = ""
      · exact .inl hp
      · exact .inr (.inr (.inl ⟨hp, hcolon⟩))
    | some body =>
      obtain ⟨hcolon, hrest⟩ := Text.cutAt_eq_some.mp hcut
      have hbody : rest = p ++ ":" ++ body := String.toList_inj.mp (by simp [hrest])
      by_cases hp : p = ""
      · exact .inr (.inl ⟨body, by simpa [hp] using hbody⟩)
      · exact .inr (.inr (.inr ⟨p, body, hp, hcolon, hbody⟩))

theorem read_provider : read providerLead = .ok .malformed := by
  have h := read_providerLead ""
  rw [String.append_empty] at h
  rw [h]
  rfl

theorem read_of_rejected {line : String} (h : Rejected line) :
    read line = .ok .malformed ∨ ∃ fault, read line = .error fault := by
  cases h with
  | provider => exact .inl read_provider
  | unscoped body =>
    have h := read_unscoped body
    rw [String.append_empty] at h
    exact .inl h
  | @trait p body fault hne hcolon h =>
    rw [read_scoped hne hcolon, h]
    cases hgrammar : fault.isGrammar with
    | true => exact .inl (by simp [hgrammar])
    | false => exact .inr ⟨fault, by simp [hgrammar]⟩
  | action =>
    have h := read_actionLead ""
    rw [String.append_empty] at h
    exact .inl h
  | verification =>
    have h := read_verificationLead ""
    rw [String.append_empty] at h
    exact .inl h

/-- A provider line is never passed over as foreign, and if it is not read as a provider or a
trait then the grammar rejects it. -/
theorem read_providerLine (rest : String) :
    (∃ p, read (providerLead ++ rest) = .ok (.scope p)) ∨
      (∃ p r, read (providerLead ++ rest) = .ok (.trait p r)) ∨
      Rejected (providerLead ++ rest) := by
  rcases provider_cases rest with rfl | ⟨body, rfl⟩ | ⟨hne, hcolon⟩ | ⟨p, body, hne, hcolon, rfl⟩
  · rw [String.append_empty]
    exact .inr (.inr .provider)
  · rw [← String.append_assoc]
    exact .inr (.inr (.unscoped body))
  · exact .inl ⟨rest, read_eq_scope.mpr (scopeIn?_eq_some.mpr ⟨hne, hcolon, rfl⟩)⟩
  · have hline : providerLead ++ (p ++ ":" ++ body) = providerLead ++ p ++ ":" ++ body := by
      simp [String.append_assoc]
    rw [hline]
    cases htrait : traitOf? (providerLead ++ p ++ ":" ++ body) (.text p) with
    | error fault => exact .inr (.inr (.trait hne hcolon htrait))
    | ok found =>
      cases found with
      | none => exact absurd htrait (traitOf?_ne_none p body)
      | some r => exact .inr (.inl ⟨p, r, read_eq_trait.mpr (traitIn?_eq_some.mpr htrait)⟩)

theorem rejected_iff {line : String} :
    Rejected line ↔ read line = .ok .malformed ∨ ∃ fault, read line = .error fault := by
  refine ⟨read_of_rejected, ?_⟩
  intro h
  rcases lead_cases line with ⟨rest, rfl⟩ | ⟨a, rfl⟩ | ⟨v, rfl⟩ | hforeign
  · rcases read_providerLine rest with ⟨p, hread⟩ | ⟨p, r, hread⟩ | hrejected
    · simp [hread] at h
    · simp [hread] at h
    · exact hrejected
  · have ha : a = "" := by simpa [read_actionLead] using h
    rw [ha, String.append_empty]
    exact .action
  · have hv : v = "" := by simpa [read_verificationLead] using h
    rw [hv, String.append_empty]
    exact .verification
  · simp [hforeign] at h

instance (line : String) : Decidable (Rejected line) :=
  match h : read line with
  | .ok .malformed => .isTrue (rejected_iff.mpr (.inl h))
  | .error fault => .isTrue (rejected_iff.mpr (.inr ⟨fault, h⟩))
  | .ok (.scope _) | .ok (.trait _ _) | .ok (.action _) | .ok (.verification _) | .ok .foreign =>
    .isFalse fun hr => by simp [rejected_iff, h] at hr

theorem read_eq_foreign {line : String} :
    read line = .ok .foreign ↔ (∀ rest, line ≠ providerLead ++ rest) ∧
      (∀ a, line ≠ actionLead ++ a) ∧ ∀ v, line ≠ verificationLead ++ v := by
  constructor
  · intro h
    refine ⟨?_, ?_, ?_⟩
    · rintro rest rfl
      rcases read_providerLine rest with ⟨p, hread⟩ | ⟨p, r, hread⟩ | hrejected
      · simp [hread] at h
      · simp [hread] at h
      · simp [rejected_iff, h] at hrejected
    · rintro a rfl
      rw [read_actionLead] at h
      split at h <;> simp at h
    · rintro v rfl
      rw [read_verificationLead] at h
      split at h <;> simp at h
  · intro h
    obtain ⟨hprovider, haction, hverification⟩ := h
    rcases lead_cases line with ⟨rest, hline⟩ | ⟨a, hline⟩ | ⟨v, hline⟩ | hforeign
    · exact absurd hline (hprovider rest)
    · exact absurd hline (haction a)
    · exact absurd hline (hverification v)
    · exact hforeign

/-- A line that is read says what is read, and a line that cannot be read is rejected. -/
theorem says_iff {line : String} {reading : Reading} :
    Says line reading ↔
      read line = .ok reading ∨ reading = .malformed ∧ ∃ fault, read line = .error fault := by
  constructor
  · intro h
    cases h with
    | scope hne hcolon => exact .inl (read_eq_scope.mpr (scopeIn?_eq_some.mpr ⟨hne, hcolon, rfl⟩))
    | trait h => exact .inl (read_eq_trait.mpr (traitIn?_eq_some.mpr h))
    | action hne => exact .inl (read_eq_action.mpr (actionIn?_eq_some.mpr ⟨hne, rfl⟩))
    | verification hne =>
      exact .inl (read_eq_verification.mpr (verificationIn?_eq_some.mpr ⟨hne, rfl⟩))
    | malformed h => exact (rejected_iff.mp h).imp_right fun hfault => ⟨rfl, hfault⟩
    | foreign hprovider haction hverification =>
      exact .inl (read_eq_foreign.mpr ⟨hprovider, haction, hverification⟩)
  · intro h
    rcases h with h | ⟨rfl, hfault⟩
    · cases reading with
      | scope p =>
        obtain ⟨hne, hcolon, rfl⟩ := scopeIn?_eq_some.mp (read_eq_scope.mp h)
        exact .scope hne hcolon
      | trait p r => exact .trait (traitIn?_eq_some.mp (read_eq_trait.mp h))
      | action a =>
        obtain ⟨hne, rfl⟩ := actionIn?_eq_some.mp (read_eq_action.mp h)
        exact .action hne
      | verification v =>
        obtain ⟨hne, rfl⟩ := verificationIn?_eq_some.mp (read_eq_verification.mp h)
        exact .verification hne
      | malformed => exact .malformed (rejected_iff.mpr (.inl h))
      | foreign =>
        obtain ⟨hprovider, haction, hverification⟩ := read_eq_foreign.mp h
        exact .foreign hprovider haction hverification
    · exact .malformed (rejected_iff.mpr (.inr hfault))

/-- Every line says exactly one thing. -/
theorem existsUnique_says (line : String) : ∃! reading, Says line reading := by
  cases hread : read line with
  | ok reading =>
    refine ⟨reading, says_iff.mpr (.inl hread), ?_⟩
    intro other h
    have hother : reading = other := by simpa [says_iff, hread] using h
    exact hother.symm
  | error fault =>
    refine ⟨.malformed, says_iff.mpr (.inr ⟨rfl, fault, hread⟩), ?_⟩
    intro other h
    simpa [says_iff, hread] using h

/-! ## Traits with their providers -/

/-- The trait that a line holds, with its provider. -/
def decoded? (line : String) : Option (String × Requirement) :=
  (Text.after? providerLead line).bind fun rest =>
    let p := (Text.cutAt ':' rest).1
    (traitIn? p line).map fun r => (p, r)

theorem decoded?_eq_some {line p : String} {r : Requirement} :
    decoded? line = some (p, r) ↔ traitIn? p line = some r := by
  constructor
  · intro h
    simp only [decoded?, Option.bind_eq_some_iff, Option.map_eq_some_iff, Prod.mk.injEq] at h
    obtain ⟨rest, -, r', htrait, hp, rfl⟩ := h
    rw [← hp]
    exact htrait
  · intro h
    obtain ⟨hp, -, -, hline⟩ := traitOf?_eq_some.mp (traitIn?_eq_some.mp h)
    have hafter : Text.after? providerLead line = some (p ++ ":" ++ r.encode) :=
      Text.after?_eq_some.mpr (by simp [hline, traitLine, String.append_assoc])
    have hcut : Text.cutAt ':' (p ++ ":" ++ r.encode) = (p, some r.encode) :=
      Text.cutAt_eq_some.mpr ⟨hp.noColon, by simp⟩
    simp [decoded?, hafter, hcut, h]

/-- The trait of a reading, with its provider. -/
def Reading.decoded? : Reading → Option (String × Requirement)
  | .trait p r => some (p, r)
  | _ => none

theorem decoded?_of_read {line : String} {reading : Reading} (h : read line = .ok reading) :
    reading.decoded? = decoded? line := by
  apply Option.ext
  intro ⟨p, r⟩
  rw [decoded?_eq_some, ← read_eq_trait, h]
  cases reading <;> simp [Reading.decoded?]

theorem Findings.keys_traits_add (f : Findings) (line : String) (reading : Reading) :
    Mapping.keys (f.add line reading).traits =
      (reading.decoded?.map (·.1)).toList.foldl addNew (Mapping.keys f.traits) := by
  cases reading with
  | scope p => simp only [add]; split <;> rfl
  | trait p r =>
    have hput : (f.add line (.trait p r)).traits =
        f.traits.put p ((f.traitsFor p).put r.name r) := rfl
    simp [hput, Mapping.keys_put, Reading.decoded?, addNew]
  | action a | verification v | malformed | foreign => rfl

theorem Findings.keys_traits_addAll (f : Findings) (readings : List (String × Reading)) :
    Mapping.keys (f.addAll readings).traits =
      (readings.filterMap (·.2.decoded?.map (·.1))).foldl addNew (Mapping.keys f.traits) := by
  induction readings generalizing f with
  | nil => rfl
  | cons x rest ih =>
    rw [addAll_cons, ih, keys_traits_add]
    cases h : x.2.decoded? <;> simp [h]

theorem foldl_addNew (xs : List String) : xs.foldl addNew [] = xs.eraseDups := by
  induction xs using List.reverseRecOn with
  | nil => rfl
  | append_singleton xs x ih =>
    rw [List.foldl_concat, ih, eraseDups_concat, addNew]
    simp only [List.mem_eraseDups]

theorem keys_traits_of_gather {lines : List String} {f : Findings} (h : gather lines = .ok f) :
    Mapping.keys f.traits = (lines.filterMap fun line => (decoded? line).map (·.1)).eraseDups := by
  obtain ⟨readings, hr, rfl⟩ := gather_eq_ok.mp h
  have hline : ∀ line reading, read line = .ok reading →
      reading.decoded?.map (·.1) = (decoded? line).map (·.1) := by
    intro line reading hread
    rw [decoded?_of_read hread]
  rw [Findings.keys_traits_addAll, hr.filterMap hline, ← foldl_addNew]
  rfl

/-! ## Warnings -/

/-- What a scan remarks on at a line, given the lines before it. -/
def remark? (before : List String) (line : String) : Option Warning :=
  match decoded? line, actionIn? line with
  | some (p, r), _ => (lastTrait? before p r.name).map fun old =>
      .duplicateTrait r.name p r.raw old.raw
  | none, some a => ((lastAction? before).filter (· ≠ a)).map fun old => .otherAction a old
  | none, none => none

/-- What a scan remarks on at the lines that follow `before`, in order. -/
def remarks (before : List String) : List String → List Warning
  | [] => []
  | line :: rest => (remark? before line).toList ++ remarks (before ++ [line]) rest

/-- What a reading is remarked on for, given what is found before it. -/
def Reading.remark? (f : Findings) : Reading → Option Warning
  | .trait p r => (Mapping.get? r.name (f.traitsFor p)).map fun old =>
      .duplicateTrait r.name p r.raw old.raw
  | .action a => (f.action.filter (· ≠ a)).map fun old => .otherAction a old
  | .scope _ | .verification _ | .malformed | .foreign => none

theorem Findings.warnings_add (f : Findings) (line : String) (reading : Reading) :
    (f.add line reading).warnings = f.warnings ++ (reading.remark? f).toList := by
  cases reading with
  | scope p => simp only [add, Reading.remark?]; split <;> simp
  | trait p r =>
    have hsame : ({ f with resources := f.resources ++ [line] } : Findings).traitsFor p =
        f.traitsFor p := rfl
    simp only [add, addTrait, hsame, Reading.remark?]
    cases Mapping.get? r.name (f.traitsFor p) <;> rfl
  | action a =>
    simp only [add, addAction, Reading.remark?]
    cases f.action with
    | none => rfl
    | some old => by_cases h : old = a <;> simp [Option.filter, h]
  | verification v | malformed | foreign => simp [add, Reading.remark?]

/-- A line is remarked on for what the lines before it hold. -/
theorem remark?_of_read {before : List String} {f : Findings} (hf : gather before = .ok f)
    {line : String} {reading : Reading} (h : read line = .ok reading) :
    reading.remark? f = remark? before line := by
  rw [remark?, ← decoded?_of_read h, ← action?_eq_actionIn? h, ← action_of_gather hf]
  cases reading with
  | trait p r => simp [Reading.remark?, Reading.decoded?, get?_traitsFor_of_gather hf]
  | scope p | action a | verification v | malformed | foreign => rfl

theorem warnings_addAll {before lines : List String} {past readings : List (String × Reading)}
    (hpast : Reads before past) (hreadings : Reads lines readings) :
    ((Findings.addAll {} past).addAll readings).warnings =
      (Findings.addAll {} past).warnings ++ remarks before lines := by
  induction readings generalizing before lines past with
  | nil =>
    obtain rfl : lines = [] := hreadings.lines.symm
    simp [Findings.addAll, remarks]
  | cons x rest ih =>
    obtain rfl : lines = x.1 :: rest.map (·.1) := hreadings.lines.symm
    have hx : read x.1 = .ok x.2 := hreadings.reads x (by simp)
    have hone : Reads [x.1] [x] := ⟨rfl, by simp [hx]⟩
    have hrest : Reads (rest.map (·.1)) rest :=
      ⟨rfl, fun y hy => hreadings.reads y (List.mem_cons_of_mem x hy)⟩
    have hstep : (Findings.addAll {} past).add x.1 x.2 = Findings.addAll {} (past ++ [x]) := by
      simp [Findings.addAll]
    have hgather : gather before = .ok (Findings.addAll {} past) :=
      gather_eq_ok.mpr ⟨past, hpast, rfl⟩
    rw [Findings.addAll_cons, hstep, ih (hpast.append hone) hrest, ← hstep,
      Findings.warnings_add, remark?_of_read hgather hx, remarks, List.append_assoc]

theorem warnings_of_gather {lines : List String} {f : Findings} (h : gather lines = .ok f) :
    f.warnings = remarks [] lines := by
  obtain ⟨readings, hr, rfl⟩ := gather_eq_ok.mp h
  have hnil : Reads [] [] := ⟨rfl, by simp⟩
  exact warnings_addAll hnil hr

/-! ## Findings as filters -/

/-- Findings that are what filters over the lines say. -/
structure Surveys (lines : List String) (f : Findings) : Prop where
  resources : f.resources = lines
  providers : f.providers = (lines.filterMap scopeIn?).eraseDups
  /-- The providers of traits stand in the order in which a trait of them is first seen. -/
  owners : Mapping.keys f.traits =
    (lines.filterMap fun line => (decoded? line).map (·.1)).eraseDups
  names : ∀ p, Mapping.keys (f.traitsFor p) =
    ((lines.filterMap (traitIn? p)).map (·.name)).eraseDups
  requirement : ∀ p name, Mapping.get? name (f.traitsFor p) = lastTrait? lines p name
  action : f.action = lastAction? lines
  verification : f.verification = lines.reverse.findSome? verificationIn?
  malformed : f.malformed = lines.filter (Rejected ·)
  warnings : f.warnings = remarks [] lines

/-- Among lines that are read, the malformed ones are those that the grammar rejects. -/
theorem filter_isMalformed {lines : List String}
    (h : ∀ line ∈ lines, ∃ reading, read line = .ok reading) :
    lines.filter isMalformed = lines.filter (Rejected ·) := by
  refine List.filter_congr fun line hline => ?_
  obtain ⟨reading, hread⟩ := h line hline
  have hrejected : Rejected line ↔ reading = .malformed := by simp [rejected_iff, hread]
  simp only [hrejected, isMalformed, hread]
  cases reading <;> rfl

theorem surveys_of_gather {lines : List String} {f : Findings} (h : gather lines = .ok f) :
    Surveys lines f where
  resources := resources_of_gather h
  providers := by rw [providers_of_gather h, foldl_addNew]
  owners := keys_traits_of_gather h
  names := by
    intro p
    rw [traitsFor_of_gather h, Mapping.keys_ofPairs, List.map_map]
    rfl
  requirement := get?_traitsFor_of_gather h
  action := action_of_gather h
  verification := verification_of_gather h
  malformed := by
    have hread : ∀ line ∈ lines, ∃ reading, read line = .ok reading := by
      intro line hline
      exact exists_read.mpr (exists_gather.mp ⟨f, h⟩ line hline)
    rw [malformed_of_gather h, filter_isMalformed hread]
  warnings := warnings_of_gather h

/-- The filters leave nothing open. -/
theorem Surveys.unique {lines : List String} {f g : Findings} (hf : Surveys lines f)
    (hg : Surveys lines g) : f = g := by
  have hfor : ∀ p, f.traitsFor p = g.traitsFor p := by
    intro p
    refine Mapping.ext_of_get? ?_ (by rw [hf.names, hg.names]) ?_
    · rw [Mapping.Distinct, hf.names]
      exact nodup_eraseDups _
    · intro name
      rw [hf.requirement, hg.requirement]
  have hkeys : Mapping.keys f.traits = Mapping.keys g.traits := by rw [hf.owners, hg.owners]
  have htraits : f.traits = g.traits := by
    refine Mapping.ext_of_get? ?_ hkeys ?_
    · rw [Mapping.Distinct, hf.owners]
      exact nodup_eraseDups _
    · intro p
      -- a provider without traits is no key of either, and the others have equal requirements
      have hnone : Mapping.get? p f.traits = none ↔ Mapping.get? p g.traits = none := by
        rw [Mapping.get?_eq_none, Mapping.get?_eq_none, hkeys]
      have hp := hfor p
      simp only [Findings.traitsFor] at hp
      cases hpf : Mapping.get? p f.traits with
      | none => rw [hnone.mp hpf]
      | some m =>
        cases hpg : Mapping.get? p g.traits with
        | none => simp [hnone.mpr hpg] at hpf
        | some m' => simpa [hpf, hpg] using hp
  obtain ⟨_, _, _, _, _, _, _⟩ := f
  obtain ⟨_, _, _, _, _, _, _⟩ := g
  simp only [Findings.mk.injEq]
  exact ⟨hf.resources.trans hg.resources.symm, hf.providers.trans hg.providers.symm, htraits,
    hf.action.trans hg.action.symm, hf.verification.trans hg.verification.symm,
    hf.malformed.trans hg.malformed.symm, hf.warnings.trans hg.warnings.symm⟩

/-- A scan that returns finds exactly what the filters over its lines say, and each of these lines
says exactly one thing.  It returns unless the statement is blank or a line is overlong. -/
theorem scan_iff_surveys (message : String) :
    (∀ f, scan message = .ok f ↔
      (Text.isBlankText message = false ∧
        ∀ line ∈ linesOf message, ∀ count, ¬ IsOverlongLine line count) ∧
      Surveys (linesOf message) f) ∧
    ∀ line ∈ linesOf message, ∃! reading, Says line reading := by
  refine ⟨?_, fun line _ => existsUnique_says line⟩
  intro f
  rw [← exists_scan]
  constructor
  · intro h
    exact ⟨⟨f, h⟩, surveys_of_gather (scan_eq_ok.mp h).2⟩
  · intro h
    obtain ⟨⟨g, hg⟩, hf⟩ := h
    have hsurveys : Surveys (linesOf message) g := surveys_of_gather (scan_eq_ok.mp hg).2
    rw [hg, hsurveys.unique hf]

end Eligibility.Resource
