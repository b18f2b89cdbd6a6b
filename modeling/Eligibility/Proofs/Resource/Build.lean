import Eligibility.Proofs.Resource.Findings
import Eligibility.Proofs.Uri.Grammar
import Eligibility.Resource.Build
set_option autoImplicit false

/-!
# Resources: what is built is read back

Every resource of a request is written in a form that only one reading fits, and
the readings of all of them together say what the request says.  No part can add a
line or change what another line means, since a part holds only what the path of a
URI can hold and a token holds no colon.
-/

namespace Eligibility.Resource

open Trait (Fault Raw Requirement IsToken)

/-! ## URIs -/

/-- A name under the scheme and the lead that all resources share. -/
def IsResource (line : String) : Prop :=
  ∃ path, line = "urn:verify:" ++ path ∧ Uri.allEncoded Uri.isPathChar path.toList = true

namespace IsResource

variable {line : String}

theorem append {s : String} (h : IsResource line)
    (hs : Uri.allEncoded Uri.isPathChar s.toList = true) : IsResource (line ++ s) := by
  obtain ⟨path, rfl, hpath⟩ := h
  refine ⟨path ++ s, by rw [String.append_assoc], ?_⟩
  rw [String.toList_append]
  exact Uri.allEncoded_append hpath hs

theorem appendText {s : String} (h : IsResource line) (hs : Uri.isPathText s = true) :
    IsResource (line ++ s) := by
  simp only [Uri.isPathText, Bool.and_eq_true] at hs
  exact h.append hs.2

theorem isUri (h : IsResource line) : Uri.isUri line.toList = true := by
  obtain ⟨path, rfl, hpath⟩ := h
  have hlead : Uri.allEncoded Uri.isPathChar ("verify:".toList ++ path.toList) = true :=
    Uri.allEncoded_append (by decide) hpath
  have hlist : ("urn:verify:" ++ path).toList =
      "urn".toList ++ ':' :: ("verify:".toList ++ path.toList) := by simp
  rw [hlist]
  exact Uri.isUri_of_path (by decide) hlead (by simp)

theorem oneLine (h : IsResource line) : Text.OneLine line := Uri.unbroken_of_isUri h.isUri

theorem providerLead : IsResource providerLead := ⟨"provider:", by decide, by decide⟩

theorem actionLead : IsResource actionLead := ⟨"action:", by decide, by decide⟩

theorem verificationLead : IsResource verificationLead := ⟨"verificationid:", by decide, by decide⟩

end IsResource

/-! ## Parts -/

/-- The text of a part that is given; a part that is vacant is not. -/
def given? (part : Json) : Option String := part.text?.filter (· ≠ "")

theorem given?_of_isVacant {part : Json} (h : part.isVacant = true) : given? part = none := by
  cases part with
  | text s =>
    have hs : s = "" := by simpa [Json.isVacant] using h
    simp [given?, Json.text?, hs]
  | null | boolean _ | whole _ | real _ | array _ | object _ => rfl

theorem given?_text {s : String} (h : s ≠ "") : given? (.text s) = some s := by
  simp [given?, Json.text?, h]

/-- The line of a part that may be left out stands exactly if the part is given. -/
theorem partLine_eq_ok {lead : String} {write : Json → Except Fault String}
    (hwrite : ∀ part line, write part = .ok line ↔
      ∃ s, part = .text s ∧ Uri.isPathText s = true ∧ line = lead ++ s)
    {part : Json} {lines : List String} (h : partLine write part = .ok lines) :
    lines = (given? part).toList.map (lead ++ ·) ∧
      ∀ s, given? part = some s → Uri.isPathText s = true := by
  unfold partLine at h
  split at h
  · next hvacant =>
    obtain rfl := Except.ok.inj h
    simp [given?_of_isVacant hvacant]
  · simp only [Outcome.bind_eq_ok, Outcome.pure_eq_ok, hwrite] at h
    obtain ⟨_, ⟨s, rfl, hs, rfl⟩, rfl⟩ := h
    have hne : s ≠ "" := by simpa using Trait.ne_empty_of_isPathText hs
    rw [given?_text hne]
    refine ⟨rfl, ?_⟩
    intro t ht
    exact Option.some.inj ht ▸ hs

/-! ## Traits -/

/-- The requirements of the traits of a request, in order. -/
def Parses (traits : Mapping Raw) (requirements : List Requirement) : Prop :=
  (traits.map fun t => Requirement.parse t.1 t.2) = requirements.map .ok

/-- The check before writing passes a trait that can be read and fits. -/
theorem requireWellTyped_eq_ok {name : String} {raw : Raw} :
    requireWellTyped name raw = .ok () ↔
      ∃ r, Requirement.parse name raw = .ok r ∧ r.isWellTyped = true := by
  simp only [requireWellTyped, Requirement.ensureWellTyped, Outcome.bind_eq_ok,
    Outcome.pure_eq_ok]
  constructor
  · intro h
    obtain ⟨r, hparse, _, hwell, -⟩ := h
    split at hwell
    · next h => exact ⟨r, hparse, h⟩
    · simp at hwell
  · intro h
    obtain ⟨r, hparse, hwell⟩ := h
    exact ⟨r, hparse, r, by simp [hwell], trivial⟩

theorem checkedTrait_eq_ok {strict : Bool} {given : Json} {name line : String} {raw : Raw} :
    checkedTrait strict given name raw = .ok line ↔
      (strict = true → ∃ r, Requirement.parse name raw = .ok r ∧ r.isWellTyped = true) ∧
        trait given (.text name) raw = .ok line := by
  unfold checkedTrait
  cases strict with
  | true => simp [@requireWellTyped_eq_ok name raw]
  | false => simp

/-- The lines of a scope are the line of the provider and those of its traits. -/
theorem scopeLines_eq_ok {r : Request} {lines : List String} (h : scopeLines r = .ok lines) :
    given? r.provider = none ∧ r.provider.isVacant = true ∧ lines = [] ∨
      ∃ p traits, given? r.provider = some p ∧ IsToken p ∧ lines = (providerLead ++ p) :: traits ∧
        (r.traits.map fun t => checkedTrait r.strict (.text p) t.1 t.2) = traits.map .ok := by
  unfold scopeLines at h
  split at h
  · next hvacant => exact .inl ⟨given?_of_isVacant hvacant, hvacant, (Except.ok.inj h).symm⟩
  · simp only [Outcome.bind_eq_ok, Outcome.pure_eq_ok, provider_eq_ok, Outcome.mapM_eq_ok] at h
    obtain ⟨_, ⟨p, hp, htoken, rfl⟩, traits, htraits, rfl⟩ := h
    rw [hp] at htraits
    exact .inr ⟨p, traits, hp ▸ given?_text htoken.ne_empty, htoken, rfl, htraits⟩

/-- The lines of traits that can be read by themselves are read back one by one. -/
theorem traitLines_eq {p : String} {strict : Bool} {traits : Mapping Raw} {lines : List String}
    {rs : List Requirement}
    (hlines : (traits.map fun t => checkedTrait strict (.text p) t.1 t.2) = lines.map .ok)
    (hrs : Parses traits rs) :
    lines = rs.map (traitLine p) ∧ ∀ q ∈ rs, read (traitLine p q) = .ok (.trait p q) := by
  unfold Parses at hrs
  induction traits generalizing lines rs with
  | nil =>
    rw [List.map_eq_nil_iff.mp hlines.symm, List.map_eq_nil_iff.mp hrs.symm]
    exact ⟨rfl, by simp⟩
  | cons t traits ih =>
    cases lines with
    | nil => simp at hlines
    | cons line lines =>
      cases rs with
      | nil => simp at hrs
      | cons q rs =>
        simp only [List.map_cons, List.cons.injEq] at hlines hrs
        obtain ⟨hline, hread⟩ := traitOf?_trait (checkedTrait_eq_ok.mp hlines.1).2 hrs.1
        obtain ⟨rfl, hreads⟩ := ih hlines.2 hrs.2
        refine ⟨by rw [hline, List.map_cons], ?_⟩
        intro k hk
        rcases List.mem_cons.mp hk with rfl | hk
        · rw [← hline]
          exact read_eq_trait.mpr (traitIn?_eq_some.mpr hread)
        · exact hreads k hk

/-! ## Requests -/

/-- The resources of a request, each with what it says. -/
def Request.readings (r : Request) (rs : List Requirement) : List (String × Reading) :=
  ((given? r.provider).toList.flatMap fun p =>
    (providerLead ++ p, .scope p) :: rs.map fun q => (traitLine p q, .trait p q)) ++
  ((given? r.action).toList.map fun a => (actionLead ++ a, .action a)) ++
  (given? r.verification).toList.map fun v => (verificationLead ++ v, .verification v)

theorem ofRequest_eq_ok {r : Request} {uris : List String} :
    ofRequest r = .ok uris ↔ ∃ scope actions verifications, scopeLines r = .ok scope ∧
      partLine action r.action = .ok actions ∧
      partLine verification r.verification = .ok verifications ∧
      uris = scope ++ actions ++ verifications := by
  unfold ofRequest
  simp only [Outcome.bind_eq_ok, Outcome.pure_eq_ok]
  constructor
  · rintro ⟨scope, hscope, actions, hactions, verifications, hverifications, rfl⟩
    exact ⟨scope, actions, verifications, hscope, hactions, hverifications, rfl⟩
  · rintro ⟨scope, actions, verifications, hscope, hactions, hverifications, rfl⟩
    exact ⟨scope, hscope, actions, hactions, verifications, hverifications, rfl⟩

/-- The line of a part says what the part is. -/
theorem reads_partLine {lead : String} {part : Json} {reading : String → Reading}
    (hread : ∀ s, s ≠ "" → read (lead ++ s) = .ok (reading s)) :
    Reads ((given? part).toList.map (lead ++ ·))
      ((given? part).toList.map fun s => (lead ++ s, reading s)) := by
  refine ⟨by simp, ?_⟩
  intro x hx
  obtain ⟨s, hs, rfl⟩ := List.mem_map.mp hx
  rw [Option.mem_toList] at hs
  have hne := (Option.filter_eq_some_iff.mp hs).2
  exact hread s (by simpa using hne)

/-- A strict request with a provider is built only if all of its traits can be read and fit. -/
theorem parses_of_strict {r : Request} {uris : List String} (h : ofRequest r = .ok uris)
    (hstrict : r.strict = true) (hprovider : r.provider.isVacant = false) :
    ∀ t ∈ r.traits, ∃ q, Requirement.parse t.1 t.2 = .ok q ∧ q.isWellTyped = true := by
  obtain ⟨_, _, _, hscope, -, -, -⟩ := ofRequest_eq_ok.mp h
  rcases scopeLines_eq_ok hscope with ⟨-, hvacant, -⟩ | ⟨p, traits, -, -, -, htraits⟩
  · simp [hvacant] at hprovider
  · intro t ht
    obtain ⟨line, -, hline⟩ := Outcome.exists_of_map_ok htraits ht
    exact (checkedTrait_eq_ok.mp hline).1 hstrict

/-- Parts of path characters with colons between them are a URI. -/
theorem isResource_of_parts {p n text : String} {operator : Trait.Operator} (hp : IsToken p)
    (hn : IsToken n) (htext : Uri.isPathText text = true) :
    IsResource (providerLead ++ p ++ ":" ++ (n ++ ":" ++ operator.text ++ ":" ++ text)) := by
  have hcolon : Uri.allEncoded Uri.isPathChar ":".toList = true := by decide
  have hoperator : Uri.allEncoded Uri.isPathChar operator.text.toList = true := by
    cases operator <;> decide
  have hname := (IsResource.providerLead.appendText hp.isPathText).append hcolon |>.appendText
    hn.isPathText
  have hline := ((hname.append hcolon).append hoperator).append hcolon |>.appendText htext
  simpa [String.append_assoc] using hline

/-- A line that holds a trait is a URI. -/
theorem isResource_of_traitIn? {p line : String} {r : Requirement} (h : traitIn? p line = some r) :
    IsToken p ∧ IsResource line := by
  obtain ⟨hp, hname, htext, rfl⟩ := traitOf?_eq_some.mp (traitIn?_eq_some.mp h)
  have hwritten : traitLine p r = providerLead ++ p ++ ":" ++
      (r.name ++ ":" ++ r.operator.text ++ ":" ++ r.text) := by
    simp [traitLine, Requirement.encode, Requirement.raw, String.append_assoc]
  refine ⟨hp, ?_⟩
  rw [hwritten]
  exact isResource_of_parts hp hname htext

theorem isResource_of_trait {given name : Json} {raw : Raw} {line : String}
    (h : trait given name raw = .ok line) : IsResource line := by
  obtain ⟨p, n, operator, text, -, hp, -, hn, -, -, htext, rfl⟩ := trait_eq_ok.mp h
  exact isResource_of_parts hp hn htext

theorem isResource_of_mem_part {lead : String} {part : Json} (hlead : IsResource lead)
    (hpart : ∀ s, given? part = some s → Uri.isPathText s = true) {line : String}
    (h : line ∈ (given? part).toList.map (lead ++ ·)) : IsResource line := by
  obtain ⟨s, hs, rfl⟩ := List.mem_map.mp h
  rw [Option.mem_toList] at hs
  exact hlead.appendText (hpart s hs)

/-- Every resource of a request is a URI under the shared lead. -/
theorem isResource_of_ofRequest {r : Request} {uris : List String} (h : ofRequest r = .ok uris) :
    ∀ uri ∈ uris, IsResource uri := by
  obtain ⟨scope, actions, verifications, hscope, hactions, hverifications, rfl⟩ :=
    ofRequest_eq_ok.mp h
  obtain ⟨rfl, haction⟩ := partLine_eq_ok (fun _ _ => action_eq_ok) hactions
  obtain ⟨rfl, hverification⟩ := partLine_eq_ok (fun _ _ => verification_eq_ok) hverifications
  intro uri huri
  simp only [List.mem_append] at huri
  rcases huri with (huri | huri) | huri
  · rcases scopeLines_eq_ok hscope with ⟨-, -, rfl⟩ | ⟨p, traits, -, htoken, rfl, htraits⟩
    · simp at huri
    · rcases List.mem_cons.mp huri with rfl | huri
      · exact IsResource.providerLead.appendText htoken.isPathText
      · obtain ⟨t, -, hline⟩ := Outcome.exists_item_of_map_ok htraits huri
        exact isResource_of_trait (checkedTrait_eq_ok.mp hline).2
  · exact isResource_of_mem_part .actionLead haction huri
  · exact isResource_of_mem_part .verificationLead hverification huri

/-- The resources of a request say what the request says. -/
theorem reads_ofRequest {r : Request} {uris : List String} {rs : List Requirement}
    (h : ofRequest r = .ok uris) (hrs : Parses r.traits rs) : Reads uris (r.readings rs) := by
  obtain ⟨scope, actions, verifications, hscope, hactions, hverifications, rfl⟩ :=
    ofRequest_eq_ok.mp h
  obtain ⟨rfl, -⟩ := partLine_eq_ok (fun _ _ => action_eq_ok) hactions
  obtain ⟨rfl, -⟩ := partLine_eq_ok (fun _ _ => verification_eq_ok) hverifications
  have haction : ∀ a, a ≠ "" → read (actionLead ++ a) = .ok (.action a) := by
    intro a ha
    exact read_eq_action.mpr (actionIn?_eq_some.mpr ⟨ha, rfl⟩)
  have hverification : ∀ v, v ≠ "" → read (verificationLead ++ v) = .ok (.verification v) := by
    intro v hv
    exact read_eq_verification.mpr (verificationIn?_eq_some.mpr ⟨hv, rfl⟩)
  refine Reads.append (Reads.append ?_ (reads_partLine haction)) (reads_partLine hverification)
  rcases scopeLines_eq_ok hscope with ⟨hnone, -, rfl⟩ | ⟨p, traits, hp, htoken, rfl, htraits⟩
  · rw [hnone]
    exact ⟨rfl, by simp⟩
  · obtain ⟨rfl, hreads⟩ := traitLines_eq htraits hrs
    rw [hp]
    refine ⟨by simp, ?_⟩
    intro x hx
    simp only [Option.toList_some, List.flatMap_cons, List.flatMap_nil, List.append_nil,
      List.mem_cons, List.mem_map] at hx
    rcases hx with rfl | ⟨q, hq, rfl⟩
    · exact read_eq_scope.mpr (scopeIn?_eq_some.mpr ⟨htoken.ne_empty, htoken.noColon, rfl⟩)
    · exact hreads q hq

/-- What is found says what was asked for, and nothing else. -/
structure Reports (r : Request) (f : Findings) : Prop where
  providers : f.providers = (given? r.provider).toList
  traits : ∀ p, given? r.provider = some p →
    (f.traitsFor p).map (fun t => (t.1, Except.ok t.2)) =
      r.traits.map fun t => (t.1, Requirement.parse t.1 t.2)
  others : ∀ p, given? r.provider ≠ some p → f.traitsFor p = []
  action : f.action = given? r.action
  verification : f.verification = given? r.verification
  malformed : f.malformed = []

/-- What is found of a provider under the name of a trait is what the trait stands for. -/
theorem Reports.get?_traitsFor {r : Request} {f : Findings} (h : Reports r f) {p : String}
    (hp : given? r.provider = some p) (hdistinct : r.traits.Distinct) {name : String} {raw : Raw}
    {q : Requirement} (hmem : (name, raw) ∈ r.traits) (hq : Requirement.parse name raw = .ok q) :
    Mapping.get? name (f.traitsFor p) = some q := by
  have htraits := h.traits p hp
  have hkeys : Mapping.keys (f.traitsFor p) = Mapping.keys r.traits := by
    have hnames := congrArg (List.map Prod.fst) htraits
    simpa [Mapping.keys, Function.comp_def] using hnames
  have hfound : (name, Except.ok q) ∈
      (f.traitsFor p).map (fun t => (t.1, (Except.ok t.2 : Except Fault Requirement))) := by
    rw [htraits]
    exact List.mem_map.mpr ⟨(name, raw), hmem, by rw [hq]⟩
  obtain ⟨t, ht, heq⟩ := List.mem_map.mp hfound
  obtain ⟨rfl, hvalue⟩ := Prod.mk.inj heq
  obtain rfl := Except.ok.inj hvalue
  have hnew : Mapping.Distinct (f.traitsFor p) := by
    unfold Mapping.Distinct
    rw [hkeys]
    exact hdistinct
  exact Mapping.get?_of_mem hnew ht

theorem names_of_parses {traits : Mapping Raw} {rs : List Requirement} (h : Parses traits rs) :
    (rs.map fun q => (q.name, (Except.ok q : Except Fault Requirement))) =
      traits.map fun t => (t.1, Requirement.parse t.1 t.2) := by
  unfold Parses at h
  induction traits generalizing rs with
  | nil =>
    rw [List.map_eq_nil_iff.mp h.symm]
    rfl
  | cons t traits ih =>
    cases rs with
    | nil => simp at h
    | cons q rs =>
      simp only [List.map_cons, List.cons.injEq] at h ⊢
      obtain ⟨hname, -⟩ := Trait.Requirement.parse_eq_ok.mp h.1
      exact ⟨by rw [hname, h.1], ih h.2⟩

theorem filterMap_readings {α : Type} (r : Request) (rs : List Requirement)
    (part : Reading → Option α) :
    (r.readings rs).filterMap (fun x => part x.2) =
      ((given? r.provider).toList.flatMap fun p =>
        (part (.scope p)).toList ++ rs.filterMap fun q => part (.trait p q)) ++
      (given? r.action).toList.filterMap (fun a => part (.action a)) ++
      (given? r.verification).toList.filterMap (fun v => part (.verification v)) := by
  unfold Request.readings
  rw [List.filterMap_append, List.filterMap_append, List.filterMap_map, List.filterMap_map]
  congr 2
  cases given? r.provider with
  | none => rfl
  | some p => cases h : part (.scope p) <;> simp [h]

theorem ne_malformed_of_mem_readings {r : Request} {rs : List Requirement} {x : String × Reading}
    (h : x ∈ r.readings rs) : x.2 ≠ .malformed := by
  simp only [Request.readings, List.mem_append, List.mem_flatMap, List.mem_cons, List.mem_map] at h
  rcases h with (⟨p, -, rfl | ⟨q, -, rfl⟩⟩ | ⟨a, -, rfl⟩) | ⟨v, -, rfl⟩ <;> simp

/-- A provider has the traits of the request if the request is about it, and no others have any. -/
theorem traitsFor_readings {r : Request} {rs : List Requirement} (hrs : Parses r.traits rs)
    (hdistinct : r.traits.Distinct) (p : String) :
    (Findings.addAll {} (r.readings rs)).traitsFor p =
      if given? r.provider = some p then rs.map fun q => (q.name, q) else [] := by
  have hempty : ({} : Findings).traitsFor p = [] := rfl
  rw [Findings.traitsFor_addAll, filterMap_readings, hempty]
  cases hg : given? r.provider with
  | none => simp [Reading.trait?, Mapping.putAll]
  | some q =>
    by_cases hp : q = p
    · subst hp
      have hkeys : Mapping.keys (rs.map fun q => (q.name, q)) = r.traits.keys := by
        have hnames := congrArg (List.map Prod.fst) (names_of_parses hrs)
        simpa [Mapping.keys, Function.comp_def] using hnames
      have hnew : Mapping.Distinct (rs.map fun q => (q.name, q)) := by
        unfold Mapping.Distinct
        rw [hkeys]
        exact hdistinct
      simp [Reading.trait?, ← Mapping.ofPairs_eq_putAll, Mapping.ofPairs_of_distinct hnew]
    · simp [Reading.trait?, hp, Mapping.putAll]

/-- Scanning the resources of a request finds what the request says. -/
theorem reports_of_ofRequest {r : Request} {uris : List String} {rs : List Requirement}
    (h : ofRequest r = .ok uris) (hrs : Parses r.traits rs) (hdistinct : r.traits.Distinct) :
    ∃ f, gather uris = .ok f ∧ Reports r f := by
  have hfound := gather_eq_ok.mpr ⟨_, reads_ofRequest h hrs, rfl⟩
  refine ⟨_, hfound, ?_, ?_, ?_, ?_, ?_, ?_⟩
  · rw [Findings.providers_addAll, filterMap_readings]
    cases given? r.provider <;> simp [Reading.scope?, addNew]
  · intro p hp
    rw [traitsFor_readings hrs hdistinct, if_pos hp, ← names_of_parses hrs, List.map_map]
    rfl
  · intro p hp
    rw [traitsFor_readings hrs hdistinct, if_neg hp]
  · rw [Findings.action_addAll, ← List.getLast?_filterMap, filterMap_readings]
    cases given? r.provider <;> cases given? r.action <;> simp [Reading.action?]
  · rw [Findings.verification_addAll, ← List.getLast?_filterMap, filterMap_readings]
    cases given? r.provider <;> cases given? r.verification <;> simp [Reading.verification?]
  · have hnone : (r.readings rs).filter (·.2 = .malformed) = [] := by
      rw [List.filter_eq_nil_iff]
      intro x hx
      simpa using ne_malformed_of_mem_readings hx
    rw [Findings.malformed_addAll, hnone]
    rfl

end Eligibility.Resource
