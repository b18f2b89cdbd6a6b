import Eligibility.Proofs.Resource.Build
import Eligibility.Proofs.Resource.Survey
set_option autoImplicit false

/-!
# Resources: what a scan takes at its word

A trait is only recovered from a line that the grammar of traits writes, so its
provider is one that can be written.  A line that names a provider, an action or a
verification alone is taken at its word: what it says after its lead is recovered
whatever characters it holds, and can be written exactly if the line is a URI of
this library.  So of the lines that are none, those with a colon behind their
provider are kept as malformed, and no others.

A malformed line adds nothing: the other lines by themselves say the same.
-/

namespace Eligibility.Resource

open Trait (Requirement IsToken)

/-! ## Lines that are URIs -/

/-- Behind a lead of plain characters, a line is a URI of this library exactly if what follows may
stand in a path. -/
theorem isResource_append_iff {plain s : String}
    (h : plain.toList.all (fun c => c != '%' && Uri.isPathChar c) = true) :
    IsResource ("urn:verify:" ++ plain ++ s) ↔ Uri.allEncoded Uri.isPathChar s.toList = true := by
  have hplain : ∀ c ∈ plain.toList, c ≠ '%' ∧ Uri.isPathChar c = true := by simpa using h
  have hpath : Uri.allEncoded Uri.isPathChar (plain ++ s).toList = true ↔
      Uri.allEncoded Uri.isPathChar s.toList = true := by
    rw [String.toList_append, Uri.allEncoded_append_iff hplain]
  rw [← hpath, String.append_assoc]
  constructor
  · rintro ⟨path, hline, hall⟩
    rwa [(String.append_right_inj _).mp hline]
  · intro hall
    exact ⟨plain ++ s, rfl, hall⟩

theorem isResource_providerLead_iff {s : String} :
    IsResource (providerLead ++ s) ↔ Uri.allEncoded Uri.isPathChar s.toList = true :=
  @isResource_append_iff "provider:" s (by decide)

theorem isResource_actionLead_iff {s : String} :
    IsResource (actionLead ++ s) ↔ Uri.allEncoded Uri.isPathChar s.toList = true :=
  @isResource_append_iff "action:" s (by decide)

theorem isResource_verificationLead_iff {s : String} :
    IsResource (verificationLead ++ s) ↔ Uri.allEncoded Uri.isPathChar s.toList = true :=
  @isResource_append_iff "verificationid:" s (by decide)

/-- A line with a character that no URI holds is no URI of this library. -/
theorem not_isResource_of_mem {line : String} {c : Char} (hc : Uri.isUriChar c = false)
    (hmem : c ∈ line.toList) : ¬ IsResource line := by
  rintro ⟨path, rfl, hpath⟩
  rw [String.toList_append] at hmem
  have hlead : "urn:verify:".toList.all Uri.isUriChar = true := by decide
  rcases List.mem_append.mp hmem with hfront | hback
  · simp [List.all_eq_true.mp hlead c hfront] at hc
  · simp [List.all_eq_true.mp (Uri.all_of_path hpath) c hback] at hc

theorem isPathText_iff {s : String} (hne : s ≠ "") :
    Uri.isPathText s = true ↔ Uri.allEncoded Uri.isPathChar s.toList = true := by
  simp [Uri.isPathText, hne]

/-- A provider that a line names alone can be written exactly if the line is a URI; so can an action
and a verification. -/
theorem exists_provider_iff {p : String} (hne : p ≠ "") (hcolon : ':' ∉ p.toList) :
    (∃ line, provider (.text p) = .ok line) ↔ IsResource (providerLead ++ p) := by
  rw [isResource_providerLead_iff, ← isPathText_iff hne]
  constructor
  · rintro ⟨line, hline⟩
    obtain ⟨_, ⟨⟩, htoken, -⟩ := provider_eq_ok.mp hline
    exact htoken.isPathText
  · intro hpath
    exact ⟨_, provider_eq_ok.mpr ⟨p, rfl, ⟨hpath, hcolon⟩, rfl⟩⟩

theorem exists_action_iff {a : String} (hne : a ≠ "") :
    (∃ line, action (.text a) = .ok line) ↔ IsResource (actionLead ++ a) := by
  rw [isResource_actionLead_iff, ← isPathText_iff hne]
  constructor
  · rintro ⟨line, hline⟩
    obtain ⟨_, ⟨⟩, hpath, -⟩ := action_eq_ok.mp hline
    exact hpath
  · intro hpath
    exact ⟨_, action_eq_ok.mpr ⟨a, rfl, hpath, rfl⟩⟩

theorem exists_verification_iff {v : String} (hne : v ≠ "") :
    (∃ line, verification (.text v) = .ok line) ↔ IsResource (verificationLead ++ v) := by
  rw [isResource_verificationLead_iff, ← isPathText_iff hne]
  constructor
  · rintro ⟨line, hline⟩
    obtain ⟨_, ⟨⟩, hpath, -⟩ := verification_eq_ok.mp hline
    exact hpath
  · intro hpath
    exact ⟨_, verification_eq_ok.mpr ⟨v, rfl, hpath, rfl⟩⟩

/-- A line that is no URI is rejected exactly if it goes on behind a provider. -/
theorem rejected_iff_of_not_isResource {line : String} (h : ¬ IsResource line) :
    Rejected line ↔ ∃ p body, line = providerLead ++ p ++ ":" ++ body := by
  constructor
  · intro hrejected
    cases hrejected with
    | provider => exact absurd IsResource.providerLead h
    | unscoped body => exact ⟨"", body, by rw [String.append_empty]⟩
    | @trait p body => exact ⟨p, body, rfl⟩
    | action => exact absurd IsResource.actionLead h
    | verification => exact absurd IsResource.verificationLead h
  · rintro ⟨p, body, rfl⟩
    have hline : providerLead ++ p ++ ":" ++ body = providerLead ++ (p ++ ":" ++ body) := by
      simp [String.append_assoc]
    rw [hline] at h ⊢
    rcases read_providerLine (p ++ ":" ++ body) with ⟨q, hscope⟩ | ⟨q, r, htrait⟩ | hrejected
    · -- A line that names a provider and nothing more has no colon.
      obtain ⟨-, hcolon, hq⟩ := scopeIn?_eq_some.mp (read_eq_scope.mp hscope)
      rw [← (String.append_right_inj _).mp hq] at hcolon
      simp at hcolon
    · exact absurd (isResource_of_traitIn? (read_eq_trait.mp htrait)).2 h
    · exact hrejected

/-! ## What malformed lines add -/

namespace Findings

/-- What is recovered from lines, whatever the lines are. -/
def recovered (f : Findings) : Findings := { f with resources := [], malformed := [] }

theorem eq_of_recovered_eq {f g : Findings} (h : g.recovered = f.recovered) :
    g = { f with resources := g.resources, malformed := g.malformed } := by
  obtain ⟨_, _, _, _, _, _, _⟩ := f
  obtain ⟨_, _, _, _, _, _, _⟩ := g
  simp only [recovered, mk.injEq] at h ⊢
  simp [h]

theorem recovered_add (f : Findings) (line : String) (reading : Reading) :
    (f.add line reading).recovered = (f.recovered.add line reading).recovered := by
  cases reading with
  | scope p => by_cases h : p ∈ f.providers <;> simp [add, recovered, h]
  | trait p r | action a | verification v | malformed | foreign => rfl

theorem recovered_addAll (f : Findings) (readings : List (String × Reading)) :
    (f.addAll readings).recovered = (f.recovered.addAll readings).recovered := by
  induction readings generalizing f with
  | nil => rfl
  | cons x rest ih => rw [addAll_cons, addAll_cons, ih, recovered_add, ← ih]

/-- Without its malformed lines, a run recovers the same. -/
theorem recovered_addAll_filter (f : Findings) (readings : List (String × Reading)) :
    (f.addAll (readings.filter (·.2 ≠ .malformed))).recovered = (f.addAll readings).recovered := by
  induction readings generalizing f with
  | nil => rfl
  | cons x rest ih =>
    by_cases h : x.2 = .malformed
    · have hstep : (f.add x.1 x.2).recovered = f.recovered := by rw [h]; rfl
      rw [List.filter_cons_of_neg (by simpa using h), ih, addAll_cons, recovered_addAll f,
        recovered_addAll (f.add x.1 x.2), hstep]
    · rw [List.filter_cons_of_pos (by simpa using h), addAll_cons, addAll_cons, ih]

end Findings

/-- The lines that are not malformed say by themselves what all lines say. -/
theorem gather_filter_malformed {lines : List String} {f : Findings} (h : gather lines = .ok f) :
    gather (lines.filter (· ∉ f.malformed)) =
      .ok { f with resources := lines.filter (· ∉ f.malformed), malformed := [] } := by
  obtain ⟨readings, hr, hf⟩ := gather_eq_ok.mp h
  have hkept : ∀ x ∈ readings, decide (x.1 ∉ f.malformed) = decide (x.2 ≠ .malformed) := by
    intro x hx
    have hmem : x.1 ∈ lines := hr.lines ▸ List.mem_map.mpr ⟨x, hx, rfl⟩
    have hmalformed : isMalformed x.1 = true ↔ x.2 = .malformed := by
      simp only [isMalformed, hr.reads x hx]
      cases x.2 <;> simp
    rw [malformed_of_gather h]
    simp [List.mem_filter, hmem, hmalformed]
  have hreads : Reads (lines.filter (· ∉ f.malformed)) (readings.filter (·.2 ≠ .malformed)) := by
    refine ⟨?_, fun x hx => hr.reads x (List.mem_filter.mp hx).1⟩
    rw [← hr.lines, List.filter_map]
    exact congrArg (List.map (·.1)) (List.filter_congr hkept).symm
  have hgather : gather (lines.filter (· ∉ f.malformed)) =
      .ok (Findings.addAll {} (readings.filter (·.2 ≠ .malformed))) :=
    gather_eq_ok.mpr ⟨_, hreads, rfl⟩
  have hmalformed : (Findings.addAll {} (readings.filter (·.2 ≠ .malformed))).malformed = [] := by
    simp [Findings.malformed_addAll]
  rw [hgather, Findings.eq_of_recovered_eq (Findings.recovered_addAll_filter {} readings),
    resources_of_gather hgather, hmalformed, ← hf]

/-! ## What is recovered -/

/-- How what is recovered from lines stands to what can be written. -/
structure Recovers (lines : List String) (f : Findings) : Prop where
  /-- The provider of every trait can be written. -/
  owners : ∀ p ∈ Mapping.keys f.traits, ∃ line, provider (.text p) = .ok line
  /-- A provider that is named stands alone on a line, whatever characters it holds. -/
  providers : ∀ p ∈ f.providers, providerLead ++ p ∈ lines ∧
    ((∃ line, provider (.text p) = .ok line) ↔ IsResource (providerLead ++ p))
  action : ∀ a ∈ f.action, actionLead ++ a ∈ lines ∧
    ((∃ line, Resource.action (.text a) = .ok line) ↔ IsResource (actionLead ++ a))
  verification : ∀ v ∈ f.verification, verificationLead ++ v ∈ lines ∧
    ((∃ line, Resource.verification (.text v) = .ok line) ↔ IsResource (verificationLead ++ v))
  /-- Of the lines that are no URIs, those that go on behind a provider are malformed. -/
  malformed : ∀ line ∈ lines, ¬ IsResource line →
    (line ∈ f.malformed ↔ ∃ p body, line = providerLead ++ p ++ ":" ++ body)
  /-- Malformed lines add nothing. -/
  others : gather (lines.filter (· ∉ f.malformed)) =
    .ok { f with resources := lines.filter (· ∉ f.malformed), malformed := [] }

/-- Every provider of a trait can be written, and malformed lines add nothing.  A provider, an
action or a verification that stands alone is recovered whatever it holds, and can be written
exactly if its line is a URI. -/
theorem recovers_of_scan {message : String} {f : Findings} (h : scan message = .ok f) :
    Recovers (linesOf message) f := by
  have hgather := (scan_eq_ok.mp h).2
  have hsurveys := surveys_of_gather hgather
  refine ⟨?_, ?_, ?_, ?_, ?_, gather_filter_malformed hgather⟩
  · intro p hp
    rw [hsurveys.owners, List.mem_eraseDups, List.mem_filterMap] at hp
    obtain ⟨line, -, hline⟩ := hp
    obtain ⟨⟨q, r⟩, hdecoded, rfl⟩ := Option.map_eq_some_iff.mp hline
    have htoken := (isResource_of_traitIn? (decoded?_eq_some.mp hdecoded)).1
    exact ⟨_, provider_eq_ok.mpr ⟨q, rfl, htoken, rfl⟩⟩
  · intro p hp
    rw [hsurveys.providers, List.mem_eraseDups, List.mem_filterMap] at hp
    obtain ⟨line, hline, hscope⟩ := hp
    obtain ⟨hne, hcolon, rfl⟩ := scopeIn?_eq_some.mp hscope
    exact ⟨hline, exists_provider_iff hne hcolon⟩
  · intro a ha
    rw [Option.mem_def, hsurveys.action] at ha
    obtain ⟨line, hline, haction⟩ := List.exists_of_findSome?_eq_some ha
    obtain ⟨hne, rfl⟩ := actionIn?_eq_some.mp haction
    exact ⟨List.mem_reverse.mp hline, exists_action_iff hne⟩
  · intro v hv
    rw [Option.mem_def, hsurveys.verification] at hv
    obtain ⟨line, hline, hverification⟩ := List.exists_of_findSome?_eq_some hv
    obtain ⟨hne, rfl⟩ := verificationIn?_eq_some.mp hverification
    exact ⟨List.mem_reverse.mp hline, exists_verification_iff hne⟩
  · intro line hline hforeign
    rw [hsurveys.malformed, List.mem_filter, ← rejected_iff_of_not_isResource hforeign]
    simp [hline]

/-- A space in a trait line makes it malformed. -/
theorem recovers_of_scan_space :
    ∃ f, scan "Resources:\n- urn:verify:provider:x:followers:gte:1 000\n- urn:verify:action:claim" =
        .ok f ∧ f.malformed = ["urn:verify:provider:x:followers:gte:1 000"] ∧
      Recovers ["urn:verify:provider:x:followers:gte:1 000", "urn:verify:action:claim"] f := by
  have hscan : scan
      "Resources:\n- urn:verify:provider:x:followers:gte:1 000\n- urn:verify:action:claim" =
      .ok {
        resources := ["urn:verify:provider:x:followers:gte:1 000", "urn:verify:action:claim"]
        action := some "claim"
        malformed := ["urn:verify:provider:x:followers:gte:1 000"] } := by rfl
  exact ⟨_, hscan, rfl, recovers_of_scan hscan⟩

/-- A space, a line separator and a letter outside ASCII are recovered from lines that name a
provider, an action and a verification alone, and no line is malformed. -/
theorem scan_recovers_foreign_characters :
    scan ("Resources:\n- urn:verify:provider:a b\n- urn:verify:action:claim\u2028admin\n" ++
        "- urn:verify:verificationid:caf\u00e9") =
      .ok {
        resources := ["urn:verify:provider:a b", "urn:verify:action:claim\u2028admin",
          "urn:verify:verificationid:caf\u00e9"]
        providers := ["a b"]
        action := some "claim\u2028admin"
        verification := some "caf\u00e9"
        malformed := [] } ∧
      (∀ line, provider (.text "a b") ≠ .ok line) ∧
      (∀ line, action (.text "claim\u2028admin") ≠ .ok line) ∧
      ∀ line, verification (.text "caf\u00e9") ≠ .ok line := by
  refine ⟨by rfl, ?_, ?_, ?_⟩
  · intro line h
    have hline := (exists_provider_iff (by decide) (by decide)).mp ⟨line, h⟩
    exact @not_isResource_of_mem _ ' ' (by decide) (by decide) hline
  · intro line h
    have hline := (exists_action_iff (by decide)).mp ⟨line, h⟩
    exact @not_isResource_of_mem _ '\u2028' (by decide) (by decide) hline
  · intro line h
    have hline := (exists_verification_iff (by decide)).mp ⟨line, h⟩
    exact @not_isResource_of_mem _ '\u00e9' (by decide) (by decide) hline

end Eligibility.Resource
