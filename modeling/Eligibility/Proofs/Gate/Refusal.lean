import Eligibility.Proofs.Gate.Decision
import Eligibility.Proofs.Resource.Refusal
import Eligibility.Proofs.Resource.Section
import Eligibility.Proofs.Validation.Unreadable
set_option autoImplicit false

/-!
# The gate: statements that it gives no verdict on

A bad trait ends in a malformed line, a missing trait or an invalid value, not in a
fault.  The one exception is a whole number with more digits than are read: nothing is
wrong with its form, so no reader steps over it, and it ends a scan, the check of a gate
and a comparison alike.
-/

namespace Eligibility

open Resource (scan linesOf StepsOver IsOverlongLine)
open Validation (Side CountsUnreadable compareAll)

theorem Gate.check_of_error {g : Gate} {message : String} {fault : Resource.ScanFault}
    (h : scan message = .error fault) : g.check message = .error fault := by
  unfold Gate.check
  rw [h]
  rfl

/-- A gate has a verdict on what can be scanned. -/
theorem Gate.exists_check {g : Gate} {message : String} :
    (∃ verdict, g.check message = .ok verdict) ↔ ∃ f, scan message = .ok f := by
  cases h : scan message with
  | ok f => simp [Gate.check_of_scan g h]
  | error fault => simp [Gate.check_of_error h]

theorem Gate.check_eq_blank {g : Gate} {message : String} :
    g.check message = .error .blank ↔ Text.isBlankText message = true := by
  rw [← Resource.scan_eq_blank]
  cases h : scan message with
  | ok f => simp [Gate.check_of_scan g h]
  | error fault => simp [Gate.check_of_error h]

/-- Bad traits are stepped over.  A statement is refused exactly if it has no text, a trait line
that cannot be read is kept as malformed, and in a comparison a side that cannot be read is an
invalid value; only a whole number with more digits than are read ends a scan, a check or a
comparison. -/
theorem stepsOver_countsUnreadable (message : String) (g : Gate) (found expected : Mapping Side) :
    StepsOver message ∧
    ((∃ verdict, g.check message = .ok verdict) ↔ ∃ f, scan message = .ok f) ∧
    (g.check message = .error .blank ↔ Text.isBlankText message = true) ∧
    (∀ provider, ((∃ traits, Resource.traitsIn message provider = .ok traits) ↔
        ∃ f, scan message = .ok f) ∧
      (Resource.traitsIn message provider = .error .blank ↔ Text.isBlankText message = true)) ∧
    CountsUnreadable found expected := by
  refine ⟨Resource.stepsOver message, Gate.exists_check, Gate.check_eq_blank, ?_,
    Validation.countsUnreadable found expected⟩
  intro provider
  exact ⟨Outcome.exists_bind_pure, Resource.traitsIn_eq_blank⟩

/-! ## A number with too many digits -/

/-- The lines of a statement that is a section. -/
theorem linesOf_section {uris : List String} (h : ∀ uri ∈ uris, Text.OneLine uri) :
    linesOf (Text.join "\n" (Resource.sectionHeader :: uris.map (Resource.marker ++ ·))) =
      uris := by
  have hmarker : Text.OneLine Resource.marker := ⟨by decide, by decide⟩
  rw [Resource.linesOf, Text.lines_join (by simp), Resource.ofSection_section]
  intro line hline
  rcases List.mem_cons.mp hline with rfl | hline
  · exact ⟨by decide, by decide⟩
  · obtain ⟨uri, huri, rfl⟩ := List.mem_map.mp hline
    exact hmarker.append (h uri huri)

theorem isBlankText_section (lines : List String) :
    Text.isBlankText (Text.join "\n" (Resource.sectionHeader :: lines)) = false := by
  have hmem : 'R' ∈ (Text.join "\n" (Resource.sectionHeader :: lines)).toList := by
    rw [Text.join_cons, String.toList_append]
    exact List.mem_append_left _ (by decide)
  exact Text.isBlankText_of_mem hmem (by decide)

/-- A statement that is a section of one overlong line. -/
theorem scan_of_overlong {line : String} {count : Nat} (h : IsOverlongLine line count)
    (hline : Text.OneLine line) :
    scan (Text.join "\n" [Resource.sectionHeader, Resource.marker ++ line]) =
      .error (.trait (.tooManyDigits count)) := by
  have hlines := linesOf_section (List.forall_mem_singleton.mpr hline)
  have hgather : Resource.gather [line] = .error (.tooManyDigits count) := by
    unfold Resource.gather Resource.readAll
    rw [List.mapM_cons, Resource.read_of_overlong h]
    rfl
  rw [List.map_singleton] at hlines
  rw [Resource.scan_of_text (isBlankText_section _), hlines, hgather]
  rfl

theorem compareAll_of_overlong {name s : String} {expected : Side} {count : Nat}
    (h : Trait.IsOverlong s count) (hshort : expected.isLong = false)
    (hexpected : ∃ e, expected.read name = .ok e) :
    compareAll [(name, .raw (.text s))] [(name, expected)] = .error (.tooManyDigits count) := by
  obtain ⟨e, he⟩ := hexpected
  have hread := Side.read_of_overlong rfl (Side.isOverlong_text h) name
  have hboth : Validation.readBoth name (.raw (.text s)) expected =
      .error (.tooManyDigits count) := by
    simp [Validation.readBoth, hread, he, Trait.Fault.isGrammar]
  have hcompare : Validation.compare name (some (.raw (.text s))) expected =
      .error (.tooManyDigits count) := by
    rw [Validation.compare_of_present (Side.text_of_short hshort) rfl rfl, hboth]
    rfl
  unfold compareAll
  rw [List.mapM_cons]
  simp only [Mapping.get?, ↓reduceIte, hcompare]
  rfl

/-- A whole number with one digit more than are read. -/
def tooManyOnes : String := String.ofList (List.replicate 4301 '1')

theorem isOverlong_tooManyOnes : Trait.IsOverlong tooManyOnes 4301 := by
  refine ⟨by decide, List.replicate 4301 '1', List.length_replicate, ?_, .inl String.toList_ofList⟩
  exact List.all_eq_true.mpr fun c hc => by rw [List.eq_of_mem_replicate hc]; rfl

/-- A trait line with that number. -/
def overlongLine : String := Resource.providerLead ++ "x" ++ ":" ++
  ("followers" ++ ":" ++ Trait.Operator.gte.text ++ ":" ++ tooManyOnes)

theorem isOverlongLine_overlongLine : IsOverlongLine overlongLine 4301 := by
  refine ⟨"x", _, ⟨by decide, by decide⟩, ⟨"followers", .gte, tooManyOnes, ?_, ?_, ?_, rfl⟩, rfl⟩
  · exact ⟨by decide, by decide⟩
  · decide
  · exact isOverlong_tooManyOnes

theorem oneLine_overlongLine : Text.OneLine overlongLine := by
  have hdigits := Uri.oneLine_of_isPathText isOverlong_tooManyOnes.isPathText
  have hscope : Text.OneLine (Resource.providerLead ++ "x" ++ ":") := ⟨by decide, by decide⟩
  have hname : Text.OneLine ("followers" ++ ":" ++ Trait.Operator.gte.text ++ ":") :=
    ⟨by decide, by decide⟩
  exact hscope.append (hname.append hdigits)

/-- A number with too many digits ends the scan of a statement that has a text, the check of every
gate, and a comparison with it. -/
theorem refused_tooManyOnes :
    ∃ message, Text.isBlankText message = false ∧
      scan message = .error (.trait (.tooManyDigits 4301)) ∧
      (∀ g : Gate, g.check message = .error (.trait (.tooManyDigits 4301))) ∧
      compareAll [("followers", .raw (.text tooManyOnes))] [("followers", .raw (.text "gte:1"))] =
        .error (.tooManyDigits 4301) := by
  have hscan := scan_of_overlong isOverlongLine_overlongLine oneLine_overlongLine
  have hexpected : ∃ e, Side.read "followers" (.raw (.text "gte:1")) = .ok e := ⟨_, by rfl⟩
  refine ⟨_, isBlankText_section _, hscan, ?_, ?_⟩
  · intro g
    exact Gate.check_of_error hscan
  · exact compareAll_of_overlong isOverlong_tooManyOnes rfl hexpected

end Eligibility
