import Eligibility.Proofs.Text.Items
import Eligibility.Resource.Section
set_option autoImplicit false

/-!
# Resources: where the section begins

The section begins at the first line that says so, and every marked line behind
it is a resource.  A line of the header of a statement is neither marked nor the
one that opens the section; the line for people may be either, but no marked line
stands behind it before the resources.

Every list of texts without LF is the resources of some statement: a resource may hold
anything else that a line can hold.
-/

namespace Eligibility.Resource

theorem ofSection_append (front rest : List String) :
    ofSection (front ++ rest) =
      if sectionHeader ∈ front then ofSection front ++ rest.filterMap (Text.after? marker)
      else ofSection rest := by
  induction front with
  | nil => simp
  | cons line front ih =>
    by_cases h : line = sectionHeader
    · subst h
      have hopen : ∀ ls, ofSection (sectionHeader :: ls) =
          (sectionHeader :: ls).filterMap (Text.after? marker) := by
        intro ls
        simp [ofSection]
      rw [List.cons_append, hopen, hopen, if_pos List.mem_cons_self, ← List.cons_append,
        List.filterMap_append]
    · have hdrop : ∀ ls, ofSection (line :: ls) = ofSection ls := by
        intro ls
        simp [ofSection, h]
      rw [List.cons_append, hdrop, hdrop, ih]
      simp [Ne.symm h]

/-- A line that neither opens the section nor is marked. -/
structure IsField (line : String) : Prop where
  unmarked : Text.after? marker line = none
  ne_header : line ≠ sectionHeader

/-- A line with a label is a field if the label does not lead to the header of the section and does
not begin as the marker does. -/
theorem IsField.of_label {label : String} (value : String)
    (hmarker : label.toList.head?.all (· ≠ '-') = true) (hne : label ≠ "")
    (hheader : Text.after? label sectionHeader = none) : IsField (label ++ value) := by
  refine ⟨?_, ?_⟩
  · cases hl : label.toList with
    | nil => exact absurd (String.toList_inj.mp hl) hne
    | cons c cs =>
      have hc : '-' ≠ c := by
        rw [hl] at hmarker
        simpa using (Ne.symm (by simpa using hmarker))
      simp [Text.after?, marker, hl, Text.afterList?, hc]
  · intro h
    rw [Text.after?_eq_some.mpr h.symm] at hheader
    simp at hheader

/-- With no resource in front, fields between, and resources behind that also open a section by
themselves, the section holds exactly those. -/
theorem ofSection_layout {front fields rest uris : List String} (hfront : ofSection front = [])
    (hfields : ∀ line ∈ fields, IsField line)
    (hmarked : rest.filterMap (Text.after? marker) = uris) (hrest : ofSection rest = uris) :
    ofSection (front ++ (fields ++ rest)) = uris := by
  rw [ofSection_append]
  split
  · have hnone : fields.filterMap (Text.after? marker) = [] := by
      rw [List.filterMap_eq_nil_iff]
      exact fun line hline => (hfields line hline).unmarked
    rw [hfront, List.filterMap_append, hnone, hmarked]
    rfl
  · have hheader : sectionHeader ∉ fields := fun h => (hfields _ h).ne_header rfl
    rw [ofSection_append, if_neg hheader, hrest]

/-- The marked lines of resources are the resources. -/
theorem filterMap_marked (uris : List String) :
    (uris.map (marker ++ ·)).filterMap (Text.after? marker) = uris := by
  rw [List.filterMap_map]
  have hsome : Text.after? marker ∘ (marker ++ ·) = fun uri => some uri := by
    funext uri
    exact Text.after?_eq_some.mpr rfl
  rw [hsome, List.filterMap_some]

/-- A section that is laid out holds its resources. -/
theorem ofSection_section (uris : List String) :
    ofSection (sectionHeader :: uris.map (marker ++ ·)) = uris := by
  have hheader : Text.after? marker sectionHeader = none := by rfl
  simp only [ofSection, List.dropWhile_cons, bne_self_eq_false, Bool.false_eq_true, ↓reduceIte,
    List.filterMap_cons, hheader]
  exact filterMap_marked uris

/-! ## A statement that is a section -/

/-- A statement that lists resources and says nothing else.  Its lines end in CR LF, so a CR at the
end of a resource is a part of it. -/
def sectionText (uris : List String) : String :=
  Text.join "\n" ((sectionHeader :: uris.map (marker ++ ·)).map (· ++ "\r"))

theorem linesOf_sectionText {uris : List String} (h : ∀ uri ∈ uris, '\n' ∉ uri.toList) :
    linesOf (sectionText uris) = uris := by
  have hfeed : ∀ line ∈ sectionHeader :: uris.map (marker ++ ·), '\n' ∉ line.toList := by
    intro line hline
    rcases List.mem_cons.mp hline with rfl | hline
    · decide
    · obtain ⟨uri, huri, rfl⟩ := List.mem_map.mp hline
      simpa [marker] using h uri huri
  rw [linesOf, sectionText, Text.lines_join_return (by simp) hfeed, ofSection_section]

theorem isBlankText_sectionText (uris : List String) :
    Text.isBlankText (sectionText uris) = false := by
  have hmem : 'R' ∈ (sectionText uris).toList := by
    rw [sectionText, List.map_cons, Text.join_cons, String.toList_append]
    exact List.mem_append_left _ (by decide)
  exact Text.isBlankText_of_mem hmem (by decide)

/-- No resource of a statement holds an LF. -/
theorem noFeed_of_mem_linesOf {message uri : String} (h : uri ∈ linesOf message) :
    '\n' ∉ uri.toList := by
  obtain ⟨line, hline, hafter⟩ := List.mem_filterMap.mp h
  obtain rfl := Text.after?_eq_some.mp hafter
  have hfeed := Text.noFeed_of_mem_lines ((List.dropWhile_suffix _).subset hline)
  rw [String.toList_append] at hfeed
  exact fun hmem => hfeed (List.mem_append_right _ hmem)

end Eligibility.Resource
