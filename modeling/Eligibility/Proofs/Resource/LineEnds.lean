import Eligibility.Proofs.Resource.Reading
import Eligibility.Proofs.Resource.Section
import Eligibility.Proofs.Text.Lines
set_option autoImplicit false

/-!
# Resources: a statement and its line ends

The lines of a text may end in LF or in CR LF, one like this and the next one like that, and
a CR may stand at the very end.  Nothing that is read from a statement depends on it: the
resources are the marked lines behind the first line that opens the section, whatever ends
the lines, and no other character ends one.
-/

namespace Eligibility.Text

/-! ## Lines with their ends -/

/-- What may stand between two lines. -/
inductive LineEnd where
  | feed
  | returnFeed
  deriving DecidableEq, Repr

/-- The characters of a line end. -/
def LineEnd.text : LineEnd → String
  | feed => "\n"
  | returnFeed => "\r\n"

/-- A text as its lines, each with what ends it; a CR may stand behind the last one. -/
inductive Layout where
  | last (line : String) (closed : Bool)
  | cons (line : String) (ending : LineEnd) (rest : Layout)
  deriving DecidableEq, Repr

namespace Layout

/-- The lines, whatever ends them. -/
def lines : Layout → List String
  | last line _ => [line]
  | cons line _ rest => line :: rest.lines

/-- The lines with their ends, one after another. -/
def text : Layout → String
  | last line closed => line ++ if closed then "\r" else ""
  | cons line ending rest => line ++ ending.text ++ rest.text

end Layout

/-- A text that can stand on a line as it is: it holds no LF and does not end in a CR. -/
structure IsLine (line : String) : Prop where
  noFeed : '\n' ∉ line.toList
  noReturn : line.toList.getLast? ≠ some '\r'

instance (line : String) : Decidable (IsLine line) :=
  decidable_of_iff ('\n' ∉ line.toList ∧ line.toList.getLast? ≠ some '\r')
    ⟨fun h => ⟨h.1, h.2⟩, fun h => ⟨h.noFeed, h.noReturn⟩⟩

/-! ## One line and its end -/

theorem dropReturn_of_getLast? {line : List Char} (h : line.getLast? ≠ some '\r') :
    dropReturn line = line := by
  unfold dropReturn
  split
  · next rest hrev =>
    rw [List.getLast?_eq_head?_reverse, hrev] at h
    exact absurd rfl h
  · rfl

theorem linesList_last {line : List Char} (h : '\n' ∉ line) :
    linesList line = [dropReturn line] := by
  rw [linesList, piecesList_of_not_mem h, List.map_singleton]

theorem linesList_append_feed {line : List Char} (h : '\n' ∉ line) (rest : List Char) :
    linesList (line ++ '\n' :: rest) = dropReturn line :: linesList rest := by
  rw [linesList, piecesList_append h, List.map_cons]
  rfl

theorem isBlankText_append (s t : String) :
    isBlankText (s ++ t) = (isBlankText s && isBlankText t) := by
  rw [isBlankText, String.toList_append, List.all_append]
  rfl

namespace Layout

/-- The lines are read as they are written, whatever ends them. -/
theorem linesList_text {l : Layout} (h : ∀ line ∈ l.lines, IsLine line) :
    linesList l.text.toList = l.lines.map String.toList := by
  induction l with
  | last line closed =>
    obtain ⟨hfeed, hreturn⟩ : IsLine line := h line (by simp [lines])
    cases closed with
    | false =>
      have htext : (last line false).text.toList = line.toList := by simp [text]
      rw [htext, linesList_last hfeed, dropReturn_of_getLast? hreturn]
      rfl
    | true =>
      have htext : (last line true).text.toList = line.toList ++ ['\r'] := by simp [text]
      have hclosed : '\n' ∉ line.toList ++ ['\r'] := by simpa using hfeed
      rw [htext, linesList_last hclosed, dropReturn_append_return]
      rfl
  | cons line ending rest ih =>
    obtain ⟨hfeed, hreturn⟩ : IsLine line := h line (by simp [lines])
    have hrest := ih fun other hother => h other (by simp [lines, hother])
    rw [lines, List.map_cons, ← hrest]
    cases ending with
    | feed =>
      have htext : (cons line .feed rest).text.toList =
          line.toList ++ '\n' :: rest.text.toList := by simp [text, LineEnd.text]
      rw [htext, linesList_append_feed hfeed, dropReturn_of_getLast? hreturn]
    | returnFeed =>
      have htext : (cons line .returnFeed rest).text.toList =
          (line.toList ++ ['\r']) ++ '\n' :: rest.text.toList := by simp [text, LineEnd.text]
      have hclosed : '\n' ∉ line.toList ++ ['\r'] := by simpa using hfeed
      rw [htext, linesList_append_feed hclosed, dropReturn_append_return]

theorem lines_text {l : Layout} (h : ∀ line ∈ l.lines, IsLine line) :
    Text.lines l.text = l.lines := by
  rw [Text.lines, linesList_text h, List.map_map]
  have hid : ∀ line ∈ l.lines, (String.ofList ∘ String.toList) line = line :=
    fun line _ => String.ofList_toList
  exact (List.map_congr_left hid).trans (List.map_id _)

/-- No line end makes a text anything but blank. -/
theorem isBlankText_text (l : Layout) : isBlankText l.text = l.lines.all isBlankText := by
  induction l with
  | last line closed =>
    have hclosed : isBlankText (if closed then "\r" else "") = true := by
      cases closed with
      | false => exact isBlankText_empty
      | true => decide
    rw [text, isBlankText_append, hclosed, lines, List.all_cons, List.all_nil]
  | cons line ending rest ih =>
    have hending : isBlankText ending.text = true := by
      cases ending with
      | feed => decide
      | returnFeed => decide
    rw [text, isBlankText_append, isBlankText_append, hending, ih, lines, List.all_cons,
      Bool.and_true]

end Layout

end Eligibility.Text

namespace Eligibility.Resource

open Text (Layout IsLine)

/-! ## The section -/

/-- The line starts with the marker. -/
def isMarked (line : String) : Bool := marker.toList.isPrefixOf line.toList

/-- Resources are the marked lines behind the first line that opens the section, without their
marker; there are none if no line does. -/
def IsSection (lines resources : List String) : Prop :=
  (sectionHeader ∉ lines ∧ resources = []) ∨
    ∃ before after, lines = before ++ sectionHeader :: after ∧ sectionHeader ∉ before ∧
      resources.map (marker ++ ·) = after.filter isMarked

theorem isMarked_iff {line : String} :
    isMarked line = true ↔ ∃ resource, line = marker ++ resource := by
  rw [isMarked, List.isPrefixOf_iff_prefix]
  constructor
  · intro h
    obtain ⟨rest, hrest⟩ := h
    refine ⟨String.ofList rest, ?_⟩
    apply String.toList_inj.mp
    rw [← hrest, String.toList_append, String.toList_ofList]
  · intro h
    obtain ⟨resource, rfl⟩ := h
    rw [String.toList_append]
    exact List.prefix_append _ _

/-- What stands behind the markers, with the markers in front again, are the marked lines. -/
theorem map_marker_filterMap (lines : List String) :
    (lines.filterMap (Text.after? marker)).map (marker ++ ·) = lines.filter isMarked := by
  induction lines with
  | nil => rfl
  | cons line rest ih =>
    cases hafter : Text.after? marker line with
    | some resource =>
      obtain rfl := Text.after?_eq_some.mp hafter
      have hmarked : isMarked (marker ++ resource) = true := isMarked_iff.mpr ⟨resource, rfl⟩
      rw [List.filterMap_cons_some hafter, List.map_cons, List.filter_cons_of_pos hmarked, ih]
    | none =>
      have hmarked : ¬ isMarked line = true := by
        rw [isMarked_iff]
        intro h
        obtain ⟨resource, rfl⟩ := h
        rw [after?_append] at hafter
        exact Option.some_ne_none _ hafter
      rw [List.filterMap_cons_none hafter, List.filter_cons_of_neg hmarked, ih]

theorem ofSection_of_header {before after : List String} (h : sectionHeader ∉ before) :
    ofSection (before ++ sectionHeader :: after) = after.filterMap (Text.after? marker) := by
  have hheader : Text.after? marker sectionHeader = none := by decide
  have hopen : ofSection (sectionHeader :: after) =
      (sectionHeader :: after).filterMap (Text.after? marker) := by
    simp [ofSection]
  rw [ofSection_append, if_neg h, hopen, List.filterMap_cons_none hheader]

/-- The resources among lines are determined by the lines. -/
theorem isSection_iff {lines resources : List String} :
    IsSection lines resources ↔ ofSection lines = resources := by
  by_cases hmem : sectionHeader ∈ lines
  · obtain ⟨before, after, rfl, hbefore⟩ := List.eq_append_cons_of_mem hmem
    rw [ofSection_of_header hbefore]
    constructor
    · intro h
      rcases h with ⟨habsent, -⟩ | ⟨before', after', hcut, hbefore', hmarked⟩
      · exact absurd hmem habsent
      · -- The first line that opens the section is the same in both cuts.
        have hsame : ofSection (before ++ sectionHeader :: after) =
            after.filterMap (Text.after? marker) := ofSection_of_header hbefore
        rw [hcut, ofSection_of_header hbefore'] at hsame
        rw [← hsame]
        have hinjective : ∀ s t, marker ++ s = marker ++ t → s = t := by
          intro s t hst
          have hafter := congrArg (Text.after? marker) hst
          rw [after?_append, after?_append] at hafter
          exact Option.some.inj hafter
        apply (List.map_inj_right hinjective).mp
        rw [map_marker_filterMap, hmarked]
    · intro h
      subst h
      exact .inr ⟨before, after, rfl, hbefore, map_marker_filterMap after⟩
  · rw [ofSection_eq_nil hmem]
    constructor
    · intro h
      rcases h with ⟨-, hnone⟩ | ⟨before, after, rfl, -⟩
      · exact hnone.symm
      · exact absurd (List.mem_append_right before List.mem_cons_self) hmem
    · intro h
      exact .inl ⟨hmem, h.symm⟩

/-! ## What is read -/

/-- A scan looks at the lines of a statement, and at whether there is anything in it. -/
theorem scan_congr {s t : String} (hblank : Text.isBlankText s = Text.isBlankText t)
    (hlines : Text.lines s = Text.lines t) : scan s = scan t := by
  unfold scan linesOfStatement linesOf
  rw [hblank, hlines]

/-- What is read from a text is told by its lines, and not by what ends them. -/
structure ReadByLines (l : Layout) : Prop where
  /-- The resources are those of the section. -/
  resources : Text.isBlankText l.text = false →
    ∃ resources, linesOfStatement l.text = .ok resources ∧ IsSection l.lines resources
  /-- The same lines with other ends say the same. -/
  scan : ∀ l' : Layout, l'.lines = l.lines → scan l'.text = scan l.text

/-- Only LF and CR LF end a line, and it does not matter which. -/
theorem readByLines {l : Layout} (h : ∀ line ∈ l.lines, IsLine line) : ReadByLines l where
  resources := by
    intro hblank
    refine ⟨ofSection l.lines, ?_, isSection_iff.mpr rfl⟩
    rw [linesOfStatement_eq_ok hblank, linesOf, Layout.lines_text h]
  scan := by
    intro l' hlines
    apply scan_congr
    · rw [Layout.isBlankText_text, Layout.isBlankText_text, hlines]
    · rw [Layout.lines_text h, Layout.lines_text (hlines ▸ h), hlines]

/-- Lines that hold what only looks like a line end, and a second line that opens the section, with
ends of both kinds and a CR at the end. -/
def mixedEnds : Layout :=
  .cons "- before" .returnFeed <| .cons "Resources:" .feed <|
    .cons "- urn:verify:action:a\u2028- urn:verify:action:b" .returnFeed <|
    .cons "Resources:" .feed <| .cons "-not marked" .returnFeed <|
    .last "- urn:verify:provider:x\r\x0b- y" true

/-- The same lines, with LF between them. -/
def feedEnds : Layout :=
  .cons "- before" .feed <| .cons "Resources:" .feed <|
    .cons "- urn:verify:action:a\u2028- urn:verify:action:b" .feed <|
    .cons "Resources:" .feed <| .cons "-not marked" .feed <|
    .last "- urn:verify:provider:x\r\x0b- y" false

theorem readByLines_mixedEnds :
    (∀ line ∈ mixedEnds.lines, IsLine line) ∧ Text.isBlankText mixedEnds.text = false ∧
      linesOfStatement mixedEnds.text =
        .ok ["urn:verify:action:a\u2028- urn:verify:action:b", "urn:verify:provider:x\r\x0b- y"] ∧
      scan feedEnds.text = scan mixedEnds.text := by
  have hlines : ∀ line ∈ mixedEnds.lines, IsLine line := by decide
  have hblank : Text.isBlankText mixedEnds.text = false := by
    rw [Layout.isBlankText_text]
    decide
  obtain ⟨resources, hresources, hsection⟩ := (readByLines hlines).resources hblank
  have hfound : ofSection mixedEnds.lines =
      ["urn:verify:action:a\u2028- urn:verify:action:b", "urn:verify:provider:x\r\x0b- y"] := by
    decide
  rw [← isSection_iff.mp hsection, hfound] at hresources
  exact ⟨hlines, hblank, hresources, (readByLines hlines).scan feedEnds rfl⟩

end Eligibility.Resource
