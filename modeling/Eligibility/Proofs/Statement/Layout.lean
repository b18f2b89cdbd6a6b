import Eligibility.Proofs.Resource.Section
import Eligibility.Proofs.Text.Lines
import Eligibility.Resource.Scan
import Eligibility.Statement.Message
set_option autoImplicit false

/-!
# Statements: where the resources stand

The lines of a statement come in three groups: those down to the line for people,
the labelled ones, and the resources.  The line for people is the only one of the
header that may open the section of the resources, and then the section has only
an empty line before the labelled ones, none of which is marked.  So a text of
these groups holds exactly its resources, whatever its fields say, as long as no
field holds a line end.
-/

namespace Eligibility.Statement

open Eligibility.Resource (sectionHeader marker ofSection IsField)
open Eligibility.Text (OneLine Unbroken)

/-! ## The groups of lines -/

/-- The labels that stand in front of fields. -/
def fieldLabels : List String :=
  ["URI: ", "Version: ", "Chain ID: ", "Nonce: ", "Issued At: ", "Expiration Time: ",
    "Not Before: ", "Request ID: "]

/-- A line that consists of a label and a value on one line. -/
def IsLabelled (line : String) : Prop :=
  ∃ label ∈ fieldLabels, ∃ value, OneLine value ∧ line = label ++ value

theorem IsLabelled.isField {line : String} (h : IsLabelled line) : IsField line := by
  obtain ⟨label, hmem, value, -, rfl⟩ := h
  have hlabels : ∀ label ∈ fieldLabels, label.toList.head?.all (· ≠ '-') = true ∧ label ≠ "" ∧
      Text.after? label sectionHeader = none := by decide
  obtain ⟨hmarker, hne, hheader⟩ := hlabels label hmem
  exact .of_label value hmarker hne hheader

theorem IsLabelled.oneLine {line : String} (h : IsLabelled line) : OneLine line := by
  obtain ⟨label, hmem, value, hvalue, rfl⟩ := h
  have hlabels : ∀ label ∈ fieldLabels, '\n' ∉ label.toList ∧ '\r' ∉ label.toList := by decide
  obtain ⟨hn, hr⟩ := hlabels label hmem
  exact OneLine.append ⟨hn, hr⟩ hvalue

/-- The line for people opens a section at most for the empty line behind it. -/
theorem ofSection_statementLines (statement : Option String) :
    ofSection (statementLines statement) = [] := by
  cases statement with
  | none => rfl
  | some s =>
    by_cases h : s = sectionHeader
    · subst h
      rfl
    · have hempty : sectionHeader ≠ "" := by decide
      exact Resource.ofSection_eq_nil (by simp [statementLines, Ne.symm h, hempty])

/-- Lines in the groups of a statement hold exactly the resources of the last group. -/
theorem ofSection_groups {opening address : String} {statement : Option String}
    {fields rest uris : List String} (hopening : opening ≠ sectionHeader)
    (haddress : address ≠ sectionHeader) (hfields : ∀ line ∈ fields, IsLabelled line)
    (hrest : rest = [] ∧ uris = [] ∨ rest = sectionHeader :: uris.map (marker ++ ·)) :
    ofSection (opening :: address :: (statementLines statement ++ (fields ++ rest))) = uris := by
  have hfront : ofSection (opening :: address :: statementLines statement) = [] := by
    have happend := Resource.ofSection_append [opening, address] (statementLines statement)
    rw [if_neg (by simp [Ne.symm hopening, Ne.symm haddress])] at happend
    exact happend.trans (ofSection_statementLines statement)
  have hmarked : rest.filterMap (Text.after? marker) = uris := by
    rcases hrest with ⟨rfl, rfl⟩ | rfl
    · rfl
    · have hheader : Text.after? marker sectionHeader = none := by rfl
      rw [List.filterMap_cons, hheader]
      exact Resource.filterMap_marked uris
  have hsection : ofSection rest = uris := by
    rcases hrest with ⟨rfl, rfl⟩ | rfl
    · rfl
    · exact Resource.ofSection_section uris
  exact Resource.ofSection_layout hfront (fun line h => (hfields line h).isField) hmarked hsection

/-- The first line ends as no line that opens a section does. -/
theorem append_headerTail_ne (domain : String) : domain ++ headerTail ≠ sectionHeader := by
  intro h
  have hlength := congrArg String.length h
  have htail : sectionHeader.length < headerTail.length := by decide
  rw [String.length_append] at hlength
  omega

/-- The first line has words in it, whatever stands in front of them. -/
theorem isBlankText_opening (opening : String) (rest : List String) :
    Text.isBlankText (Text.join "\n" ((opening ++ headerTail) :: rest)) = false := by
  rw [Text.join_cons, Text.isBlankText, List.all_eq_false]
  refine ⟨'w', ?_, by decide⟩
  simp [headerTail]

/-! ## Messages -/

namespace Message

/-- No field of the message holds a line end. -/
structure Plain (m : Message) : Prop where
  domain : OneLine m.domain
  address : OneLine m.address
  uri : OneLine m.uri
  nonce : OneLine m.nonce
  issuedAt : OneLine m.issuedAt
  statement : ∀ s ∈ m.statement, OneLine s
  expirationTime : ∀ s ∈ m.expirationTime, OneLine s
  notBefore : ∀ s ∈ m.notBefore, OneLine s
  requestId : ∀ s ∈ m.requestId, OneLine s
  resources : ∀ uri ∈ m.resources, OneLine uri

/-- The labelled lines of a message. -/
def fieldLines (m : Message) : List String :=
  ["URI: " ++ m.uri, "Version: " ++ version,
   "Chain ID: " ++ toString (if m.chainId = 0 then 1 else m.chainId),
   "Nonce: " ++ m.nonce, "Issued At: " ++ m.issuedAt] ++
    labelled "Expiration Time: " m.expirationTime ++ labelled "Not Before: " m.notBefore ++
    labelled "Request ID: " m.requestId

variable {m : Message}

theorem lines_eq : m.lines = (m.domain ++ headerTail) :: m.address ::
    (statementLines m.statement ++ (m.fieldLines ++ resourceLines m.resources)) := by
  simp [lines, fieldLines, List.append_assoc]

end Message

theorem mem_labelled {label line : String} {value : Option String}
    (h : line ∈ labelled label value) :
    ∃ s ∈ value, line = label ++ s := by
  cases value with
  | none => simp [labelled] at h
  | some s =>
    simp only [labelled] at h
    split at h
    · simp at h
    · exact ⟨s, rfl, List.mem_singleton.mp h⟩

theorem oneLine_of_mem_statementLines {statement : Option String}
    (hstatement : ∀ s ∈ statement, OneLine s) {line : String}
    (h : line ∈ statementLines statement) : OneLine line := by
  have hempty : OneLine "" := Unbroken.nil
  cases statement with
  | none =>
    simp only [statementLines, List.mem_cons, List.not_mem_nil, or_false, or_self] at h
    rw [h]
    exact hempty
  | some s =>
    simp only [statementLines, List.mem_cons, List.not_mem_nil, or_false] at h
    rcases h with rfl | rfl | rfl
    · exact hempty
    · exact hstatement _ rfl
    · exact hempty

theorem oneLine_of_mem_section {uris : List String} (huris : ∀ uri ∈ uris, OneLine uri)
    {line : String} (h : line ∈ sectionHeader :: uris.map (marker ++ ·)) : OneLine line := by
  rcases List.mem_cons.mp h with rfl | h
  · exact ⟨by decide, by decide⟩
  · obtain ⟨uri, huri, rfl⟩ := List.mem_map.mp h
    have hmarker : OneLine marker := ⟨by decide, by decide⟩
    exact hmarker.append (huris uri huri)

theorem oneLine_headerTail : OneLine headerTail := ⟨by decide, by decide⟩

namespace Message

variable {m : Message}

theorem isLabelled_of_mem_fieldLines (hm : m.Plain) {line : String} (h : line ∈ m.fieldLines) :
    IsLabelled line := by
  simp only [fieldLines, List.mem_append, List.mem_cons, List.not_mem_nil, or_false] at h
  rcases h with (((rfl | rfl | rfl | rfl | rfl) | h) | h) | h
  · exact ⟨"URI: ", by simp [fieldLabels], _, hm.uri, rfl⟩
  · exact ⟨"Version: ", by simp [fieldLabels], _, ⟨by decide, by decide⟩, rfl⟩
  · exact ⟨"Chain ID: ", by simp [fieldLabels], _, Text.oneLine_toString _, rfl⟩
  · exact ⟨"Nonce: ", by simp [fieldLabels], _, hm.nonce, rfl⟩
  · exact ⟨"Issued At: ", by simp [fieldLabels], _, hm.issuedAt, rfl⟩
  · obtain ⟨s, hs, rfl⟩ := mem_labelled h
    exact ⟨"Expiration Time: ", by simp [fieldLabels], s, hm.expirationTime s hs, rfl⟩
  · obtain ⟨s, hs, rfl⟩ := mem_labelled h
    exact ⟨"Not Before: ", by simp [fieldLabels], s, hm.notBefore s hs, rfl⟩
  · obtain ⟨s, hs, rfl⟩ := mem_labelled h
    exact ⟨"Request ID: ", by simp [fieldLabels], s, hm.requestId s hs, rfl⟩

theorem resourceLines_eq (uris : List String) :
    resourceLines uris = [] ∧ uris = [] ∨
      resourceLines uris = sectionHeader :: uris.map (marker ++ ·) := by
  cases uris with
  | nil => exact .inl ⟨rfl, rfl⟩
  | cons uri rest => exact .inr rfl

theorem oneLine_of_mem_lines (hm : m.Plain) : ∀ line ∈ m.lines, OneLine line := by
  intro line h
  rw [lines_eq] at h
  simp only [List.mem_cons, List.mem_append] at h
  rcases h with rfl | rfl | h | h | h
  · exact hm.domain.append oneLine_headerTail
  · exact hm.address
  · exact oneLine_of_mem_statementLines hm.statement h
  · exact (isLabelled_of_mem_fieldLines hm h).oneLine
  · rcases resourceLines_eq m.resources with ⟨hnone, -⟩ | hsome
    · simp [hnone] at h
    · exact oneLine_of_mem_section hm.resources (hsome ▸ h)

/-- The lines of a message are read back as they were laid out. -/
theorem lines_render (hm : m.Plain) : Text.lines m.render = m.lines := by
  refine Text.lines_join ?_ (oneLine_of_mem_lines hm)
  rw [lines_eq]
  simp

/-- A message that is laid out has text in it. -/
theorem isBlankText_render (m : Message) : Text.isBlankText m.render = false := by
  rw [render, lines_eq]
  exact isBlankText_opening m.domain _

/-- A message that is laid out holds exactly its resources. -/
theorem linesOf_render (hm : m.Plain) (haddress : m.address ≠ sectionHeader) :
    Resource.linesOf m.render = m.resources := by
  rw [Resource.linesOf, lines_render hm, lines_eq]
  exact ofSection_groups (append_headerTail_ne m.domain) haddress
    (fun _ h => isLabelled_of_mem_fieldLines hm h) (resourceLines_eq m.resources)

end Message

end Eligibility.Statement
