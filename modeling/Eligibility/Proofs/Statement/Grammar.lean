import Eligibility.Proofs.Calendar.Rfc3339
import Eligibility.Proofs.Statement.Layout
import Eligibility.Proofs.Uri.Grammar
import Eligibility.Statement.Grammar
set_option autoImplicit false

/-!
# Statements: what the grammar derives

The grammar of EIP-4361 as it is written: a text is the concatenation of its
parts with the fixed words and the line ends between them, and a part may be
missing together with the line end in front of it or behind it.  Two properties
connect it with the readers.  The reader of messages accepts exactly the texts
that have a derivation, and gives the parts of one.  The scanner of resources,
which knows nothing of the grammar, finds exactly the URIs that the derivation
ends in.
-/

namespace Eligibility.Statement

open Eligibility.Text (OneLine Unbroken)
open Eligibility.Resource (sectionHeader marker)

/-- The parts of a message that the grammar names. -/
structure Parts where
  scheme : Option String
  domain : String
  address : String
  statement : Option String
  uri : String
  chainId : String
  nonce : String
  issuedAt : String
  expirationTime : Option String
  notBefore : Option String
  requestId : Option String
  /-- The URIs behind the line that opens the section; none without that line. -/
  resources : Option (List String)
  deriving DecidableEq, Repr

namespace Parts

/-- A part that may be missing with what is written around it. -/
def optional (write : String → String) (part : Option String) : String := part.elim "" write

/-- The text that consists of the parts. -/
def text (p : Parts) : String :=
  optional (· ++ "://") p.scheme ++ p.domain ++ headerTail ++ "\n" ++
    p.address ++ "\n" ++
    "\n" ++
    optional (· ++ "\n") p.statement ++
    "\n" ++
    "URI: " ++ p.uri ++ "\n" ++
    "Version: " ++ version ++ "\n" ++
    "Chain ID: " ++ p.chainId ++ "\n" ++
    "Nonce: " ++ p.nonce ++ "\n" ++
    "Issued At: " ++ p.issuedAt ++
    optional ("\nExpiration Time: " ++ ·) p.expirationTime ++
    optional ("\nNot Before: " ++ ·) p.notBefore ++
    optional ("\nRequest ID: " ++ ·) p.requestId ++
    p.resources.elim "" fun uris => "\nResources:" ++ String.join (uris.map ("\n- " ++ ·))

/-- The resources of a message; none if the last part is missing. -/
def uris (p : Parts) : List String := p.resources.getD []

/-- Every part has the form that the grammar asks for. -/
structure WellFormed (p : Parts) : Prop where
  scheme : ∀ s ∈ p.scheme, Uri.isScheme s.toList = true
  domain : Uri.isAuthority p.domain.toList = true
  address : isAddressText p.address.toList = true
  statement : ∀ s ∈ p.statement, isStatementText s.toList = true
  uri : Uri.isUri p.uri.toList = true
  chainId : isDigits p.chainId.toList = true
  nonce : isNonceText p.nonce.toList = true
  issuedAt : Calendar.isDateTimeText p.issuedAt.toList = true
  expirationTime : ∀ s ∈ p.expirationTime, Calendar.isDateTimeText s.toList = true
  notBefore : ∀ s ∈ p.notBefore, Calendar.isDateTimeText s.toList = true
  requestId : ∀ s ∈ p.requestId, Uri.isSegmentText s.toList = true
  resources : ∀ uri ∈ p.uris, Uri.isUri uri.toList = true

end Parts

/-- The parts derive the text. -/
structure Derives (p : Parts) (s : String) : Prop where
  wellFormed : p.WellFormed
  eq_text : s = p.text

namespace Parts

/-! ## The lines of a derivation -/

/-- What stands in front of the fixed words of the first line. -/
def opening (p : Parts) : String := optional (· ++ "://") p.scheme ++ p.domain

/-- A labelled line, if there is something to label. -/
def labelledLine (label : String) (part : Option String) : List String :=
  part.toList.map (label ++ ·)

/-- The labelled lines of a message. -/
def fieldLines (p : Parts) : List String :=
  ["URI: " ++ p.uri, "Version: " ++ version, "Chain ID: " ++ p.chainId, "Nonce: " ++ p.nonce,
   "Issued At: " ++ p.issuedAt] ++
    labelledLine "Expiration Time: " p.expirationTime ++ labelledLine "Not Before: " p.notBefore ++
    labelledLine "Request ID: " p.requestId

/-- The lines of the resources. -/
def resourceLines (p : Parts) : List String :=
  p.resources.elim [] fun uris => sectionHeader :: uris.map (marker ++ ·)

/-- The lines of a message. -/
def lines (p : Parts) : List String :=
  (p.opening ++ headerTail) :: p.address ::
    (statementLines p.statement ++ (p.fieldLines ++ p.resourceLines))

variable {p : Parts}

theorem join_labelledLine {label opened : String} (hopened : "\n" ++ label = opened)
    (part : Option String) :
    String.join ((labelledLine label part).map ("\n" ++ ·)) = optional (opened ++ ·) part := by
  cases part with
  | none => simp [labelledLine, optional]
  | some s => simp [labelledLine, optional, ← hopened, String.append_assoc]

theorem join_statementLines (statement : Option String) (rest : String) :
    String.join ((statementLines statement).map ("\n" ++ ·)) ++ ("\n" ++ rest) =
      "\n" ++ ("\n" ++ (optional (· ++ "\n") statement ++ ("\n" ++ rest))) := by
  cases statement with
  | none => simp [statementLines, optional, ← String.append_assoc]
  | some s => simp [statementLines, optional, ← String.append_assoc]

theorem join_resourceLines : String.join (p.resourceLines.map ("\n" ++ ·)) =
    p.resources.elim "" fun uris => "\nResources:" ++ String.join (uris.map ("\n- " ++ ·)) := by
  unfold resourceLines
  cases p.resources with
  | none => simp
  | some uris =>
    have hheader : "\n" ++ sectionHeader = "\nResources:" := by simp [sectionHeader]
    have hmarker : ∀ uri, "\n" ++ (marker ++ uri) = "\n- " ++ uri := by
      intro uri
      have hlead : "\n" ++ marker = "\n- " := by simp [marker]
      rw [← String.append_assoc, hlead]
    simp only [Option.elim_some, List.map_cons, List.map_map, Function.comp_def, String.join_cons,
      hheader, hmarker]

/-- The text is its lines with line ends between them. -/
theorem text_eq_join : p.text = Text.join "\n" p.lines := by
  have hexpiration := @join_labelledLine "Expiration Time: " "\nExpiration Time: " (by simp)
  have hbefore := @join_labelledLine "Not Before: " "\nNot Before: " (by simp)
  have hrequest := @join_labelledLine "Request ID: " "\nRequest ID: " (by simp)
  unfold lines
  rw [Text.join_cons]
  unfold fieldLines
  simp only [List.map_cons, List.map_append, List.cons_append, List.nil_append, String.join_cons,
    String.join_append, hexpiration, hbefore, hrequest, join_resourceLines, String.append_assoc]
  rw [join_statementLines]
  unfold text opening
  simp only [String.append_assoc]

/-- No derivation has a blank text. -/
theorem isBlankText_text (p : Parts) : Text.isBlankText p.text = false := by
  rw [text_eq_join]
  exact isBlankText_opening p.opening _

/-! ## Every part stands on its line -/

theorem unbroken_of_isStatementText {cs : List Char} (h : isStatementText cs = true) :
    Unbroken cs := by
  simp only [isStatementText, Bool.and_eq_true] at h
  exact .of_forall (by decide) (by decide) (List.all_eq_true.mp h.2)

theorem unbroken_of_isAddressText {cs : List Char} (h : isAddressText cs = true) :
    Unbroken cs := by
  unfold isAddressText at h
  split at h
  · next x digits =>
    simp only [Bool.and_eq_true, Bool.or_eq_true, beq_iff_eq] at h
    obtain ⟨⟨hx, -⟩, hdigits⟩ := h
    have hrest : Unbroken digits :=
      .of_forall (by decide) (by decide) (List.all_eq_true.mp hdigits)
    rcases hx with rfl | rfl
    · exact .cons (by decide) (by decide) (.cons (by decide) (by decide) hrest)
    · exact .cons (by decide) (by decide) (.cons (by decide) (by decide) hrest)
  · simp at h

theorem unbroken_of_isDigits {cs : List Char} (h : isDigits cs = true) : Unbroken cs := by
  simp only [isDigits, Bool.and_eq_true] at h
  exact .of_digits (List.all_eq_true.mp h.2)

theorem unbroken_of_isNonceText {cs : List Char} (h : isNonceText cs = true) : Unbroken cs := by
  simp only [isNonceText, Bool.and_eq_true] at h
  exact .of_forall (by decide) (by decide) (List.all_eq_true.mp h.2)

theorem ne_sectionHeader_of_isAddressText {s : String} (h : isAddressText s.toList = true) :
    s ≠ sectionHeader := by
  rintro rfl
  simp [isAddressText, sectionHeader] at h

theorem isLabelled_of_mem_labelledLine {label line : String} {part : Option String}
    (hlabel : label ∈ fieldLabels) (hpart : ∀ s ∈ part, OneLine s)
    (h : line ∈ labelledLine label part) : IsLabelled line := by
  obtain ⟨s, hs, rfl⟩ := List.mem_map.mp h
  exact ⟨label, hlabel, s, hpart s (Option.mem_toList.mp hs), rfl⟩

theorem isLabelled_of_mem_fieldLines (hp : p.WellFormed) {line : String} (h : line ∈ p.fieldLines) :
    IsLabelled line := by
  simp only [fieldLines, List.mem_append, List.mem_cons, List.not_mem_nil, or_false] at h
  have htime : ∀ part : Option String, (∀ s ∈ part, Calendar.isDateTimeText s.toList = true) →
      ∀ s ∈ part, OneLine s :=
    fun part hpart s hs => Calendar.unbroken_of_isDateTimeText (hpart s hs)
  rcases h with (((rfl | rfl | rfl | rfl | rfl) | h) | h) | h
  · exact ⟨"URI: ", by simp [fieldLabels], _, Uri.unbroken_of_isUri hp.uri, rfl⟩
  · exact ⟨"Version: ", by simp [fieldLabels], _, ⟨by decide, by decide⟩, rfl⟩
  · exact ⟨"Chain ID: ", by simp [fieldLabels], _, unbroken_of_isDigits hp.chainId, rfl⟩
  · exact ⟨"Nonce: ", by simp [fieldLabels], _, unbroken_of_isNonceText hp.nonce, rfl⟩
  · exact ⟨"Issued At: ", by simp [fieldLabels], _,
      Calendar.unbroken_of_isDateTimeText hp.issuedAt, rfl⟩
  · exact isLabelled_of_mem_labelledLine (by simp [fieldLabels]) (htime _ hp.expirationTime) h
  · exact isLabelled_of_mem_labelledLine (by simp [fieldLabels]) (htime _ hp.notBefore) h
  · exact isLabelled_of_mem_labelledLine (by simp [fieldLabels])
      (fun s hs => Uri.unbroken_of_isSegmentText (hp.requestId s hs)) h

theorem resourceLines_eq (p : Parts) : p.resourceLines = [] ∧ p.uris = [] ∨
    p.resourceLines = sectionHeader :: p.uris.map (marker ++ ·) := by
  unfold resourceLines uris
  cases p.resources with
  | none => exact .inl ⟨rfl, rfl⟩
  | some uris => exact .inr rfl

theorem oneLine_opening (hp : p.WellFormed) : OneLine p.opening := by
  have hdomain : OneLine p.domain := Uri.unbroken_of_isAuthority hp.domain
  unfold opening optional
  cases hs : p.scheme with
  | none => simpa using hdomain
  | some s =>
    have hscheme : OneLine s := Uri.unbroken_of_isScheme (hp.scheme s hs)
    have hmark : OneLine "://" := ⟨by decide, by decide⟩
    exact (hscheme.append hmark).append hdomain

theorem oneLine_of_mem_lines (hp : p.WellFormed) : ∀ line ∈ p.lines, OneLine line := by
  intro line h
  simp only [lines, List.mem_cons, List.mem_append] at h
  rcases h with rfl | rfl | h | h | h
  · exact (oneLine_opening hp).append oneLine_headerTail
  · exact unbroken_of_isAddressText hp.address
  · exact oneLine_of_mem_statementLines
      (fun s hs => unbroken_of_isStatementText (hp.statement s hs)) h
  · exact (isLabelled_of_mem_fieldLines hp h).oneLine
  · rcases resourceLines_eq p with ⟨hnone, -⟩ | hsome
    · simp [hnone] at h
    · exact oneLine_of_mem_section (fun uri huri => Uri.unbroken_of_isUri (hp.resources uri huri))
        (hsome ▸ h)

/-- The lines of the text are the lines that it was put together from. -/
theorem lines_text (hp : p.WellFormed) : Text.lines p.text = p.lines := by
  rw [text_eq_join]
  exact Text.lines_join (by simp [lines]) (oneLine_of_mem_lines hp)

/-- The scanner finds exactly the URIs of the derivation. -/
theorem linesOf_text (hp : p.WellFormed) : Resource.linesOf p.text = p.uris := by
  rw [Resource.linesOf, lines_text hp]
  exact ofSection_groups (append_headerTail_ne p.opening)
    (ne_sectionHeader_of_isAddressText hp.address)
    (fun _ h => isLabelled_of_mem_fieldLines hp h) (resourceLines_eq p)

end Parts

end Eligibility.Statement
