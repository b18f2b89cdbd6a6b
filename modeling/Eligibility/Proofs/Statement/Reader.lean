import Eligibility.Proofs.Statement.Grammar
set_option autoImplicit false

/-!
# Statements: the reader is the grammar

Each reader takes the lines that its part of the grammar writes and leaves the
others, and takes nothing else.  Together they accept exactly the texts that have
a derivation, and the draft that they give holds its parts.
-/

namespace Eligibility.Statement

open Eligibility.Resource (sectionHeader marker)

/-! ## One line -/

theorem takeField_eq_some {label : String} {form : List Char → Bool} {ls rest : Lines}
    {value : String} : takeField label form ls = some (value, rest) ↔
      form value.toList = true ∧ ls = (label ++ value).toList :: rest := by
  cases ls with
  | nil => simp [takeField]
  | cons line ls =>
    simp only [takeField, Option.bind_eq_bind, Option.bind_eq_some_iff, Text.afterList?_eq_some,
      Option.ite_none_right_eq_some, Option.some.injEq, Prod.mk.injEq, String.toList_append,
      List.cons.injEq]
    constructor
    · rintro ⟨cs, rfl, hform, rfl, rfl⟩
      simpa using hform
    · rintro ⟨hform, rfl, rfl⟩
      exact ⟨value.toList, rfl, hform, String.ofList_toList, rfl⟩

theorem takeEmpty_eq_some {ls rest : Lines} : takeEmpty ls = some rest ↔ ls = [] :: rest := by
  unfold takeEmpty
  split
  · simp [eq_comm]
  · next h =>
    simp only [reduceCtorEq, false_iff]
    rintro rfl
    exact h rest rfl

/-- No labelled line stands next. -/
def LacksLabel (label : String) (ls : Lines) : Prop :=
  ∀ line ∈ ls.head?, Text.afterList? label.toList line = none

theorem takeField_eq_none {label : String} {form : List Char → Bool} {ls : Lines}
    (h : LacksLabel label ls) : takeField label form ls = none := by
  cases ls with
  | nil => rfl
  | cons line ls => simp [takeField, h line rfl]

/-! ## Lines that may be missing -/

/-- The lines of a labelled part that may be missing. -/
def labelledRows (label : String) (part : Option String) : Lines :=
  (Parts.labelledLine label part).map String.toList

theorem takeOptional_sound {label : String} {form : List Char → Bool} {ls rest : Lines}
    {part : Option String} (h : takeOptional label form ls = (part, rest)) :
    (∀ s ∈ part, form s.toList = true) ∧ ls = labelledRows label part ++ rest := by
  unfold takeOptional at h
  split at h
  · next value after hfield =>
    obtain ⟨rfl, rfl⟩ := Prod.mk.inj h
    obtain ⟨hform, rfl⟩ := takeField_eq_some.mp hfield
    refine ⟨?_, rfl⟩
    intro s hs
    exact Option.some.inj hs ▸ hform
  · obtain ⟨rfl, rfl⟩ := Prod.mk.inj h
    exact ⟨by simp, rfl⟩

theorem takeOptional_complete {label : String} {form : List Char → Bool} {rest : Lines}
    {part : Option String} (hform : ∀ s ∈ part, form s.toList = true)
    (hrest : LacksLabel label rest) :
    takeOptional label form (labelledRows label part ++ rest) = (part, rest) := by
  unfold takeOptional
  cases part with
  | none =>
    have hnone : labelledRows label none ++ rest = rest := rfl
    rw [hnone, takeField_eq_none hrest]
  | some s =>
    have hsome : takeField label form (labelledRows label (some s) ++ rest) = some (s, rest) :=
      takeField_eq_some.mpr ⟨hform s rfl, rfl⟩
    rw [hsome]

theorem takeStatement_eq_some {ls rest : Lines} {statement : Option String} :
    takeStatement ls = some (statement, rest) ↔
      (∀ s ∈ statement, isStatementText s.toList = true) ∧
        ls = (statementLines statement).map String.toList ++ rest := by
  simp only [takeStatement, Option.bind_eq_bind, Option.bind_eq_some_iff, takeEmpty_eq_some]
  constructor
  · rintro ⟨after, rfl, h⟩
    split at h
    · obtain ⟨rfl, rfl⟩ := Prod.mk.inj (Option.some.inj h)
      exact ⟨by simp, rfl⟩
    · next line rest' hne =>
      simp only [Option.ite_none_right_eq_some, Option.bind_eq_some_iff, takeEmpty_eq_some,
        Option.pure_def, Option.some.injEq, Prod.mk.injEq] at h
      obtain ⟨hline, _, rfl, rfl, rfl⟩ := h
      refine ⟨?_, by simp [statementLines]⟩
      intro s hs
      rw [← Option.some.inj hs]
      simpa using hline
    · simp at h
  · rintro ⟨hform, rfl⟩
    cases statement with
    | none => exact ⟨[] :: rest, rfl, rfl⟩
    | some s =>
      refine ⟨s.toList :: [] :: rest, rfl, ?_⟩
      have hs := hform s rfl
      split
      · next hempty =>
        -- A line for people is not empty, so it is not taken for the end of the header.
        rw [(List.cons.inj hempty).1] at hs
        exact absurd hs (by decide)
      · next line after _ heq =>
        obtain ⟨rfl, rfl⟩ := List.cons.inj heq
        rw [if_pos hs]
        simp [takeEmpty]
      · next hnil => simp at hnil

/-! ## The resources -/

/-- The URI of a marked row. -/
def takeUri (line : List Char) : Option String := do
  let uri ← Text.afterList? ['-', ' '] line
  if Uri.isUri uri then some (String.ofList uri) else none

theorem takeUri_eq_some {line : List Char} {uri : String} :
    takeUri line = some uri ↔ Uri.isUri uri.toList = true ∧ line = (marker ++ uri).toList := by
  simp only [takeUri, Option.bind_eq_bind, Option.bind_eq_some_iff, Text.afterList?_eq_some,
    Option.ite_none_right_eq_some, Option.some.injEq]
  have hmarker : marker.toList = ['-', ' '] := by rfl
  rw [String.toList_append, hmarker]
  constructor
  · rintro ⟨cs, rfl, huri, rfl⟩
    simpa using huri
  · rintro ⟨huri, rfl⟩
    exact ⟨uri.toList, rfl, huri, String.ofList_toList⟩

theorem mapM_takeUri_eq_some {ls : Lines} {uris : List String} :
    ls.mapM takeUri = some uris ↔ (∀ uri ∈ uris, Uri.isUri uri.toList = true) ∧
      ls = (uris.map (marker ++ ·)).map String.toList := by
  induction ls generalizing uris with
  | nil =>
    cases uris with
    | nil => simp
    | cons uri uris => simp
  | cons line ls ih =>
    simp only [List.mapM_cons, Option.bind_eq_bind, Option.bind_eq_some_iff, takeUri_eq_some, ih,
      Option.pure_def, Option.some.injEq]
    constructor
    · rintro ⟨uri, ⟨huri, rfl⟩, uris, ⟨huris, rfl⟩, rfl⟩
      exact ⟨List.forall_mem_cons.mpr ⟨huri, huris⟩, rfl⟩
    · rintro ⟨huris, heq⟩
      cases uris with
      | nil => simp at heq
      | cons uri uris =>
        obtain ⟨huri, huris⟩ := List.forall_mem_cons.mp huris
        simp only [List.map_cons, List.cons.injEq] at heq
        exact ⟨uri, ⟨huri, heq.1⟩, uris, ⟨huris, heq.2⟩, rfl⟩

/-- The section is missing, or opened by its header; an open section may be empty. -/
theorem takeResources_eq_some {ls : Lines} {uris : List String} :
    takeResources ls = some uris ↔
      ls = [] ∧ uris = [] ∨ (∀ uri ∈ uris, Uri.isUri uri.toList = true) ∧
        ls = (sectionHeader :: uris.map (marker ++ ·)).map String.toList := by
  cases ls with
  | nil =>
    constructor
    · intro h
      exact .inl ⟨rfl, (Option.some.inj h).symm⟩
    · rintro (⟨-, rfl⟩ | ⟨-, h⟩)
      · rfl
      · exact absurd h (List.cons_ne_nil _ _).symm
  | cons line rest =>
    have hopen : takeResources (line :: rest) =
        if line == sectionHeader.toList then rest.mapM takeUri else none := rfl
    rw [hopen]
    simp only [beq_iff_eq, Option.ite_none_right_eq_some, mapM_takeUri_eq_some, List.map_cons,
      List.cons.injEq, reduceCtorEq, false_and, false_or]
    constructor
    · rintro ⟨hline, huris, hrest⟩
      exact ⟨huris, hline, hrest⟩
    · rintro ⟨huris, hline, hrest⟩
      exact ⟨hline, huris, hrest⟩

/-- The resources that are read stand in a section, or there are none and no section either. -/
theorem takeResources_sound {ls : Lines} {uris : List String} (h : takeResources ls = some uris) :
    ∃ resources : Option (List String), uris = resources.getD [] ∧
      (∀ uri ∈ uris, Uri.isUri uri.toList = true) ∧
      ls = (resources.elim [] fun uris => sectionHeader :: uris.map (marker ++ ·)).map
        String.toList := by
  rcases takeResources_eq_some.mp h with ⟨rfl, rfl⟩ | ⟨huris, rfl⟩
  · exact ⟨none, rfl, by simp, rfl⟩
  · exact ⟨some uris, rfl, huris, rfl⟩

/-! ## The first line -/

/-- An authority holds no mark behind a scheme. -/
theorem cutAtTextList_authority {cs : List Char} (h : Uri.isAuthority cs = true) :
    Text.cutAtTextList [':', '/', '/'] cs = none := by
  have hslash : '/' ∉ cs := by
    intro hmem
    exact absurd (List.all_eq_true.mp (Uri.all_of_isAuthority h) _ hmem) (by decide)
  exact Text.cutAtTextList_of_not_mem (by decide) hslash

/-- A scheme ends at the first mark. -/
theorem cutAtTextList_scheme {cs : List Char} (h : Uri.isScheme cs = true) (rest : List Char) :
    Text.cutAtTextList [':', '/', '/'] (cs ++ ([':', '/', '/'] ++ rest)) = some (cs, rest) := by
  have hcolon : ':' ∉ cs := by
    intro hmem
    exact absurd (List.all_eq_true.mp (Uri.all_of_isScheme h) _ hmem) (by decide)
  exact Text.cutAtTextList_append hcolon rest

/-- The first line is read exactly if it is an authority in front of the fixed words, with or
without a scheme. -/
theorem domainOf?_eq_some {line : List Char} {domain : String} :
    domainOf? line = some domain ↔ ∃ scheme : Option String,
      (∀ s ∈ scheme, Uri.isScheme s.toList = true) ∧ Uri.isAuthority domain.toList = true ∧
      line = (Parts.optional (· ++ "://") scheme ++ domain ++ headerTail).toList := by
  simp only [domainOf?, Option.bind_eq_bind, Option.bind_eq_some_iff, Option.map_eq_some_iff,
    Text.afterList?_eq_some]
  constructor
  · rintro ⟨_, ⟨rev, hrev, rfl⟩, h⟩
    have hline : line = rev.reverse ++ headerTail.toList := by
      rw [← List.reverse_reverse line, hrev, List.reverse_append, List.reverse_reverse]
    subst hline
    split at h
    · next scheme domain' hcut =>
      simp only [Bool.and_eq_true, Option.ite_none_right_eq_some, Option.some.injEq] at h
      obtain ⟨⟨hscheme, hdomain⟩, rfl⟩ := h
      refine ⟨some (String.ofList scheme), ?_, by simpa using hdomain, ?_⟩
      · intro s hs
        rw [← Option.some.inj hs]
        simpa using hscheme
      · rw [Text.eq_append_of_cutAtTextList hcut]
        simp [Parts.optional]
    · simp only [Option.ite_none_right_eq_some, Option.some.injEq] at h
      obtain ⟨hdomain, rfl⟩ := h
      exact ⟨none, by simp, by simpa using hdomain, by simp [Parts.optional]⟩
  · rintro ⟨scheme, hscheme, hdomain, rfl⟩
    refine ⟨(Parts.optional (· ++ "://") scheme ++ domain).toList,
      ⟨_, by rw [String.toList_append, List.reverse_append], by simp⟩, ?_⟩
    cases scheme with
    | none => simp [Parts.optional, cutAtTextList_authority hdomain, hdomain]
    | some s =>
      have hmark : "://".toList = [':', '/', '/'] := by rfl
      have hs := hscheme s rfl
      rw [Parts.optional, Option.elim_some, String.toList_append, String.toList_append, hmark,
        List.append_assoc, cutAtTextList_scheme hs]
      simp [hdomain, hs]

/-! ## Whole messages -/

/-- The draft that holds the parts. -/
def Parts.draft (p : Parts) : Draft where
  domain := .text p.domain
  address := .text p.address
  uri := .text p.uri
  chainId := .text p.chainId
  nonce := .text p.nonce
  issuedAt := .text p.issuedAt
  statement := .ofText? p.statement
  expirationTime := .ofText? p.expirationTime
  notBefore := .ofText? p.notBefore
  requestId := .ofText? p.requestId
  resources := p.uris.map .text

/-- The rows of a message in the order in which they are taken. -/
theorem Parts.rows_eq (p : Parts) : p.lines.map String.toList =
    (optional (· ++ "://") p.scheme ++ p.domain ++ headerTail).toList :: ("" ++ p.address).toList ::
      ((statementLines p.statement).map String.toList ++ ("URI: " ++ p.uri).toList ::
        ("Version: " ++ version).toList :: ("Chain ID: " ++ p.chainId).toList ::
        ("Nonce: " ++ p.nonce).toList :: ("Issued At: " ++ p.issuedAt).toList ::
        (labelledRows "Expiration Time: " p.expirationTime ++
          (labelledRows "Not Before: " p.notBefore ++
            (labelledRows "Request ID: " p.requestId ++ p.resourceLines.map String.toList)))) := by
  simp only [lines, opening, fieldLines, labelledRows, List.map_cons, List.map_append,
    List.cons_append, List.nil_append, List.append_assoc, String.empty_append]

/-- What is read has a derivation. -/
theorem readLines?_sound {ls : Lines} {d : Draft} (h : readLines? ls = some d) :
    ∃ p : Parts, p.WellFormed ∧ ls = p.lines.map String.toList ∧ d = p.draft := by
  simp only [readLines?, Option.bind_eq_bind, Option.bind_eq_some_iff] at h
  obtain ⟨header, hhead, domain, readDomain, ⟨address, rest₁⟩, readAddress, ⟨statement, rest₂⟩,
    readStatement, ⟨uri, rest₃⟩, readUri, ⟨number, rest₄⟩, readNumber, ⟨chainId, rest₅⟩,
    readChainId, ⟨nonce, rest₆⟩, readNonce, ⟨issuedAt, rest₇⟩, readIssuedAt, h⟩ := h
  obtain ⟨expirationTime, rest₈, readExpirationTime⟩ : ∃ part rest,
      takeOptional "Expiration Time: " Calendar.isDateTimeText rest₇ = (part, rest) := ⟨_, _, rfl⟩
  obtain ⟨notBefore, rest₉, readNotBefore⟩ : ∃ part rest,
      takeOptional "Not Before: " Calendar.isDateTimeText rest₈ = (part, rest) := ⟨_, _, rfl⟩
  obtain ⟨requestId, rest₁₀, readRequestId⟩ : ∃ part rest,
      takeOptional "Request ID: " Uri.isSegmentText rest₉ = (part, rest) := ⟨_, _, rfl⟩
  simp only [readExpirationTime, readNotBefore, readRequestId, Option.pure_def,
    Option.some.injEq] at h
  obtain ⟨uris, readUris, rfl⟩ := h
  obtain ⟨scheme, hscheme, hauthority, hheader⟩ := domainOf?_eq_some.mp readDomain
  obtain ⟨haddress, hrows⟩ := takeField_eq_some.mp readAddress
  obtain ⟨hstatement, rfl⟩ := takeStatement_eq_some.mp readStatement
  obtain ⟨huri, rfl⟩ := takeField_eq_some.mp readUri
  obtain ⟨hnumber, rfl⟩ := takeField_eq_some.mp readNumber
  obtain ⟨hchainId, rfl⟩ := takeField_eq_some.mp readChainId
  obtain ⟨hnonce, rfl⟩ := takeField_eq_some.mp readNonce
  obtain ⟨hissuedAt, rfl⟩ := takeField_eq_some.mp readIssuedAt
  obtain ⟨hexpirationTime, rfl⟩ := takeOptional_sound readExpirationTime
  obtain ⟨hnotBefore, rfl⟩ := takeOptional_sound readNotBefore
  obtain ⟨hrequestId, rfl⟩ := takeOptional_sound readRequestId
  obtain ⟨resources, rfl, huris, rfl⟩ := takeResources_sound readUris
  refine ⟨⟨scheme, domain, address, statement, uri, chainId, nonce, issuedAt, expirationTime,
    notBefore, requestId, resources⟩, ?_, ?_, rfl⟩
  · exact {
      scheme := hscheme
      domain := hauthority
      address := haddress
      statement := hstatement
      uri := huri
      chainId := hchainId
      nonce := hnonce
      issuedAt := hissuedAt
      expirationTime := hexpirationTime
      notBefore := hnotBefore
      requestId := hrequestId
      resources := huris }
  · have hversion : number = version := String.toList_inj.mp (by simpa using hnumber)
    rw [Parts.rows_eq, ← hversion, ← hheader]
    cases ls with
    | nil => simp at hhead
    | cons first rest =>
      obtain rfl := Option.some.inj hhead
      exact congrArg (first :: ·) hrows

theorem LacksLabel.labelledRows {label other : String} {part : Option String} {rest : Lines}
    (hother : ∀ value, Text.afterList? label.toList (other ++ value).toList = none)
    (hrest : LacksLabel label rest) : LacksLabel label (labelledRows other part ++ rest) := by
  cases part with
  | none => exact hrest
  | some s =>
    intro line hline
    obtain rfl := Option.some.inj hline
    exact hother s

theorem LacksLabel.resourceRows {label : String}
    (hheader : Text.afterList? label.toList sectionHeader.toList = none) (p : Parts) :
    LacksLabel label (p.resourceLines.map String.toList) := by
  intro line hline
  rcases p.resourceLines_eq with ⟨hnone, -⟩ | hsome
  · simp [hnone] at hline
  · rw [hsome] at hline
    obtain rfl := Option.some.inj hline
    exact hheader

namespace Parts

variable (p : Parts)

theorem lacks_requestId : LacksLabel "Request ID: " (p.resourceLines.map String.toList) :=
  .resourceRows (by decide) p

theorem lacks_notBefore : LacksLabel "Not Before: "
    (labelledRows "Request ID: " p.requestId ++ p.resourceLines.map String.toList) :=
  .labelledRows (fun value => by simp [Text.afterList?]) (.resourceRows (by decide) p)

theorem lacks_expirationTime : LacksLabel "Expiration Time: "
    (labelledRows "Not Before: " p.notBefore ++
      (labelledRows "Request ID: " p.requestId ++ p.resourceLines.map String.toList)) :=
  .labelledRows (fun value => by simp [Text.afterList?])
    (.labelledRows (fun value => by simp [Text.afterList?]) (.resourceRows (by decide) p))

end Parts

/-- Every derivation is read, and read as its parts. -/
theorem readLines?_complete {p : Parts} (hp : p.WellFormed) :
    readLines? (p.lines.map String.toList) = some p.draft := by
  have hresources : takeResources (p.resourceLines.map String.toList) = some p.uris := by
    refine takeResources_eq_some.mpr ?_
    rcases p.resourceLines_eq with ⟨hnone, huris⟩ | hsome
    · exact .inl ⟨by rw [hnone]; rfl, huris⟩
    · exact .inr ⟨hp.resources, by rw [hsome]⟩
  have hversion : ∀ rest, takeField "Version: " (· == version.toList)
      (("Version: " ++ version).toList :: rest) = some (version, rest) :=
    fun rest => takeField_eq_some.mpr ⟨by simp, rfl⟩
  rw [p.rows_eq, readLines?]
  simp only [List.head?_cons, List.tail_cons, Option.bind_eq_bind, Option.bind_some,
    domainOf?_eq_some.mpr ⟨p.scheme, hp.scheme, hp.domain, rfl⟩,
    takeField_eq_some.mpr ⟨hp.address, rfl⟩, takeStatement_eq_some.mpr ⟨hp.statement, rfl⟩,
    takeField_eq_some.mpr ⟨hp.uri, rfl⟩, hversion,
    takeField_eq_some.mpr ⟨hp.chainId, rfl⟩, takeField_eq_some.mpr ⟨hp.nonce, rfl⟩,
    takeField_eq_some.mpr ⟨hp.issuedAt, rfl⟩,
    takeOptional_complete hp.expirationTime p.lacks_expirationTime,
    takeOptional_complete hp.notBefore p.lacks_notBefore,
    takeOptional_complete hp.requestId p.lacks_requestId, hresources]
  rfl

/-- The reader of messages is the grammar: it accepts what has a derivation, and gives its parts. -/
theorem readDraft?_eq_some {s : String} {d : Draft} :
    readDraft? s = some d ↔ ∃ p, Derives p s ∧ d = p.draft := by
  have htext : ∀ p : Parts, p.text.toList = Text.joinList '\n' (p.lines.map String.toList) := by
    intro p
    rw [p.text_eq_join]
    exact Text.toList_join '\n' p.lines
  unfold readDraft?
  constructor
  · intro h
    obtain ⟨p, hp, hlines, rfl⟩ := readLines?_sound h
    refine ⟨p, ⟨hp, String.toList_inj.mp ?_⟩, rfl⟩
    rw [htext, ← hlines, Text.joinList_piecesList]
  · rintro ⟨p, ⟨hp, rfl⟩, rfl⟩
    have hpieces : Text.piecesList '\n' p.text.toList = p.lines.map String.toList := by
      rw [htext]
      refine Text.piecesList_joinList (by simp [Parts.lines]) ?_
      intro row hrow
      obtain ⟨line, hline, rfl⟩ := List.mem_map.mp hrow
      exact (Parts.oneLine_of_mem_lines hp line hline).noFeed
    rw [hpieces]
    exact readLines?_complete hp

end Eligibility.Statement
