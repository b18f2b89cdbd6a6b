import Eligibility.Proofs.Decimal.Notation
import Eligibility.Proofs.Statement.Parse
import Mathlib.Algebra.Ring.Int.Defs
set_option autoImplicit false

/-!
# Statements: one text, one message

The lines of a text determine the parts that they were put together from, up to where the
first line is cut into a scheme and a domain.  The line for people may look like any other
line, but it stands between two empty lines and is not empty itself, and every labelled
line that may be missing is followed by lines without its label.  So the text that a
message is laid out to has one derivation at most, and reading it gives the message back.
-/

namespace Eligibility.Statement

open Eligibility.Resource (sectionHeader marker)

/-! ## Lines that determine their parts -/

theorem label_injective {label value value' : String}
    (h : (label ++ value).toList = (label ++ value').toList) : value = value' := by
  rw [String.toList_append, String.toList_append] at h
  exact String.toList_inj.mp (List.append_cancel_left h)

theorem labelledRows_injective {label : String} {part part' : Option String} {rest rest' : Lines}
    (hrest : LacksLabel label rest) (hrest' : LacksLabel label rest')
    (h : labelledRows label part ++ rest = labelledRows label part' ++ rest') :
    part = part' ∧ rest = rest' := by
  -- The reader of such a line that takes every form gives both sides back.
  have hpart := @takeOptional_complete label (fun _ => true) rest part (fun _ _ => rfl) hrest
  have hpart' := @takeOptional_complete label (fun _ => true) rest' part' (fun _ _ => rfl) hrest'
  rw [h, hpart'] at hpart
  obtain ⟨heq, hrests⟩ := Prod.mk.inj hpart
  exact ⟨heq.symm, hrests.symm⟩

/-- A line for people that is not empty is told from its absence by the line behind the address. -/
theorem statementRows_injective {statement statement' : Option String} {rest rest' : Lines}
    (hne : statement ≠ some "") (hne' : statement' ≠ some "")
    (h : (statementLines statement).map String.toList ++ rest =
      (statementLines statement').map String.toList ++ rest') :
    statement = statement' ∧ rest = rest' := by
  cases statement with
  | none =>
    cases statement' with
    | none => exact ⟨rfl, List.append_cancel_left h⟩
    | some s' =>
      have hs' : s' = "" := by
        simp only [statementLines, List.map_cons, List.cons_append, List.cons.injEq] at h
        exact (String.toList_inj.mp h.2.1).symm
      exact absurd (congrArg some hs') hne'
  | some s =>
    cases statement' with
    | none =>
      have hs : s = "" := by
        simp only [statementLines, List.map_cons, List.cons_append, List.cons.injEq] at h
        exact String.toList_inj.mp h.2.1
      exact absurd (congrArg some hs) hne
    | some s' =>
      simp only [statementLines, List.map_cons, List.map_nil, List.cons_append, List.nil_append,
        List.cons.injEq] at h
      obtain ⟨-, hs, -, hrest⟩ := h
      exact ⟨congrArg some (String.toList_inj.mp hs), hrest⟩

theorem resourceRows_injective {p q : Parts}
    (h : p.resourceLines.map String.toList = q.resourceLines.map String.toList) :
    p.resources = q.resources := by
  have hlines : p.resourceLines = q.resourceLines :=
    List.map_injective_iff.mpr (fun _ _ => String.toList_inj.mp) h
  have hmarked : Function.Injective fun uri => marker ++ uri := by
    intro uri uri' huri
    exact label_injective (congrArg String.toList huri)
  unfold Parts.resourceLines at hlines
  cases hp : p.resources with
  | none =>
    cases hq : q.resources with
    | none => rfl
    | some uris' => simp [hp, hq] at hlines
  | some uris =>
    cases hq : q.resources with
    | none => simp [hp, hq] at hlines
    | some uris' =>
      rw [hp, hq] at hlines
      exact congrArg some (List.map_injective_iff.mpr hmarked (List.cons.inj hlines).2)

/-- Equal lines have equal parts behind the first line. -/
theorem Parts.eq_of_lines {p q : Parts} (hp : p.statement ≠ some "") (hq : q.statement ≠ some "")
    (h : p.lines = q.lines) :
    p.opening = q.opening ∧ { p with scheme := q.scheme, domain := q.domain } = q := by
  have hrows : p.lines.map String.toList = q.lines.map String.toList := by rw [h]
  rw [p.rows_eq, q.rows_eq] at hrows
  obtain ⟨hopening, hrows⟩ := List.cons.inj hrows
  obtain ⟨haddress, hrows⟩ := List.cons.inj hrows
  obtain ⟨hstatement, hrows⟩ := statementRows_injective hp hq hrows
  obtain ⟨huri, hrows⟩ := List.cons.inj hrows
  obtain ⟨-, hrows⟩ := List.cons.inj hrows
  obtain ⟨hchainId, hrows⟩ := List.cons.inj hrows
  obtain ⟨hnonce, hrows⟩ := List.cons.inj hrows
  obtain ⟨hissuedAt, hrows⟩ := List.cons.inj hrows
  obtain ⟨hexpirationTime, hrows⟩ :=
    labelledRows_injective p.lacks_expirationTime q.lacks_expirationTime hrows
  obtain ⟨hnotBefore, hrows⟩ := labelledRows_injective p.lacks_notBefore q.lacks_notBefore hrows
  obtain ⟨hrequestId, hrows⟩ := labelledRows_injective p.lacks_requestId q.lacks_requestId hrows
  have hresources := resourceRows_injective hrows
  constructor
  · have hlead : p.opening.toList ++ headerTail.toList = q.opening.toList ++ headerTail.toList := by
      rw [← String.toList_append, ← String.toList_append]
      exact hopening
    exact String.toList_inj.mp (List.append_cancel_right hlead)
  · cases p
    cases q
    simp only [Parts.mk.injEq, true_and]
    exact ⟨label_injective haddress, hstatement, label_injective huri, label_injective hchainId,
      label_injective hnonce, label_injective hissuedAt, hexpirationTime, hnotBefore, hrequestId,
      hresources⟩

/-- What stands in front of the fixed words has no scheme if it has no slash. -/
theorem Parts.eq_of_opening {p q : Parts} (hscheme : q.scheme = none)
    (hslash : '/' ∉ q.domain.toList) (h : p.opening = q.opening) :
    p.scheme = none ∧ p.domain = q.domain := by
  have hq : q.opening = q.domain := by simp [opening, optional, hscheme]
  cases hp : p.scheme with
  | none =>
    have hdomain : p.opening = p.domain := by simp [opening, optional, hp]
    exact ⟨rfl, hdomain ▸ hq ▸ h⟩
  | some scheme =>
    have hopening : p.opening = scheme ++ "://" ++ p.domain := by simp [opening, optional, hp]
    refine absurd ?_ hslash
    rw [← hq, ← h, hopening]
    simp

/-! ## The parts of a message -/

/-- A value that is written, unless it is empty. -/
def written (value : Option String) : Option String := value.filter (· ≠ "")

theorem labelled_eq (label : String) (value : Option String) :
    labelled label value = Parts.labelledLine label (written value) := by
  cases value with
  | none => rfl
  | some s => by_cases h : s = "" <;> simp [labelled, written, Parts.labelledLine, Option.filter, h]

/-- The chain that a message shows: the chain zero shows as the chain one. -/
def shownChain (n : Int) : Int := if n = 0 then 1 else n

/-- The parts that a message is laid out from. -/
def Message.parts (m : Message) : Parts where
  scheme := none
  domain := m.domain
  address := m.address
  statement := m.statement
  uri := m.uri
  chainId := toString (shownChain m.chainId)
  nonce := m.nonce
  issuedAt := m.issuedAt
  expirationTime := written m.expirationTime
  notBefore := written m.notBefore
  requestId := written m.requestId
  resources := if m.resources.isEmpty then none else some m.resources

namespace Message

variable {m : Message}

theorem uris_parts (m : Message) : m.parts.uris = m.resources := by
  unfold Parts.uris parts
  cases m.resources <;> rfl

theorem lines_parts (m : Message) : m.parts.lines = m.lines := by
  have hopening : m.parts.opening = m.domain := by simp [Parts.opening, Parts.optional, parts]
  have hfields : m.parts.fieldLines = m.fieldLines := by
    simp only [Parts.fieldLines, fieldLines, labelled_eq]
    rfl
  have hresources : m.parts.resourceLines = Statement.resourceLines m.resources := by
    unfold Parts.resourceLines parts
    cases m.resources <;> rfl
  rw [lines_eq, Parts.lines, hopening, hfields, hresources]
  rfl

theorem text_parts (m : Message) : m.parts.text = m.render := by
  rw [Parts.text_eq_join, lines_parts]
  rfl

theorem statement_ne_empty (h : m.statement.all isLine = true) : m.statement ≠ some "" := by
  intro hs
  rw [hs] at h
  exact absurd h (by decide)

theorem not_mem_slash_of_isDomain (h : isDomain m.domain = true) : '/' ∉ m.domain.toList := by
  simp only [isDomain, Bool.and_eq_true, List.all_eq_true] at h
  intro hmem
  exact absurd (h.2 '/' hmem) (by decide)

/-- A message that is laid out has its own parts as its only derivation, if they have one. -/
theorem derives_render_iff (hm : m.Plain) (hdomain : isDomain m.domain = true)
    (hstatement : m.statement.all isLine = true) {p : Parts} :
    Derives p m.render ↔ p = m.parts ∧ m.parts.WellFormed := by
  constructor
  · intro h
    have hlines : p.lines = m.parts.lines := by
      rw [lines_parts, ← lines_render hm, h.eq_text, Parts.lines_text h.wellFormed]
    have hp : p.statement ≠ some "" := by
      intro hs
      exact absurd (h.wellFormed.statement "" hs) (by decide)
    obtain ⟨hopening, heq⟩ := Parts.eq_of_lines hp (statement_ne_empty hstatement) hlines
    obtain ⟨hscheme, hdomain⟩ :=
      Parts.eq_of_opening rfl (not_mem_slash_of_isDomain hdomain) hopening
    have hparts : p = m.parts := by
      rw [← heq, ← hdomain]
      cases p
      exact congrArg (Parts.mk · _ _ _ _ _ _ _ _ _ _ _) hscheme
    exact ⟨hparts, hparts ▸ h.wellFormed⟩
  · intro h
    obtain ⟨rfl, hwellFormed⟩ := h
    exact ⟨hwellFormed, m.text_parts.symm⟩

end Message

/-! ## A message that is read back -/

/-- A chain is read back from its digits unless it has more than are read. -/
theorem whole_toString {n : Int} (h : 0 ≤ n) : Field.whole (.text (toString n)) =
    if n < 10 ^ Decimal.maxDigits then .ok n else .error .tooManyDigits := by
  obtain ⟨k, rfl⟩ := Int.eq_ofNat_of_zero_le h
  have htext : toString (k : Int) = toString k := rfl
  have hlt : (k : Int) < 10 ^ Decimal.maxDigits ↔ k < 10 ^ Decimal.maxDigits := by
    rw [← Int.ofNat_lt, Int.natCast_pow]
    rfl
  simp only [Field.whole, htext, Decimal.readWhole?_toString, hlt]
  by_cases hk : k < 10 ^ Decimal.maxDigits
  · simp [hk]
  · simp [hk]

theorem shownChain_nonneg {n : Int} (h : 0 ≤ n) : 0 ≤ shownChain n := by
  unfold shownChain
  split <;> omega

theorem shownChain_of_pos {n : Int} (h : 0 < n) : shownChain n = n := if_neg (by omega)

theorem shownChain_lt {n : Int} : shownChain n < 10 ^ Decimal.maxDigits ↔
    n < 10 ^ Decimal.maxDigits := by
  unfold shownChain
  split
  · next h =>
    have hone : (1 : Int) < 10 ^ Decimal.maxDigits :=
      @Decimal.lt_limit_of_lt 1 1 (by decide) (by decide)
    have hzero : (0 : Int) < 10 ^ Decimal.maxDigits := Int.lt_trans Int.zero_lt_one hone
    rw [h]
    exact iff_of_true hone hzero
  · rfl

theorem written_of_isTime {value : Option String} (h : value.all isTime = true) :
    written value = value := by
  cases value with
  | none => rfl
  | some s =>
    have hs : s ≠ "" := by
      intro hs
      rw [hs] at h
      exact absurd h (by decide)
    simp [written, Option.filter, hs]

/-- The parts of a message that passed its checks pass them again, with the chain that it shows. -/
theorem gives_parts [Uri.Idna] {d : Draft} {m : Message} (hm : d.Gives m)
    (hrequest : m.requestId ≠ some "") (hlt : m.chainId < 10 ^ Decimal.maxDigits) :
    m.parts.draft.Gives { m with chainId := shownChain m.chainId } := by
  have hnonneg := shownChain_nonneg hm.chainId.2
  have hchainId : Field.whole m.parts.draft.chainId = .ok (shownChain m.chainId) := by
    have hshown := whole_toString hnonneg
    rwa [if_pos (shownChain_lt.mpr hlt)] at hshown
  have hexpirationTime := written_of_isTime hm.expirationTime.2
  have hnotBefore := written_of_isTime hm.notBefore.2
  have hrequestId : written m.requestId = m.requestId := by
    cases hr : m.requestId with
    | none => rfl
    | some s =>
      have hs : s ≠ "" := fun hs => hrequest (hr.trans (congrArg some hs))
      simp [written, Option.filter, hs]
  exact {
    domain := ⟨rfl, hm.domain.2⟩
    address := ⟨rfl, hm.address.2⟩
    uri := ⟨rfl, hm.uri.2⟩
    chainId := ⟨hchainId, hnonneg⟩
    issuedAt := ⟨rfl, hm.issuedAt.2⟩
    nonce := ⟨rfl, hm.nonce.2⟩
    statement := ⟨rfl, hm.statement.2⟩
    expirationTime := ⟨congrArg Json.ofText? hexpirationTime, hm.expirationTime.2⟩
    notBefore := ⟨congrArg Json.ofText? hnotBefore, hm.notBefore.2⟩
    requestId := congrArg Json.ofText? hrequestId
    resources := ⟨congrArg (List.map Json.text) m.uris_parts, hm.resources.2⟩ }

/-- What the parts of a message that passed its checks give is this message, if its chain is one
that is read. -/
theorem gives_parts_iff [Uri.Idna] {d : Draft} {m k : Message} (hm : d.Gives m)
    (hrequest : m.requestId ≠ some "") :
    m.parts.draft.Gives k ↔
      k = { m with chainId := shownChain m.chainId } ∧ m.chainId < 10 ^ Decimal.maxDigits := by
  constructor
  · intro h
    have hlt : m.chainId < 10 ^ Decimal.maxDigits := by
      have hchainId := h.chainId.1
      rw [Parts.draft, Message.parts, whole_toString (shownChain_nonneg hm.chainId.2)] at hchainId
      split at hchainId
      · next hlt => exact shownChain_lt.mp hlt
      · simp at hchainId
    exact ⟨(gives_parts hm hrequest hlt).unique h, hlt⟩
  · intro h
    obtain ⟨rfl, hlt⟩ := h
    exact gives_parts hm hrequest hlt

/-- What is read from a message that is laid out is what the message says. -/
theorem parse_render_eq_ok [Uri.Idna] {d : Draft} {m : Message} (hm : m.Plain) (hgives : d.Gives m)
    (hrequest : m.requestId ≠ some "") {parsed : Parsed} :
    parse m.render = .ok parsed ↔ m.parts.WellFormed ∧ m.chainId < 10 ^ Decimal.maxDigits ∧
      ∃ issuedAt expirationTime, requireTime "issued at" m.issuedAt = .ok issuedAt ∧
        readTime "expiration time" (.ofText? m.expirationTime) = .ok expirationTime ∧
        parsed = {
          domain := m.domain
          address := m.address
          uri := m.uri
          version := version
          chainId := shownChain m.chainId
          nonce := m.nonce
          issuedAt := issuedAt
          expirationTime := expirationTime
          statement := m.statement
          requestId := m.requestId
          resources := Resource.linesOf m.render } := by
  rw [parse_eq_ok]
  simp only [Message.derives_render_iff hm hgives.domain.2 hgives.statement.2]
  constructor
  · intro h
    obtain ⟨p, k, issuedAt, expirationTime, ⟨rfl, hwellFormed⟩, hk, hissued, hexpires, rfl⟩ := h
    obtain ⟨rfl, hlt⟩ := (gives_parts_iff hgives hrequest).mp hk
    exact ⟨hwellFormed, hlt, issuedAt, expirationTime, hissued, hexpires, rfl⟩
  · intro h
    obtain ⟨hwellFormed, hlt, issuedAt, expirationTime, hissued, hexpires, rfl⟩ := h
    exact ⟨m.parts, _, issuedAt, expirationTime, ⟨rfl, hwellFormed⟩,
      (gives_parts_iff hgives hrequest).mpr ⟨rfl, hlt⟩, hissued, hexpires, rfl⟩

end Eligibility.Statement
