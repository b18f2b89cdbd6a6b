import Eligibility.Proofs.Calendar.Reader
import Eligibility.Proofs.Statement.Build
import Eligibility.Proofs.Statement.Unambiguous
set_option autoImplicit false

/-!
# Statements: the message of an order

Every statement that is built is laid out from a message, and each field of the message is
one that the order or the settings give, or one that is made for it.  The fields that are
made follow the grammar whatever they are.  So the parser accepts the statement exactly if
the fields that are given follow it, and what it then says is what the message says.
-/

namespace Eligibility.Statement

open Eligibility.Calendar (Stamp)

/-! ## Times that are read back -/

theorem markAsOffset_append (cs ds : List Char) :
    markAsOffset (cs ++ ds) = markAsOffset cs ++ markAsOffset ds := List.flatMap_append

theorem markAsOffset_of_not_mem {cs : List Char} (h : 'Z' ∉ cs) : markAsOffset cs = cs := by
  induction cs with
  | nil => rfl
  | cons c cs ih =>
    simp only [List.mem_cons, not_or] at h
    have hsplit : markAsOffset (c :: cs) = markAsOffset [c] ++ markAsOffset cs :=
      markAsOffset_append [c] cs
    have hc : markAsOffset [c] = [c] := by simp [markAsOffset, Ne.symm h.1]
    rw [hsplit, hc, ih h.2, List.singleton_append]

theorem markAsOffset_utcMillis (s : Stamp) : markAsOffset s.utcMillis =
    s.date.text ++ 'T' ::
      (Calendar.Reader.timeText s.seconds s.millis ++ Calendar.Reader.utcOffset) := by
  have hsplit : s.utcMillis =
      (s.date.text ++ 'T' :: Calendar.Reader.timeText s.seconds s.millis) ++ ['Z'] := by
    rw [s.utcMillis_eq]
    simp
  have hmark : markAsOffset ['Z'] = Calendar.Reader.utcOffset := by rfl
  rw [hsplit, markAsOffset_append, markAsOffset_of_not_mem s.mark_not_mem, hmark]
  simp

/-- A text that is read as a stamp once its mark of UTC is an offset is read as that time. -/
theorem readTime_of_read? {cs : List Char} {t : Stamp}
    (h : Stamp.read? (String.ofList (markAsOffset cs)) = some t) (label : String) :
    readTime label (.text (String.ofList cs)) = .ok (some t) := by
  simp only [readTime, String.toList_ofList, h]

/-- The text of a time is read back as the time, cut off below a millisecond. -/
theorem readTime_of_millis? {s : Stamp} {text : String} (h : s.millis? = some text) :
    ∃ t : Stamp, t.IsUtcMillisOf s ∧ ∀ label, readTime label (.text text) = .ok (some t) := by
  obtain ⟨u, hu, rfl⟩ := Option.map_eq_some_iff.mp h
  have hcut := Stamp.isUtcMillisOf_floorMillis hu
  have hread : Stamp.read? (String.ofList (markAsOffset u.utcMillis)) = some u.floorMillis := by
    rw [markAsOffset_utcMillis]
    exact Stamp.read?_utcMillis hcut.offset
  exact ⟨u.floorMillis, hcut, readTime_of_read? hread⟩

theorem requireTime_eq_ok {label s : String} {t : Stamp} :
    requireTime label s = .ok t ↔ readTime label (.text s) = .ok (some t) := by
  unfold requireTime
  rw [Outcome.bind_eq_ok]
  constructor
  · intro h
    obtain ⟨found, hread, h⟩ := h
    cases found with
    | none => simp at h
    | some u =>
      obtain rfl := Outcome.pure_eq_ok.mp h
      exact hread
  · intro h
    exact ⟨some t, h, rfl⟩

/-! ## Fields that are made -/

theorem isNonceText_nonce (choices : Choices) :
    isNonceText (choices.nonce defaultNonceLength).1.toList = true := by
  have halphabet : nonceAlphabet.all (fun c => Uri.isLetter c || c.isDigit) = true := by decide
  have hlength : nonceLength ≤ (choices.nonce defaultNonceLength).1.toList.length := by
    rw [String.length_toList, length_nonce]
    decide
  rw [isNonceText, Bool.and_eq_true, decide_eq_true_eq, List.all_eq_true]
  exact ⟨hlength, fun c hc => List.all_eq_true.mp halphabet c (mem_nonceAlphabet hc)⟩

/-- An address that is checksummed has the form of an address. -/
theorem isAddressText_of_isAddress {s : String} (h : Wallet.isAddress s = true) :
    isAddressText s.toList = true := by
  unfold Wallet.isAddress at h
  split at h
  · next digits hs =>
    simp only [Bool.and_eq_true] at h
    simp [hs, isAddressText, h.1]
  · simp at h

theorem isDigits_toString {n : Int} (h : 0 ≤ n) : isDigits (toString n).toList = true := by
  obtain ⟨k, rfl⟩ := Int.eq_ofNat_of_zero_le h
  have htext : (toString (k : Int)).toList = Nat.toDigits 10 k := by
    have hk : toString (k : Int) = toString k := rfl
    simp [hk]
  have hdigits : (Nat.toDigits 10 k).all Char.isDigit = true :=
    List.all_eq_true.mpr fun _ hc => Nat.isDigit_of_mem_toDigits (by decide) (by decide) hc
  rw [htext, isDigits, hdigits]
  simp

theorem isDateTimeText_of_millis? {s : Stamp} {text : String} (h : s.millis? = some text) :
    Calendar.isDateTimeText text.toList = true := by
  obtain ⟨u, -, rfl⟩ := Option.map_eq_some_iff.mp h
  rw [String.toList_ofList]
  exact u.isDateTimeText_utcMillis

/-! ## The message of an order -/

/-- The time at which a statement is issued. -/
def Order.issued (o : Order) (now : Stamp) : Stamp := (o.start now).stamp

/-- The time at which a statement expires, if the calendar has it. -/
def Order.expires? (o : Order) (settings : Settings) (now : Stamp) : Option Stamp :=
  (window? settings o.expiresIn).bind (o.start now).add?

/-- The line for people that a statement has, null if it is to have none. -/
def Order.line (o : Order) (settings : Settings) : Json :=
  let line := orNull o.statement (.text settings.statement)
  if line.isVacant then .null else line

/-- The chain of a statement, as it is given. -/
def Order.chain (o : Order) (settings : Settings) : Json :=
  orNull o.chainId (.whole settings.chainId)

/-- The message that a statement is laid out from, and where its fields come from. -/
structure Fills [Uri.Idna] (settings : Settings) (now : Stamp) (o : Order) (b : Built)
    (m : Message) : Prop where
  message : b.message = m.render
  plain : m.Plain
  gives : ∃ d : Draft, d.Gives m
  domain : orVacant o.domain settings.domain = .text m.domain
  address : o.address = .text m.address
  uri : orVacant o.uri settings.appUrl = .text m.uri
  chainId : Field.whole (o.chain settings) = .ok m.chainId
  shortChain : m.hasShortChain = true
  nonce : m.nonce = b.nonce ∧ isNonceText m.nonce.toList = true
  statement : o.line settings = .ofText? m.statement
  issuedAt : (o.issued now).millis? = some m.issuedAt
  expirationTime : ∃ expires text, o.expires? settings now = some expires ∧
    expires.millis? = some text ∧ m.expirationTime = some text
  notBefore : m.notBefore = none
  requestId : m.requestId = none
  resources : Resource.ofRequest o.resources = .ok m.resources ∧ m.resources = b.resources

section

variable {settings : Settings} {now : Stamp} {choices : Choices} {o : Order} {b : Built}
  {m : Message}

theorem plan_eq_ok {p : Plan} (h : plan settings now o = .ok p) :
    p.domain = orVacant o.domain settings.domain ∧ p.uri = orVacant o.uri settings.appUrl ∧
      p.chainId = o.chain settings ∧ p.statement = orNull o.statement (.text settings.statement) ∧
      p.issued = o.issued now ∧ o.expires? settings now = some p.expires := by
  simp only [plan, Outcome.bind_eq_ok, Outcome.ok_of_mapError] at h
  obtain ⟨_, -, _, -, _, -, _, -, _, -, h⟩ := h
  split at h
  · simp at h
  · next expires hexpires =>
    obtain rfl := Outcome.pure_eq_ok.mp h
    exact ⟨rfl, rfl, rfl, rfl, rfl, hexpires⟩

theorem ofText?_injective {value value' : Option String}
    (h : Json.ofText? value = Json.ofText? value') : value = value' := by
  cases value with
  | none =>
    cases value' with
    | none => rfl
    | some s => simp [Json.ofText?] at h
  | some s =>
    cases value' with
    | none => simp [Json.ofText?] at h
    | some s' => exact congrArg some (Json.text.inj h)

/-- Every statement that is built is laid out from a message whose fields come from its order. -/
theorem fills_of_build [Uri.Idna] (h : (build settings now choices o).1 = .ok b) :
    ∃ m, Fills settings now o b m := by
  obtain ⟨p, hplan, hfinish⟩ := build_eq_ok.mp h
  obtain ⟨hissued, hexpires, hnonce, hb, m, hm, hshort, hmessage⟩ := finish_eq_ok.mp hfinish
  obtain ⟨hdomain, huri, hchainId, hstatement, hissuedAt, hexpiresAt⟩ := plan_eq_ok hplan
  have hfollows := follows_of_plan hplan
  obtain ⟨hplain, hresources⟩ := plain_of_gives hfollows hissued hexpires hm
  have hissuedText : m.issuedAt = b.issuedAt := (Json.text.inj hm.issuedAt.1).symm
  have hexpiresText : m.expirationTime = some b.expirationTime :=
    (@ofText?_injective (some b.expirationTime) _ hm.expirationTime.1).symm
  refine ⟨m, ?_⟩
  exact {
    message := hmessage
    plain := hplain
    gives := ⟨_, hm⟩
    domain := hdomain ▸ hm.domain.1
    address := hm.address.1
    uri := huri ▸ hm.uri.1
    chainId := hchainId ▸ hm.chainId.1
    shortChain := hshort
    nonce := by
      have hm : m.nonce = (choices.nonce defaultNonceLength).1 := (Json.text.inj hm.nonce.1).symm
      exact ⟨hm.trans hnonce.symm, hm ▸ isNonceText_nonce choices⟩
    statement := by
      rw [Order.line, ← hstatement]
      exact hm.statement.1
    issuedAt := by rw [hissuedText, ← hissuedAt, hissued]
    expirationTime := ⟨p.expires, b.expirationTime, hexpiresAt, hexpires, hexpiresText⟩
    notBefore := (@ofText?_injective none _ hm.notBefore.1).symm
    requestId := (@ofText?_injective none _ hm.requestId).symm
    resources := ⟨hresources ▸ hfollows.resources, hresources.trans hb.symm⟩ }

/-- What a statement says if it is parsed. -/
theorem Fills.parse_eq_ok [Uri.Idna] (h : Fills settings now o b m) :
    ∃ issuedAt expires expirationTime, issuedAt.IsUtcMillisOf (o.issued now) ∧
      o.expires? settings now = some expires ∧ expirationTime.IsUtcMillisOf expires ∧
      ∀ parsed, parse b.message = .ok parsed ↔
        m.parts.WellFormed ∧ m.chainId < 10 ^ Decimal.maxDigits ∧ parsed = {
          domain := m.domain
          address := m.address
          uri := m.uri
          version := version
          chainId := shownChain m.chainId
          nonce := b.nonce
          issuedAt := issuedAt
          expirationTime := some expirationTime
          statement := m.statement
          requestId := none
          resources := b.resources } := by
  obtain ⟨d, hgives⟩ := h.gives
  obtain ⟨issuedAt, hissued, hreadIssued⟩ := readTime_of_millis? h.issuedAt
  obtain ⟨expires, text, hexpires, htext, hexpirationTime⟩ := h.expirationTime
  obtain ⟨expirationTime, hexpiration, hreadExpiration⟩ := readTime_of_millis? htext
  refine ⟨issuedAt, expires, expirationTime, hissued, hexpires, hexpiration, ?_⟩
  intro parsed
  have hrequest : m.requestId ≠ some "" := by
    rw [h.requestId]
    simp
  have hissuedTime : ∀ t, requireTime "issued at" m.issuedAt = .ok t ↔ t = issuedAt := by
    intro t
    rw [requireTime_eq_ok, hreadIssued, Except.ok.injEq, Option.some.injEq]
    exact eq_comm
  have hexpirationRead : ∀ t, readTime "expiration time" (.ofText? m.expirationTime) = .ok t ↔
      t = some expirationTime := by
    intro t
    rw [hexpirationTime, Json.ofText?, hreadExpiration, Except.ok.injEq]
    exact eq_comm
  have hlines : Resource.linesOf m.render = b.resources := by
    rw [Message.linesOf_render h.plain (ne_sectionHeader_of_isAddress hgives.address.2),
      h.resources.2]
  rw [h.message, parse_render_eq_ok h.plain hgives hrequest]
  simp only [hissuedTime, hexpirationRead, hlines, h.nonce.1, h.requestId, exists_and_left,
    exists_eq_left]

/-! ## Orders that are accepted -/

/-- The fields that an order or the settings give follow the grammar.  The longest chain that is
read has as many digits as any number that is read. -/
structure Acceptable (settings : Settings) (o : Order) : Prop where
  domain : ∀ s, orVacant o.domain settings.domain = .text s → Uri.isAuthority s.toList = true
  uri : ∀ s, orVacant o.uri settings.appUrl = .text s → Uri.isUri s.toList = true
  statement : ∀ s, o.line settings = .text s → isStatementText s.toList = true
  chainId : ∀ n, Field.whole (o.chain settings) = .ok n → n < 10 ^ Decimal.maxDigits

/-- The fields that are made for a message follow the grammar. -/
theorem Fills.wellFormed [Uri.Idna] (h : Fills settings now o b m)
    (hdomain : Uri.isAuthority m.domain.toList = true) (huri : Uri.isUri m.uri.toList = true)
    (hstatement : ∀ s ∈ m.statement, isStatementText s.toList = true) : m.parts.WellFormed := by
  obtain ⟨d, hgives⟩ := h.gives
  obtain ⟨expires, text, -, htext, hexpirationTime⟩ := h.expirationTime
  have hexpiration : ∀ s ∈ written m.expirationTime, Calendar.isDateTimeText s.toList = true := by
    intro s hs
    rw [written_of_isTime hgives.expirationTime.2, hexpirationTime] at hs
    exact Option.some.inj hs ▸ isDateTimeText_of_millis? htext
  have hnotBefore : written m.notBefore = none := by rw [h.notBefore]; rfl
  have hrequestId : written m.requestId = none := by rw [h.requestId]; rfl
  exact {
    scheme := by simp [Message.parts]
    domain := hdomain
    address := isAddressText_of_isAddress hgives.address.2
    statement := hstatement
    uri := huri
    chainId := isDigits_toString (shownChain_nonneg hgives.chainId.2)
    nonce := h.nonce.2
    issuedAt := isDateTimeText_of_millis? h.issuedAt
    expirationTime := hexpiration
    notBefore := by simp [Message.parts, hnotBefore]
    requestId := by simp [Message.parts, hrequestId]
    resources := by
      rw [m.uris_parts]
      exact fun uri huri => (Resource.isResource_of_ofRequest h.resources.1 uri huri).isUri }

/-- A statement that is built is accepted exactly if its order is acceptable. -/
theorem Fills.parses_iff [Uri.Idna] (h : Fills settings now o b m) :
    (∃ parsed, parse b.message = .ok parsed) ↔ Acceptable settings o := by
  obtain ⟨_, _, _, -, -, -, hparses⟩ := h.parse_eq_ok
  simp only [hparses, exists_and_left, exists_eq, and_true]
  constructor
  · intro haccepted
    obtain ⟨hwellFormed, hchain⟩ := haccepted
    refine ⟨?_, ?_, ?_, ?_⟩
    · intro s hs
      obtain rfl := Json.text.inj (h.domain.symm.trans hs)
      exact hwellFormed.domain
    · intro s hs
      obtain rfl := Json.text.inj (h.uri.symm.trans hs)
      exact hwellFormed.uri
    · intro s hs
      have hstatement : m.statement = some s :=
        @ofText?_injective _ (some s) (h.statement.symm.trans hs)
      exact hwellFormed.statement s hstatement
    · intro n hn
      obtain rfl := Except.ok.inj (h.chainId.symm.trans hn)
      exact hchain
  · intro hacceptable
    refine ⟨h.wellFormed (hacceptable.domain _ h.domain) (hacceptable.uri _ h.uri) ?_,
      hacceptable.chainId _ h.chainId⟩
    intro s hs
    refine hacceptable.statement s ?_
    rw [h.statement, Option.mem_def.mp hs]
    rfl

end

end Eligibility.Statement
