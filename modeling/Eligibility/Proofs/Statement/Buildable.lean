import Eligibility.Proofs.Statement.Order
import Eligibility.Proofs.Uri.Web
set_option autoImplicit false

/-!
# Statements: which orders are built

An order is built exactly if each of its fields, or the setting that stands in for it,
passes the checks of the plan and those of the message, and the calendar has the times.
What is made for a message passes whatever it is: the nonce is long enough, a time that
is written is a time, and a resource is a web address.
-/

namespace Eligibility.Statement

open Eligibility.Calendar (Stamp)
open Eligibility.Text (OneLine Unbroken)

/-! ## What is made for a message -/

/-- Every resource is a web address. -/
theorem isWebAddress_of_isResource [Uri.Idna] {line : String} (h : Resource.IsResource line) :
    Uri.isWebAddress line = true := by
  have huri := List.all_eq_true.mp (Uri.all_of_isUri h.isUri)
  obtain ⟨path, rfl, -⟩ := h
  have hlist : ("urn:verify:" ++ path).toList =
      'u' :: 'r' :: 'n' :: ':' :: 'v' :: ("erify:".toList ++ path.toList) := by simp
  rw [hlist] at huri
  rw [← String.ofList_toList (s := "urn:verify:" ++ path), hlist]
  refine Uri.isWebAddress_urn (by decide) ?_
  intro c hc
  refine huri c ?_
  simp only [List.mem_cons] at hc ⊢
  exact .inr (.inr (.inr (.inr hc)))

theorem zoneAsOffset_append {cs : List Char} (h : ∀ c ∈ cs, c ≠ '.' ∧ c ≠ 'Z')
    (rest : List Char) : zoneAsOffset (cs ++ rest) = cs ++ zoneAsOffset rest := by
  induction cs with
  | nil => rfl
  | cons c cs ih =>
    obtain ⟨hpoint, hmark⟩ := h c List.mem_cons_self
    have hrest := ih fun d hd => h d (List.mem_cons_of_mem c hd)
    rw [List.cons_append, zoneAsOffset.eq_4, hrest, List.cons_append]
    · intro tail hc
      exact absurd hc hpoint
    · exact hmark

/-- The fraction of a second stays in front of the offset, unless it is nothing. -/
theorem zoneAsOffset_fraction {millis : Nat} (hlt : millis < 10 ^ 3) :
    zoneAsOffset ('.' :: (Stamp.padded 3 millis ++ ['Z'])) =
      if millis = 0 then Calendar.Reader.utcOffset
      else '.' :: (Stamp.padded 3 millis ++ Calendar.Reader.utcOffset) := by
  have hlength : (Stamp.padded 3 millis).length = 3 := Stamp.length_padded (by decide) hlt
  split
  · next hzero =>
    subst hzero
    rfl
  · next hne =>
    have hdigits : ∀ c ∈ Stamp.padded 3 millis, c ≠ '.' ∧ c ≠ 'Z' := by
      intro c hc
      have hdigit := Stamp.isDigit_of_mem_padded hc
      exact ⟨Text.ne_of_isDigit hdigit (by decide), Text.ne_of_isDigit hdigit (by decide)⟩
    rw [zoneAsOffset.eq_4, zoneAsOffset_append hdigits]
    · rfl
    · intro rest _ hzeros
      have htake := congrArg (List.take 3) hzeros
      rw [List.take_left' hlength] at htake
      have hvalue := Stamp.ofDigitChars_padded 3 millis
      rw [htake] at hvalue
      exact hne hvalue.symm
    · decide

/-- A time that is written is a time. -/
theorem isTime_of_millis? {s : Stamp} {text : String} (h : s.millis? = some text) :
    isTime text = true := by
  obtain ⟨u, hu, rfl⟩ := Option.map_eq_some_iff.mp h
  have hoffset : u.offset = some 0 := (Stamp.isUtcMillisOf_floorMillis hu).offset
  have hfront : ∀ c ∈ u.date.text ++ 'T' :: Calendar.Reader.shortText u.seconds,
      c ≠ '.' ∧ c ≠ 'Z' := by
    have hmarks : ∀ d : Char, d.isDigit = true ∨ d = '-' ∨ d = 'T' ∨ d = ':' →
        d ≠ '.' ∧ d ≠ 'Z' := by
      intro d hd
      rcases hd with hd | rfl | rfl | rfl
      · exact ⟨Text.ne_of_isDigit hd (by decide), Text.ne_of_isDigit hd (by decide)⟩
      · decide
      · decide
      · decide
    intro c hc
    refine hmarks c ?_
    rcases List.mem_append.mp hc with hc | hc
    · exact (Calendar.Date.mem_text hc).imp_right .inl
    · rcases List.mem_cons.mp hc with rfl | hc
      · exact .inr (.inr (.inl rfl))
      · exact (Calendar.Reader.mem_shortText hc).imp_right fun hc => .inr (.inr hc)
  have hsplit : u.utcMillis = (u.date.text ++ 'T' :: Calendar.Reader.shortText u.seconds) ++
      '.' :: (Stamp.padded 3 u.millis ++ ['Z']) := by
    rw [u.utcMillis_eq, Calendar.Reader.timeText]
    simp
  rw [isTime, String.toList_ofList, hsplit, zoneAsOffset_append hfront,
    zoneAsOffset_fraction u.millis_lt]
  split
  · next hzero =>
    have hread := Stamp.read?_utcSeconds hoffset hzero
    rw [List.append_assoc, List.cons_append, hread]
    rfl
  · have hread := Stamp.read?_utcMillis hoffset
    rw [Calendar.Reader.timeText, List.append_assoc, List.cons_append] at hread
    rw [List.append_assoc, List.cons_append, hread]
    rfl

theorem requireAddress_of_isAddress {s : String} (h : Wallet.isAddress s = true) :
    requireAddress (.text s) = .ok () := by
  have hdigits : ∃ digits, s.toList = '0' :: 'x' :: digits ∧
      digits.all Text.isHexDigit = true := by
    unfold Wallet.isAddress at h
    split at h
    · next digits hs =>
      simp only [Bool.and_eq_true] at h
      exact ⟨digits, hs, h.1.2⟩
    · simp at h
  obtain ⟨digits, hs, hhex⟩ := hdigits
  have hblank : Text.isBlankText s = false :=
    Text.isBlankText_of_mem (c := '0') (hs ▸ List.mem_cons_self) (by decide)
  have hline : OneLine s := by
    rw [OneLine, hs]
    exact .cons (by decide) (by decide) (.cons (by decide) (by decide)
      (.of_forall (by decide) (by decide) (List.all_eq_true.mp hhex)))
  rw [requireAddress, hblank]
  exact requireLine_eq_ok.mpr fun t ht => Json.text.inj ht ▸ hline

theorem hasShortChain_iff {m : Message} (h : 0 ≤ m.chainId) :
    m.hasShortChain = true ↔ m.chainId < 10 ^ Decimal.maxDigits := by
  obtain ⟨k, hk⟩ := Int.eq_ofNat_of_zero_le h
  have hpos : 0 < Decimal.maxDigits := by decide
  have hcast : ((k : Int) < 10 ^ Decimal.maxDigits) ↔ k < 10 ^ Decimal.maxDigits := by
    exact_mod_cast Iff.rfl
  rw [Message.hasShortChain, decide_eq_true_eq, hk, Int.natAbs_natCast, hcast]
  exact Nat.length_toDigits_le_iff (by decide) hpos

/-! ## Orders -/

/-- The plan of an order with its resources and the time at which it expires. -/
def Order.planWith (o : Order) (settings : Settings) (now : Stamp) (uris : List String)
    (expires : Stamp) : Plan where
  domain := orVacant o.domain settings.domain
  uri := orVacant o.uri settings.appUrl
  chainId := o.chain settings
  statement := orNull o.statement (.text settings.statement)
  resources := uris
  issued := o.issued now
  expires := expires

/-- The fields that an order or the settings give pass every check that is made of them. -/
structure Buildable [Uri.Idna] (settings : Settings) (now : Stamp) (o : Order) : Prop where
  address : ∃ s, o.address = .text s ∧ Wallet.isAddress s = true
  domain : ∃ s, orVacant o.domain settings.domain = .text s ∧ OneLine s ∧ isDomain s = true
  uri : ∃ s, orVacant o.uri settings.appUrl = .text s ∧ OneLine s ∧ Uri.isWebAddress s = true
  /-- The chain is written with no more digits than a number is written with. -/
  chainId : ∃ n, Field.whole (o.chain settings) = .ok n ∧ 0 ≤ n ∧ n < 10 ^ Decimal.maxDigits
  statement : ∃ line, o.line settings = .ofText? line ∧ ∀ s ∈ line, OneLine s
  resources : ∃ uris, Resource.ofRequest o.resources = .ok uris
  times : ∃ expires, o.expires? settings now = some expires ∧
    (∃ text, (o.issued now).millis? = some text) ∧ ∃ text, expires.millis? = some text

section

variable {settings : Settings} {now : Stamp} {choices : Choices} {o : Order}

theorem buildable_of_build [Uri.Idna] {b : Built} (h : (build settings now choices o).1 = .ok b) :
    Buildable settings now o := by
  obtain ⟨m, hm⟩ := fills_of_build h
  obtain ⟨d, hgives⟩ := hm.gives
  obtain ⟨expires, text, hexpires, htext, -⟩ := hm.expirationTime
  exact {
    address := ⟨m.address, hm.address, hgives.address.2⟩
    domain := ⟨m.domain, hm.domain, hm.plain.domain, hgives.domain.2⟩
    uri := ⟨m.uri, hm.uri, hm.plain.uri, hgives.uri.2⟩
    chainId := ⟨m.chainId, hm.chainId, hgives.chainId.2,
      (hasShortChain_iff hgives.chainId.2).mp hm.shortChain⟩
    statement := ⟨m.statement, hm.statement, hm.plain.statement⟩
    resources := ⟨m.resources, hm.resources.1⟩
    times := ⟨expires, hexpires, ⟨m.issuedAt, hm.issuedAt⟩, ⟨text, htext⟩⟩ }

/-- The line for people of an order is checked as it is given, before it is left out. -/
theorem requireLine_of_line {line : Option String} (h : o.line settings = .ofText? line)
    (hline : ∀ s ∈ line, OneLine s) :
    requireLine "statement" (orNull o.statement (.text settings.statement)) = .ok () := by
  refine requireLine_eq_ok.mpr ?_
  intro s hs
  by_cases hempty : s = ""
  · subst hempty
    exact Unbroken.nil
  · have hvacant : (Json.text s).isVacant = false := by simpa [Json.isVacant] using hempty
    rw [Order.line, hs, hvacant] at h
    exact hline s (@ofText?_injective (some s) line h).symm

theorem isLine_of_line {line : Option String} (h : o.line settings = .ofText? line)
    (hline : ∀ s ∈ line, OneLine s) : line.all isLine = true := by
  cases line with
  | none => rfl
  | some s =>
    have hs := hline s rfl
    have hne : s ≠ "" := by
      rintro rfl
      rw [Order.line] at h
      split at h
      · simp [Json.ofText?] at h
      · next hvacant =>
        rw [h] at hvacant
        exact hvacant rfl
    simp [isLine, hne, hs.noFeed]

/-- The plan of an order of which every field passes the checks of a plan. -/
theorem plan_of_lines {uris : List String} {expires : Stamp}
    (haddress : requireAddress o.address = .ok ())
    (hdomain : ∀ s, orVacant o.domain settings.domain = .text s → OneLine s)
    (huri : ∀ s, orVacant o.uri settings.appUrl = .text s → OneLine s)
    (hstatement : requireLine "statement" (orNull o.statement (.text settings.statement)) = .ok ())
    (hresources : Resource.ofRequest o.resources = .ok uris)
    (hexpires : o.expires? settings now = some expires) :
    plan settings now o = .ok (o.planWith settings now uris expires) := by
  have hdomainOk : requireLine "domain" (orVacant o.domain settings.domain) = .ok () :=
    requireLine_eq_ok.mpr hdomain
  have huriOk : requireLine "uri" (orVacant o.uri settings.appUrl) = .ok () :=
    requireLine_eq_ok.mpr huri
  have hexpiresOk : (window? settings o.expiresIn).bind (o.start now).add? = some expires :=
    hexpires
  simp only [plan, haddress, hdomainOk, huriOk, hstatement, hresources, hexpiresOk]
  rfl

/-- An order is built exactly if its fields pass. -/
theorem exists_build_iff [Uri.Idna] :
    (∃ b, (build settings now choices o).1 = .ok b) ↔ Buildable settings now o := by
  constructor
  · rintro ⟨b, hb⟩
    exact buildable_of_build hb
  · intro h
    obtain ⟨address, haddress, hisAddress⟩ := h.address
    obtain ⟨domain, hdomain, hdomainLine, hisDomain⟩ := h.domain
    obtain ⟨uri, huri, huriLine, hisUri⟩ := h.uri
    obtain ⟨n, hn, hnonneg, hshort⟩ := h.chainId
    obtain ⟨line, hline, honeLine⟩ := h.statement
    obtain ⟨uris, huris⟩ := h.resources
    obtain ⟨expires, hexpires, ⟨issuedText, hissued⟩, ⟨expiresText, hexpiresText⟩⟩ := h.times
    let m : Message := {
      domain, address, uri
      chainId := n
      issuedAt := issuedText
      nonce := (choices.nonce defaultNonceLength).1
      statement := line
      expirationTime := some expiresText
      resources := uris }
    have hplan := plan_of_lines
      (haddress ▸ requireAddress_of_isAddress hisAddress)
      (fun s hs => Json.text.inj (hdomain.symm.trans hs) ▸ hdomainLine)
      (fun s hs => Json.text.inj (huri.symm.trans hs) ▸ huriLine)
      (requireLine_of_line hline honeLine) huris hexpires
    have hgives : ((o.planWith settings now uris expires).draft o.address m.nonce issuedText
        expiresText).Gives m := {
      domain := ⟨hdomain, hisDomain⟩
      address := ⟨haddress, hisAddress⟩
      uri := ⟨huri, hisUri⟩
      chainId := ⟨hn, hnonneg⟩
      issuedAt := ⟨rfl, isTime_of_millis? hissued⟩
      nonce := by
        refine ⟨rfl, ?_⟩
        show nonceLength ≤ (choices.nonce defaultNonceLength).1.length
        rw [length_nonce]
        decide
      statement := ⟨hline, isLine_of_line hline honeLine⟩
      expirationTime := ⟨rfl, isTime_of_millis? hexpiresText⟩
      notBefore := ⟨rfl, rfl⟩
      requestId := rfl
      resources := ⟨rfl, fun uri huri =>
        isWebAddress_of_isResource (Resource.isResource_of_ofRequest huris uri huri)⟩ }
    refine ⟨⟨m.render, m.nonce, issuedText, expiresText, uris⟩, build_eq_ok.mpr ⟨_, hplan, ?_⟩⟩
    exact finish_eq_ok.mpr ⟨hissued, hexpiresText, rfl, rfl, m, hgives,
      (hasShortChain_iff hnonneg).mpr hshort, rfl⟩

end

end Eligibility.Statement
