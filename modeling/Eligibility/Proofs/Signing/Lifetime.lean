import Eligibility.Proofs.Settings.Usable
import Eligibility.Proofs.Signing.Repeat
set_option autoImplicit false

/-!
# Signing: how long a signature is used again

Two lifetimes meet when an entry of a cache is used again: the time to live of the cache,
on the clock of the cache, and the window of the statement, which the times of its message
tell.  A call looks at the first of them alone.  So a message is handed out within its
window if the time to live is no longer than the window, and may be handed out after it
if the time to live is longer.
-/

namespace Eligibility.Signing

open Calendar (secondTicks)

/-! ## The window of a message -/

/-- A message says that it is valid for so many microseconds from its issue. -/
def HasWindow [Uri.Idna] (message : String) (window : Int) : Prop :=
  ∃ parsed expires, Statement.parse message = .ok parsed ∧
    parsed.expirationTime = some expires ∧ window = expires.instant - parsed.issuedAt.instant

/-- A time to live that can be told is no longer than a window. -/
def Fits (ttl : Binary64) (window : Int) : Prop :=
  ∃ q, ttl.toRat? = some q ∧ q * secondTicks ≤ window

theorem Fits.ne_nan {ttl : Binary64} {window : Int} (h : Fits ttl window) : ttl ≠ .nan := by
  rintro rfl
  obtain ⟨q, hq, -⟩ := h
  simp [Binary64.toRat?] at hq

theorem Fits.elapsed_lt {ttl : Binary64} {window : Int} {elapsed : Rat} (h : Fits ttl window)
    (hyoung : ttl.IsAbove elapsed) : elapsed * secondTicks < window := by
  obtain ⟨q, hq, hfits⟩ := h
  have hpos : (0 : Rat) < secondTicks := by exact_mod_cast (show 0 < secondTicks by decide)
  have hlt : elapsed < q := (Binary64.isAbove_iff hq).mp hyoung
  exact lt_of_lt_of_le (mul_lt_mul_of_pos_right hlt hpos) hfits

/-- The window of a statement that is built lies between its times, each cut off below a
millisecond. -/
theorem window_of_build [Uri.Idna] {v : Visit} {address : String} {b : Statement.Built}
    {window : Int} (hb : v.build address = .ok b) (h : HasWindow b.message window) :
    ∃ expires, v.call.order.expires? v.settings v.time = some expires ∧
      window = expires.instant / 1000 * 1000 -
        (v.call.order.issued v.time).instant / 1000 * 1000 := by
  obtain ⟨m, hm⟩ := Statement.fills_of_build hb
  obtain ⟨issuedAt, expires, expirationTime, hissued, hexpires, hexpiration, hparses⟩ :=
    hm.parse_eq_ok
  obtain ⟨parsed, expiresAt, hparse, hexpiresAt, rfl⟩ := h
  obtain ⟨-, -, rfl⟩ := (hparses parsed).mp hparse
  obtain rfl := Option.some.inj hexpiresAt
  exact ⟨expires, hexpires, by rw [hexpiration.instant, hissued.instant]; rfl⟩

/-- A statement that is built has a window if it can be read back. -/
theorem exists_window_of_build [Uri.Idna] {v : Visit} {address : String} {b : Statement.Built}
    (hb : v.build address = .ok b) {parsed : Statement.Parsed}
    (hparse : Statement.parse b.message = .ok parsed) : ∃ window, HasWindow b.message window := by
  obtain ⟨m, hm⟩ := Statement.fills_of_build hb
  obtain ⟨_, _, expirationTime, -, -, -, hparses⟩ := hm.parse_eq_ok
  obtain ⟨-, -, rfl⟩ := (hparses parsed).mp hparse
  exact ⟨_, _, expirationTime, hparse, rfl, rfl⟩

theorem Stored.exists_window [Uri.Idna] {cache : Option Cache} {turns : List Turn} {e : Entry}
    (h : Stored cache turns e) {parsed : Statement.Parsed}
    (hparse : Statement.parse e.message = .ok parsed) : ∃ window, HasWindow e.message window := by
  obtain ⟨-, w, -, b, -, -, hb, hmessage, -⟩ := h
  rw [← hmessage] at hparse ⊢
  exact exists_window_of_build hb hparse

/-! ## The time to live stays -/

theorem ttl_signAfresh (cache : Option Cache) (later : Reading) (choices : Statement.Choices)
    (sign : Sign) (address : String) (action : Option String) (b : Statement.Built) :
    (signAfresh cache later choices sign address action b).cache.map (·.ttl) =
      cache.map (·.ttl) := by
  unfold signAfresh
  cases sign b.message with
  | abandoned => rfl
  | signed signature => cases cache <;> rfl
  | refused reason => cases cache <;> rfl

section

variable [Uri.Idna] {c : Cache} {cache : Option Cache}

theorem ttl_signBuilt (cache : Option Cache) (now later : Reading) (choices : Statement.Choices)
    (sign : Sign) (address : String) (action : Option String) (b : Statement.Built) :
    (signBuilt cache now later choices sign address action b).cache.map (·.ttl) =
      cache.map (·.ttl) := by
  cases cache with
  | none => exact ttl_signAfresh none later choices sign address action b
  | some c =>
    have httl := ttl_fromCache c now address action b.message
    unfold signBuilt
    cases hfrom : fromCache c now address action b.message with
    | mk found c' =>
      rw [hfrom] at httl
      cases found with
      | some g =>
        simp only [hfrom]
        exact congrArg some httl
      | none =>
        simp only [hfrom, ttl_signAfresh]
        exact congrArg some httl

theorem Visit.ttl_outcome (v : Visit) (cache : Option Cache) :
    (v.outcome cache).cache.map (·.ttl) = cache.map (·.ttl) := by
  unfold outcome generate
  split
  · rfl
  · split
    · rfl
    · exact ttl_signBuilt ..

theorem ttl_after (cache : Option Cache) (turns : List Turn) :
    (after cache turns).map (·.ttl) = cache.map (·.ttl) := by
  induction turns using List.reverseRecOn with
  | nil => rfl
  | append_singleton turns t ih =>
    rw [after_concat, ← ih]
    cases t with
    | upkeep x keeps =>
      cases after cache turns with
      | none => rfl
      | some c => exact congrArg some (c.ttl_step x)
    | visit v => exact v.ttl_outcome _

/-! ## What is handed out -/

/-- A call returns its own statement, which it had signed. -/
def SignsOwn (v : Visit) (cache : Option Cache) (g : Signed) : Prop :=
  v.Answers cache g.address v.call.action g.message g.signature ∧
    ∃ b, v.build g.address = .ok b ∧ b.message = g.message

/-- A call returns an entry, which an earlier call had signed and has stored in a cache that was
empty at first. -/
structure HandsOut (c : Cache) (turns : List Turn) (v : Visit) (e : Entry) (g : Signed) :
    Prop where
  stored : Stored (some c) turns e
  action : e.action = v.call.action
  returned : g.address = e.identity ∧ g.message = e.message ∧ g.signature = e.signature
  spared : (v.outcome (after (some c) turns)).asked = []
  /-- Less than the time to live has passed on the clock of the cache since the entry was stored;
  what is not a number is never over. -/
  young : Lives c.ttl v.now e.createdAt
  /-- The exact time is less than the time to live as well. -/
  elapsed : c.ttl ≠ .nan → c.ttl.IsAbove (v.now.value - e.createdAt.value)
  window : ∃ window, HasWindow e.message window
  /-- Less than the window has passed, exactly, if the time to live is no longer. -/
  valid : ∀ window, HasWindow e.message window → Fits c.ttl window →
    (v.now.value - e.createdAt.value) * secondTicks < window

/-- The window of an entry has passed, and the time to live is no longer than it.  A message that
cannot be read back has no window, and is not used again. -/
def Lapsed (ttl : Binary64) (now : Reading) (e : Entry) : Prop :=
  ∀ window, HasWindow e.message window →
    Fits ttl window ∧ window ≤ (now.value - e.createdAt.value) * secondTicks

/-- What a call hands out, and when it asks the signer. -/
structure Renews (cache : Option Cache) (turns : List Turn) (v : Visit) : Prop where
  /-- What is returned has just been signed, or an earlier call had it signed not long ago. -/
  returns : ∀ g, (v.outcome (after cache turns)).result = .ok g →
    SignsOwn v (after cache turns) g ∨ ∃ c ∈ cache, ∃ e, HandsOut c turns v e g
  /-- Once the window of what is kept has passed, a call that builds a statement has it signed. -/
  signs : ∀ address sign b, signer? v.call = some (.text address, sign) →
    v.build address = .ok b →
    (∀ c ∈ cache, ∀ e, Holds (after cache turns) e → e.identity = address →
      e.action = v.call.action → Lapsed c.ttl v.now e) →
    (v.outcome (after cache turns)).asked = [b.message]

variable {turns : List Turn} {v : Visit} {e : Entry} {g : Signed}

theorem signsOwn_of_signAfresh {cache' : Option Cache} {choices : Statement.Choices} {sign : Sign}
    {address : String} {b : Statement.Built} (hsigner : signer? v.call = some (.text address, sign))
    (hb : v.build address = .ok b)
    (hrun : v.outcome cache = signAfresh cache' v.later choices sign address v.call.action b)
    (h : (v.outcome cache).result = .ok g) : SignsOwn v cache g := by
  have hasked : (v.outcome cache).asked = [b.message] := by rw [hrun, asked_signAfresh]
  rw [hrun, signAfresh] at h
  cases hsign : sign b.message with
  | refused reason => simp [hsign] at h
  | abandoned => simp [hsign] at h
  | signed signature =>
    simp only [hsign, Except.ok.injEq] at h
    subst h
    exact ⟨⟨sign, hsigner, rfl, hasked, hsign⟩, b, hb, rfl⟩

/-- What the cache answers to a call is handed out. -/
theorem handsOut_of_get (hempty : c.entries = []) {c' : Cache}
    (hafter : after (some c) turns = some c') {address message : String}
    (hget : (c'.get v.now address v.call.action).1 = some e) (hreuse : reuse? e message = some g)
    (hspared : (v.outcome (after (some c) turns)).asked = []) : HandsOut c turns v e g := by
  obtain ⟨hfind, -, haction, hlives⟩ := Cache.get_eq_some.mp hget
  have httl : c'.ttl = c.ttl := by
    have hturns := ttl_after (some c) turns
    rw [hafter] at hturns
    exact Option.some.inj hturns
  rw [Cache.isOutlived, httl] at hlives
  have hyoung : Lives c.ttl v.now e.createdAt := isAtMost_since_eq_false_iff.mp hlives
  have hholds : Holds (after (some c) turns) e :=
    ⟨c', hafter, Cache.mem_entries.mpr ⟨_, Cache.find?_eq_some_iff.mp hfind⟩⟩
  have hstored := stored_of_holds (by simpa using hempty) hholds
  obtain ⟨old, -, hold, -, -, rfl⟩ := reuse?_eq_some.mp hreuse
  exact {
    stored := hstored
    action := haction
    returned := ⟨rfl, rfl, rfl⟩
    spared := hspared
    young := hyoung
    elapsed := hyoung.isAbove
    window := hstored.exists_window hold
    valid := fun _ _ hfits => hfits.elapsed_lt (hyoung.isAbove hfits.ne_nan) }

/-- A call that builds a statement is handed an entry, or has the statement signed. -/
theorem handsOut_or_signAfresh (hempty : ∀ c ∈ cache, c.entries = []) {sign : Sign}
    {address : String} {b : Statement.Built} (hsigner : signer? v.call = some (.text address, sign))
    (hb : v.build address = .ok b) :
    (∃ c ∈ cache, ∃ e g, Holds (after cache turns) e ∧ e.identity = address ∧
      (v.outcome (after cache turns)).result = .ok g ∧ HandsOut c turns v e g) ∨
    ∃ cache' choices, v.outcome (after cache turns) =
      signAfresh cache' v.later choices sign address v.call.action b := by
  obtain ⟨choices, hrun⟩ := Visit.outcome_of_build hsigner hb (after cache turns)
  cases cache with
  | none =>
    have hnone : after none turns = none := Option.map_eq_none_iff.mp (ttl_after none turns)
    rw [hnone] at hrun ⊢
    exact .inr ⟨none, choices, hrun⟩
  | some c =>
    obtain ⟨c', hafter, -⟩ := Option.map_eq_some_iff.mp (ttl_after (some c) turns)
    rw [hafter, signBuilt] at hrun
    rcases fromCache_cases c' v.now address v.call.action b.message with
      ⟨e, g, hget, hreuse, hfrom⟩ | ⟨c'', -, hfrom⟩
    · rw [hfrom, ← hafter] at hrun
      have hspared : (v.outcome (after (some c) turns)).asked = [] := by rw [hrun]
      have hresult : (v.outcome (after (some c) turns)).result = .ok g := by rw [hrun]
      obtain ⟨hfind, hidentity, -⟩ := Cache.get_eq_some.mp hget
      have hmem : e ∈ c'.entries := Cache.mem_entries.mpr ⟨_, Cache.find?_eq_some_iff.mp hfind⟩
      exact .inl ⟨c, rfl, e, g, ⟨c', hafter, hmem⟩, hidentity, hresult,
        handsOut_of_get (hempty c rfl) hafter hget hreuse hspared⟩
    · rw [hfrom, ← hafter] at hrun
      exact .inr ⟨some c'', choices, hrun⟩

/-- Whatever is done with a cache that is empty at first and that only calls fill, a call is handed
what was signed within the time to live, so within its window if that is not the shorter one, and
has a new statement signed after that. -/
theorem renews_after (hempty : ∀ c ∈ cache, c.entries = []) (turns : List Turn) (v : Visit) :
    Renews cache turns v where
  returns := by
    intro g h
    obtain ⟨address, sign, b, -, hsigner, hb, -⟩ := Visit.outcome_of_result h
    rcases handsOut_or_signAfresh hempty hsigner hb with
      ⟨c, hc, e, g', -, -, hresult, hhands⟩ | ⟨cache', choices, hrun⟩
    · obtain rfl := Except.ok.inj (hresult.symm.trans h)
      exact .inr ⟨c, hc, e, hhands⟩
    · exact .inl (signsOwn_of_signAfresh hsigner hb hrun h)
  signs := by
    intro address sign b hsigner hb hlapsed
    rcases handsOut_or_signAfresh hempty hsigner hb with
      ⟨c, hc, e, g, hholds, hidentity, -, hhands⟩ | ⟨cache', choices, hrun⟩
    · obtain ⟨window, hwindow⟩ := hhands.window
      obtain ⟨hfits, hpassed⟩ := hlapsed c hc e hholds hidentity hhands.action window hwindow
      exact absurd (hhands.valid window hwindow hfits) (not_lt.mpr hpassed)
    · rw [hrun, asked_signAfresh]

end

/-! ## Two lifetimes -/

theorem empty_fiveMinutes : ∀ c ∈ some fiveMinutes, c.entries = [] := by
  intro c hc
  exact Option.some.inj hc ▸ rfl

section

attribute [local instance] Uri.Idna.plain

/-- The second of two calls within the time to live is handed what the first had signed, whose
window is the longer one. -/
theorem renews_after_signIn :
    (∀ c ∈ some fiveMinutes, c.entries = []) ∧
      ∃ e g window, HandsOut fiveMinutes [.visit (lineVisit "Resources:" (.ofNat 0))]
        (lineVisit "Resources:" (.ofNat 299)) e g ∧ HasWindow e.message window ∧
        Fits fiveMinutes.ttl window := by
  obtain ⟨g, hg, hasked, hbuilds, hrepeats⟩ :=
    @lineVisit_asks _ "Resources:" (by decide) ⟨by decide, by decide⟩
  obtain ⟨b, hb⟩ := hbuilds (.ofNat 299)
  have hacceptable : Statement.Acceptable {} (Statement.signInOrder "Resources:") :=
    Statement.acceptable_signInOrder.mpr (.inr (by decide))
  have hsecond := (outcome_of_repeats hg hasked hrepeats hb).1 hacceptable
    lives_fiveMinutes_last
  rw [← @after_visit _ (some fiveMinutes)] at hsecond
  obtain ⟨hresult, hspared⟩ := hsecond
  have hrenews := renews_after empty_fiveMinutes [.visit (lineVisit "Resources:" (.ofNat 0))]
    (lineVisit "Resources:" (.ofNat 299))
  rcases hrenews.returns g hresult with ⟨⟨-, -, -, hsigned, -⟩, -⟩ | ⟨c, hc, e, hhands⟩
  · rw [hspared] at hsigned
    simp at hsigned
  · cases hc
    obtain ⟨before, w, rest, b, hcut, -, hbuilt, hmessage, -⟩ := hhands.stored
    obtain ⟨window, hwindow⟩ := hhands.window
    obtain rfl : lineVisit "Resources:" (.ofNat 0) = w := by
      obtain ⟨rfl, hw⟩ | ⟨t, ht⟩ := List.cons_eq_append_iff.mp hcut
      · cases hw
        rfl
      · simp at ht
    obtain ⟨expires, hexpires, hlong⟩ := window_of_build hbuilt (hmessage ▸ hwindow)
    obtain rfl := Option.some.inj ((Statement.expires?_signInOrder _).symm.trans hexpires)
    have hhour : Statement.twoOClock.instant / 1000 * 1000 -
        Statement.oneOClock.instant / 1000 * 1000 = 3600000000 := by decide
    have hfits : Fits fiveMinutes.ttl window := by
      rw [hlong.trans hhour]
      exact ⟨300, by rfl, by decide +kernel⟩
    exact ⟨empty_fiveMinutes, e, g, window, hhands, hwindow, hfits⟩

end

/-- Settings under which a statement is valid for less than half a minute. -/
def briefSettings : Settings := { statementTtlHours := .finite false 1 (-7) (by decide) }

theorem lifetime_briefSettings :
    Calendar.Duration.ofUnits? Calendar.Duration.hour briefSettings.statementTtlHours =
      some 28125000 := by
  rfl

/-- A call under those settings, at a time on the clock of the cache. -/
def briefVisit (now : Reading) : Visit where
  settings := briefSettings
  time := Statement.oneOClock
  now := now
  later := now
  choices := ⟨id, 0⟩
  call := {
    order := Settings.plainOrder Wallet.zeroAddress
    action := some "claim"
    wallet := some fun _ => .signed "0x1" }

theorem briefVisit_builds [Uri.Idna] (now : Reading) :
    ∃ b, (briefVisit now).build Wallet.zeroAddress = .ok b := by
  have haccepted : briefSettings.Accepted :=
    { Settings.accepted_default with statementTtlHours := by rfl }
  have husable : briefSettings.Usable Statement.oneOClock :=
    { Settings.usable_default with lifetime := ⟨28125000, lifetime_briefSettings, by decide⟩ }
  exact Statement.exists_build_iff.mpr
    (husable.buildable haccepted rfl Wallet.isAddress_zeroAddress)

theorem acceptable_plainOrder_brief :
    Statement.Acceptable briefSettings (Settings.plainOrder Wallet.zeroAddress) where
  domain := by
    intro s hs
    have hdomain : briefSettings.domain = "localhost" := by rfl
    obtain rfl : briefSettings.domain = s := Json.text.inj hs
    rw [hdomain]
    decide
  uri := by
    intro s hs
    obtain rfl : briefSettings.appUrl = s := Json.text.inj hs
    decide
  statement := by
    intro s hs
    obtain rfl : briefSettings.statement = s := Json.text.inj hs
    decide
  chainId := by
    intro n hn
    obtain rfl : briefSettings.chainId = n := Except.ok.inj hn
    exact @Decimal.lt_limit_of_lt 8453 4 (by decide) (by decide)

section

attribute [local instance] Uri.Idna.plain

/-- A statement is handed out after its window has passed, if the time to live is longer. -/
theorem hands_out_expired :
    ∃ g window,
      ((briefVisit (.ofNat 100)).outcome
        (after (some fiveMinutes) [.visit (briefVisit (.ofNat 0))])).result = .ok g ∧
      ((briefVisit (.ofNat 100)).outcome
        (after (some fiveMinutes) [.visit (briefVisit (.ofNat 0))])).asked = [] ∧
      (briefVisit (.ofNat 0)).Answers (some fiveMinutes) g.address (some "claim") g.message
        g.signature ∧
      HasWindow g.message window ∧
      window ≤ ((Reading.ofNat 100).value - (Reading.ofNat 0).value) * secondTicks := by
  obtain ⟨b, hb⟩ := briefVisit_builds (.ofNat 0)
  obtain ⟨b', hb'⟩ := briefVisit_builds (.ofNat 100)
  obtain ⟨hg, hasked⟩ := @Visit.outcome_of_find?_none _ (briefVisit (.ofNat 0)) fiveMinutes
    Wallet.zeroAddress "0x1" _ b rfl hb rfl rfl
  have hyoung : Lives fiveMinutes.ttl (.ofNat 100) (.ofNat 0) :=
    @lives_fiveMinutes 100 0 100 (by decide) (by decide) (by decide) (by decide) (by decide)
  have hsecond := (@outcome_of_repeats _ (briefVisit (.ofNat 0)) (briefVisit (.ofNat 100)) _ _ hg
    (by simp [hasked]) ⟨rfl, rfl⟩ b' hb').1 acceptable_plainOrder_brief hyoung
  rw [← @after_visit _ (some fiveMinutes)] at hsecond
  obtain ⟨hresult, hspared⟩ := hsecond
  obtain ⟨parsed, hparse⟩ := (Visit.parses_iff hb).mpr acceptable_plainOrder_brief
  obtain ⟨window, hwindow⟩ := exists_window_of_build hb hparse
  obtain ⟨expires, hexpires, hlong⟩ := window_of_build hb hwindow
  refine ⟨_, window, hresult, hspared, ⟨_, rfl, rfl, hasked, rfl⟩, hwindow, ?_⟩
  obtain ⟨lifetime, hlifetime, hticks, hoffset⟩ := Settings.expires?_plainOrder.mp hexpires
  obtain rfl : lifetime = 28125000 :=
    Option.some.inj (hlifetime.symm.trans lifetime_briefSettings)
  have hissued : (briefVisit (.ofNat 0)).call.order.issued (briefVisit (.ofNat 0)).time =
      Statement.oneOClock := by rfl
  have hexpiry : expires.instant = Statement.oneOClock.instant + 28125000 := by
    simp only [Calendar.Stamp.instant, hticks, hoffset]
    rfl
  have hstart : Statement.oneOClock.instant = 3600000000 := by rfl
  rw [hlong, hissued, hexpiry, hstart, Reading.value_ofNat, Reading.value_ofNat]
  decide +kernel

end

end Eligibility.Signing
