import Eligibility.Proofs.Signing.Belonging
import Eligibility.Proofs.Statement.Buildable
set_option autoImplicit false

/-!
# Signing: the same call twice

A call that has a statement signed leaves it in the cache, as of the time when the signer has
answered, and the same call finds it there as long as it is younger than the time to live.
Whether it is used again turns on the parser: the two statements have one scope, but only if
each of them can be read back.
-/

namespace Eligibility.Statement

/-- Statements of one order have one scope, whenever and with whatever nonce they are built. -/
theorem Fills.scopeOf_eq [Uri.Idna] {settings : Settings} {now now' : Calendar.Stamp} {o : Order}
    {b b' : Built} {m m' : Message} (h : Fills settings now o b m)
    (h' : Fills settings now' o b' m') {parsed parsed' : Parsed}
    (hparse : parse b.message = .ok parsed) (hparse' : parse b'.message = .ok parsed') :
    Signing.scopeOf parsed = Signing.scopeOf parsed' := by
  obtain ⟨_, _, _, -, -, -, hparses⟩ := h.parse_eq_ok
  obtain ⟨_, _, _, -, -, -, hparses'⟩ := h'.parse_eq_ok
  obtain ⟨-, -, rfl⟩ := (hparses parsed).mp hparse
  obtain ⟨-, -, rfl⟩ := (hparses' parsed').mp hparse'
  have hdomain : m.domain = m'.domain := Json.text.inj (h.domain.symm.trans h'.domain)
  have haddress : m.address = m'.address := Json.text.inj (h.address.symm.trans h'.address)
  have huri : m.uri = m'.uri := Json.text.inj (h.uri.symm.trans h'.uri)
  have hchainId : m.chainId = m'.chainId := Except.ok.inj (h.chainId.symm.trans h'.chainId)
  have hstatement : m.statement = m'.statement :=
    ofText?_injective (h.statement.symm.trans h'.statement)
  have hresources : b.resources = b'.resources := by
    rw [← h.resources.2, ← h'.resources.2]
    exact Except.ok.inj (h.resources.1.symm.trans h'.resources.1)
  simp only [Signing.scopeOf, hdomain, haddress, huri, hchainId, hstatement, hresources]

end Eligibility.Statement

namespace Eligibility.Signing

open Statement (Acceptable Choices)

/-- Whatever the signer answers, it was asked to sign the message. -/
@[simp] theorem asked_signAfresh (cache : Option Cache) (later : Reading) (choices : Choices)
    (sign : Sign) (address : String) (action : Option String) (b : Statement.Built) :
    (signAfresh cache later choices sign address action b).asked = [b.message] := by
  unfold signAfresh
  split <;> rfl

/-- The address has no part in whether the fields of an order can be read back. -/
theorem acceptable_at {settings : Settings} {o : Statement.Order} (address : Json) :
    Acceptable settings { o with address := address } ↔ Acceptable settings o := by
  constructor
  · exact fun h => ⟨h.domain, h.uri, h.statement, h.chainId⟩
  · exact fun h => ⟨h.domain, h.uri, h.statement, h.chainId⟩

section

variable [Uri.Idna] {v v' : Visit} {cache : Option Cache} {c : Cache} {g : Signed}

/-! ## What a call leaves in the cache -/

/-- A call with a result has built a statement. -/
theorem Visit.outcome_of_result (h : (v.outcome cache).result = .ok g) :
    ∃ address sign b choices, signer? v.call = some (.text address, sign) ∧
      v.build address = .ok b ∧
      v.outcome cache = signBuilt cache v.now v.later choices sign address v.call.action b := by
  cases v.ends_outcome cache with
  | failed fault result _ => simp [result] at h
  | reused address b e g signer built _ _ _ _ =>
    obtain ⟨sign, hsigner⟩ := signer
    obtain ⟨choices, hrun⟩ := Visit.outcome_of_build hsigner built cache
    exact ⟨address, sign, b, choices, hsigner, built, hrun⟩
  | signed address b sign signature signer built _ _ _ _ =>
    obtain ⟨choices, hrun⟩ := Visit.outcome_of_build signer built cache
    exact ⟨address, sign, b, choices, signer, built, hrun⟩

theorem ttl_fromCache (c : Cache) (now : Reading) (address : String) (action : Option String)
    (message : String) : (fromCache c now address action message).2.ttl = c.ttl := by
  have hget : (c.get now address action).2.ttl = c.ttl := c.ttl_step ⟨now, .get address action⟩
  unfold fromCache
  cases hfirst : c.get now address action with
  | mk found c' =>
    rw [hfirst] at hget
    cases found with
    | none => exact hget
    | some e =>
      simp only
      cases reuse? e message with
      | some g => exact hget
      | none => exact hget

/-- A call that asks the signer leaves what it returns in the cache. -/
theorem Visit.signed_of_asked (h : (v.outcome (some c)).result = .ok g)
    (hasked : (v.outcome (some c)).asked ≠ []) :
    ∃ (sign : Sign) (b : Statement.Built) (c' : Cache),
      signer? v.call = some (.text g.address, sign) ∧ v.build g.address = .ok b ∧
      g.message = b.message ∧ g.nonce = b.nonce ∧ c'.ttl = c.ttl ∧
      (v.outcome (some c)).cache =
        some (c'.put ⟨g.address, v.call.action, g.signature, g.message, v.later⟩) := by
  obtain ⟨address, sign, b, choices, hsigner, hb, hrun⟩ := Visit.outcome_of_result h
  rw [hrun] at h hasked ⊢
  have httl := ttl_fromCache c v.now address v.call.action b.message
  unfold signBuilt at h hasked ⊢
  cases hfrom : fromCache c v.now address v.call.action b.message with
  | mk found c' =>
    rw [hfrom] at httl
    cases found with
    | some signed => simp [hfrom] at hasked
    | none =>
      simp only [hfrom] at h ⊢
      unfold signAfresh at h ⊢
      cases hsign : sign b.message with
      | refused reason => simp [hsign] at h
      | abandoned => simp [hsign] at h
      | signed signature =>
        simp only [hsign, Except.ok.injEq] at h
        subst h
        exact ⟨sign, b, c', hsigner, hb, rfl, rfl, httl, rfl⟩

/-- A call that finds nothing in the cache returns what the signer answers. -/
theorem Visit.outcome_of_find?_none {address signature : String} {sign : Sign}
    {b : Statement.Built} (hsigner : signer? v.call = some (.text address, sign))
    (hb : v.build address = .ok b) (hfind : c.find? (cacheKey address v.call.action) = none)
    (hsign : sign b.message = .signed signature) :
    (v.outcome (some c)).result = .ok ⟨address, b.message, signature, b.nonce⟩ ∧
      (v.outcome (some c)).asked = [b.message] := by
  obtain ⟨choices, hrun⟩ := Visit.outcome_of_build hsigner hb (some c)
  rw [hrun, signBuilt]
  simp only [fromCache_of_none hfind, asked_signAfresh, and_true]
  simp only [signAfresh, hsign]

/-! ## The same call again -/

/-- A call that is made again: what is asked and who signs are the same, and the time of day, the
clock of the cache and the choices are not. -/
structure Visit.Repeats (v' v : Visit) : Prop where
  settings : v'.settings = v.settings
  call : v'.call = v.call

/-- An entry that is young enough is asked for the scope of the message. -/
theorem fromCache_of_find? {now : Reading} {e : Entry} {message : String}
    (hfind : c.find? (cacheKey e.identity e.action) = some e)
    (hyoung : c.isOutlived now e = false) :
    fromCache c now e.identity e.action message =
      match reuse? e message with
      | some g => (some g, c)
      | none => (none, c.invalidate e.identity e.action) := by
  have hget : c.get now e.identity e.action = (some e, c) := by
    rw [Cache.get_of_find?_some hfind, if_pos ⟨rfl, rfl, hyoung⟩]
  cases hreuse : reuse? e message <;> simp only [fromCache, hget, hreuse]

/-- An entry that has outlived the time to live is dropped. -/
theorem fromCache_of_outlived {now : Reading} {e : Entry} {message : String}
    (hfind : c.find? (cacheKey e.identity e.action) = some e)
    (hold : c.isOutlived now e = true) :
    fromCache c now e.identity e.action message =
      (none, c.drop (cacheKey e.identity e.action)) := by
  have hget : c.get now e.identity e.action = (none, c.drop (cacheKey e.identity e.action)) := by
    rw [Cache.get_of_find?_some hfind, if_neg (by simp [hold])]
  simp only [fromCache, hget]

/-- A statement that a visit builds can be read back exactly if its order is acceptable. -/
theorem Visit.parses_iff {address : String} {b : Statement.Built} (hb : v.build address = .ok b) :
    (∃ parsed, Statement.parse b.message = .ok parsed) ↔
      Acceptable v.settings v.call.order := by
  obtain ⟨m, hm⟩ := Statement.fills_of_build hb
  rw [hm.parses_iff, acceptable_at]

/-- The entry of a call whose order is acceptable is used for the statement of the same call, and
gives what the call has returned. -/
theorem reuse?_of_acceptable {b b' : Statement.Built} {e : Entry} (hrepeats : v'.Repeats v)
    (hb : v.build e.identity = .ok b) (hb' : v'.build e.identity = .ok b')
    (hmessage : e.message = b.message) (h : Acceptable v.settings v.call.order) :
    reuse? e b'.message = some ⟨e.identity, e.message, e.signature, b.nonce⟩ := by
  obtain ⟨old, hold⟩ := (Visit.parses_iff hb).mpr h
  obtain ⟨new, hnew⟩ := (Visit.parses_iff hb').mpr (hrepeats.settings ▸ hrepeats.call ▸ h)
  obtain ⟨m, hm⟩ := Statement.fills_of_build hb
  unfold Visit.build at hb'
  rw [hrepeats.settings, hrepeats.call] at hb'
  obtain ⟨m', hm'⟩ := Statement.fills_of_build hb'
  refine reuse?_eq_some.mpr ⟨old, new, hmessage ▸ hold, hnew, hm.scopeOf_eq hm' hold hnew, ?_⟩
  rw [hm.nonce_of_parse hold]

/-- What the same call comes to if it builds its statement: the signer is spared if the time to live
is not over and the statement can be read back, and is asked otherwise. -/
theorem outcome_of_repeats (h : (v.outcome (some c)).result = .ok g)
    (hasked : (v.outcome (some c)).asked ≠ []) (hrepeats : v'.Repeats v) {b' : Statement.Built}
    (hb' : v'.build g.address = .ok b') :
    (Acceptable v.settings v.call.order → Lives c.ttl v'.now v.later →
      (v'.outcome (v.outcome (some c)).cache).result = .ok g ∧
        (v'.outcome (v.outcome (some c)).cache).asked = []) ∧
    (¬ (Acceptable v.settings v.call.order ∧ Lives c.ttl v'.now v.later) →
      (v'.outcome (v.outcome (some c)).cache).asked = [b'.message]) := by
  obtain ⟨sign, b, c', hsigner, hb, hmessage, hnonce, httl, hcache⟩ :=
    Visit.signed_of_asked h hasked
  let e : Entry := ⟨g.address, v.call.action, g.signature, g.message, v.later⟩
  have hfind : (c'.put e).find? e.key = some e := (c'.find?_put e e.key).trans (if_pos rfl)
  have hlives : (c'.put e).isOutlived v'.now e = false ↔ Lives c.ttl v'.now v.later := by
    have hput : (c'.put e).ttl = c.ttl := httl
    rw [Cache.isOutlived, hput]
    exact isAtMost_since_eq_false_iff
  have hsigner' : signer? v'.call = some (.text g.address, sign) := by rw [hrepeats.call, hsigner]
  have haction : v'.call.action = e.action := by rw [hrepeats.call]
  obtain ⟨choices, hrun⟩ := Visit.outcome_of_build hsigner' hb' (some (c'.put e))
  rw [hcache, hrun, haction, signBuilt]
  constructor
  · intro hacceptable hyoung
    have hfrom := @fromCache_of_find? _ (c'.put e) v'.now e b'.message hfind (hlives.mpr hyoung)
    have hreuse := @reuse?_of_acceptable _ v v' b b' e hrepeats hb hb' hmessage hacceptable
    have hg : g = ⟨e.identity, e.message, e.signature, b.nonce⟩ := by rw [← hnonce]
    rw [hreuse] at hfrom
    simp only [hfrom, e]
    exact ⟨congrArg Except.ok hg.symm, trivial⟩
  · intro hrefused
    by_cases hyoung : Lives c.ttl v'.now v.later
    · have hreuse : reuse? e b'.message = none := by
        rw [Option.eq_none_iff_forall_ne_some]
        intro g' hg'
        obtain ⟨old, new, hold, -⟩ := reuse?_eq_some.mp hg'
        exact hrefused ⟨(Visit.parses_iff hb).mp ⟨old, hmessage ▸ hold⟩, hyoung⟩
      have hfrom := @fromCache_of_find? _ (c'.put e) v'.now e b'.message hfind (hlives.mpr hyoung)
      rw [hreuse] at hfrom
      simp only [hfrom, e, asked_signAfresh]
    · have hold : (c'.put e).isOutlived v'.now e = true :=
        Bool.not_eq_false _ ▸ fun hfalse => hyoung (hlives.mp hfalse)
      have hfrom := @fromCache_of_outlived _ (c'.put e) v'.now e b'.message hfind hold
      simp only [hfrom, e, asked_signAfresh]

/-- The signature that a call has left in the cache is used by the same call, without the signer,
exactly if the statement can be read back, can be built again, and the time to live, from when the
signer had answered, is not over. -/
theorem reuses_iff_acceptable (h : (v.outcome (some c)).result = .ok g)
    (hasked : (v.outcome (some c)).asked ≠ []) (hrepeats : v'.Repeats v) :
    (v'.outcome (v.outcome (some c)).cache).result = .ok g ∧
        (v'.outcome (v.outcome (some c)).cache).asked = [] ↔
      Acceptable v.settings v.call.order ∧ (∃ b, v'.build g.address = .ok b) ∧
        Lives c.ttl v'.now v.later := by
  constructor
  · rintro ⟨hresult, hspared⟩
    obtain ⟨sign, -, -, hsigner, -⟩ := Visit.signed_of_asked h hasked
    obtain ⟨address, _, b', _, hsigner', hb', -⟩ := Visit.outcome_of_result hresult
    obtain rfl : g.address = address := by
      rw [hrepeats.call, hsigner] at hsigner'
      exact Json.text.inj (congrArg Prod.fst (Option.some.inj hsigner'))
    by_contra hrefused
    have hagain := (outcome_of_repeats h hasked hrepeats hb').2 fun hboth =>
      hrefused ⟨hboth.1, ⟨b', hb'⟩, hboth.2⟩
    simp [hagain] at hspared
  · rintro ⟨hacceptable, ⟨b', hb'⟩, hyoung⟩
    exact (outcome_of_repeats h hasked hrepeats hb').1 hacceptable hyoung

/-! ## Two calls to sign in -/

/-- A call to sign in with a line for people, at a time on the clock of the cache. -/
def lineVisit (line : String) (now : Reading) : Visit where
  settings := {}
  time := Statement.oneOClock
  now := now
  later := now
  choices := ⟨id, 0⟩
  call := {
    order := Statement.signInOrder line
    action := some "claim"
    wallet := some fun _ => .signed "0x1" }

/-- A first call with a cache that is empty asks the signer. -/
theorem lineVisit_asks {line : String} (hne : line ≠ "") (hline : Text.OneLine line) :
    ∃ g, ((lineVisit line (.ofNat 0)).outcome (some fiveMinutes)).result = .ok g ∧
      ((lineVisit line (.ofNat 0)).outcome (some fiveMinutes)).asked ≠ [] ∧
      (∀ now, ∃ b, (lineVisit line now).build g.address = .ok b) ∧
      (lineVisit line (.ofNat 299)).Repeats (lineVisit line (.ofNat 0)) := by
  obtain ⟨b, hb⟩ := Statement.signInOrder_builds hne hline
  have hbuild : ∀ now, (lineVisit line now).build Wallet.zeroAddress = .ok b := fun _ => hb
  obtain ⟨hresult, hasked⟩ :=
    @Visit.outcome_of_find?_none _ (lineVisit line (.ofNat 0)) fiveMinutes Wallet.zeroAddress "0x1"
      _ b rfl (hbuild (.ofNat 0)) rfl rfl
  exact ⟨_, hresult, by simp [hasked], fun now => ⟨b, hbuild now⟩, ⟨rfl, rfl⟩⟩

end

section

attribute [local instance] Uri.Idna.plain

theorem reuses_iff_acceptable_signIn :
    ∃ g, ((lineVisit "Resources:" (.ofNat 0)).outcome (some fiveMinutes)).result = .ok g ∧
      ((lineVisit "Resources:" (.ofNat 299)).outcome
        ((lineVisit "Resources:" (.ofNat 0)).outcome (some fiveMinutes)).cache).result = .ok g ∧
      ((lineVisit "Resources:" (.ofNat 299)).outcome
        ((lineVisit "Resources:" (.ofNat 0)).outcome (some fiveMinutes)).cache).asked = [] := by
  obtain ⟨g, hg, hasked, hbuilds, hrepeats⟩ :=
    @lineVisit_asks _ "Resources:" (by decide) ⟨by decide, by decide⟩
  have hacceptable : Acceptable {} (Statement.signInOrder "Resources:") :=
    Statement.acceptable_signInOrder.mpr (.inr (by decide))
  exact ⟨g, hg, (reuses_iff_acceptable hg hasked hrepeats).mpr
    ⟨hacceptable, hbuilds (.ofNat 299), lives_fiveMinutes_last⟩⟩

/-- With a percent sign in the line for people the signer is asked in both of two calls, though the
time to live is not over. -/
theorem asks_again :
    ∃ g, ((lineVisit "Claim 50% off" (.ofNat 0)).outcome (some fiveMinutes)).result = .ok g ∧
      ((lineVisit "Claim 50% off" (.ofNat 0)).outcome (some fiveMinutes)).asked ≠ [] ∧
      (lineVisit "Claim 50% off" (.ofNat 299)).Repeats (lineVisit "Claim 50% off" (.ofNat 0)) ∧
      fiveMinutes.ttl.IsAbove ((Reading.ofNat 299).value - (Reading.ofNat 0).value) ∧
      Lives fiveMinutes.ttl (.ofNat 299) (.ofNat 0) ∧
      ((lineVisit "Claim 50% off" (.ofNat 299)).outcome
        ((lineVisit "Claim 50% off" (.ofNat 0)).outcome (some fiveMinutes)).cache).asked ≠ [] := by
  obtain ⟨g, hg, hasked, hbuilds, hrepeats⟩ :=
    @lineVisit_asks _ "Claim 50% off" (by decide) ⟨by decide, by decide⟩
  have hrefused : ¬ Acceptable {} (Statement.signInOrder "Claim 50% off") := fun h =>
    absurd (Statement.acceptable_signInOrder.mp h) (by decide)
  obtain ⟨b, hb⟩ := hbuilds (.ofNat 299)
  have hagain := (outcome_of_repeats hg hasked hrepeats hb).2 fun hboth => hrefused hboth.1
  refine ⟨g, hg, hasked, hrepeats, lives_fiveMinutes_last.isAbove (by decide),
    lives_fiveMinutes_last, ?_⟩
  rw [hagain]
  exact List.cons_ne_nil _ _

end

end Eligibility.Signing
