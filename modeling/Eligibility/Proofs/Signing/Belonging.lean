import Eligibility.Proofs.Signing.History
import Eligibility.Proofs.Statement.Header
import Eligibility.Signing.Generate
set_option autoImplicit false

/-!
# Signing: whose signature is returned

A cache that is shared by many calls hands out what one of them has put there.
What is returned is still the signature of the very message that is returned,
given for the address and the action of the call, and the message is the one that
the call has built, line by line, but for the nonce and the two times.

The cache compares what two messages say, and not their texts.  Both were laid out
from the fields of an order, and what is read from a message determines all of its
lines that are not of the moment.
-/

namespace Eligibility.Statement

/-! ## The lines of a statement that is built -/

/-- The lines of a message in front of its nonce. -/
def Message.front (m : Message) : List String :=
  [m.domain ++ headerTail, m.address] ++ statementLines m.statement ++
    ["URI: " ++ m.uri, "Version: " ++ version, "Chain ID: " ++ toString (shownChain m.chainId)]

/-- A text of lines in front of a nonce, the nonce and two times, and lines behind them. -/
def IsStamped (front back : List String) (nonce text : String) : Prop :=
  ∃ issuedAt expirationTime,
    let lines := front ++ ["Nonce: " ++ nonce, "Issued At: " ++ issuedAt,
      "Expiration Time: " ++ expirationTime] ++ back
    text = Text.join "\n" lines ∧ Text.lines text = lines

section

variable [Uri.Idna] {settings : Settings} {now : Calendar.Stamp} {o : Order} {b : Built}
  {m : Message}

/-- Only the nonce and the times of a statement are of the moment. -/
theorem Fills.isStamped (h : Fills settings now o b m) :
    IsStamped m.front (resourceLines b.resources) b.nonce b.message := by
  obtain ⟨d, hgives⟩ := h.gives
  obtain ⟨expires, text, -, -, hexpirationTime⟩ := h.expirationTime
  have hexpires : labelled "Expiration Time: " m.expirationTime =
      ["Expiration Time: " ++ text] := by
    rw [labelled_eq, written_of_isTime hgives.expirationTime.2, hexpirationTime]
    rfl
  have hlines : m.lines = m.front ++ ["Nonce: " ++ b.nonce, "Issued At: " ++ m.issuedAt,
      "Expiration Time: " ++ text] ++ resourceLines b.resources := by
    rw [Message.lines, hexpires, h.notBefore, h.requestId, h.resources.2, h.nonce.1]
    simp [Message.front, labelled, shownChain]
  refine ⟨m.issuedAt, text, ?_, ?_⟩
  · rw [h.message, Message.render, hlines]
  · rw [h.message, Message.lines_render h.plain, hlines]

/-- The nonce that is read from a statement is the one that was made for it. -/
theorem Fills.nonce_of_parse (h : Fills settings now o b m) {parsed : Parsed}
    (hparse : parse b.message = .ok parsed) : parsed.nonce = b.nonce := by
  obtain ⟨_, _, _, -, -, -, hparses⟩ := h.parse_eq_ok
  obtain ⟨-, -, rfl⟩ := (hparses parsed).mp hparse
  rfl

/-- Statements of one scope have the same lines but for the nonce and the times. -/
theorem Fills.eq_of_scopeOf_eq {settings' : Settings} {now' : Calendar.Stamp} {o' : Order}
    {b' : Built} {m' : Message} (h : Fills settings now o b m) (h' : Fills settings' now' o' b' m')
    {parsed parsed' : Parsed} (hparse : parse b.message = .ok parsed)
    (hparse' : parse b'.message = .ok parsed')
    (hscope : Signing.scopeOf parsed = Signing.scopeOf parsed') :
    m.front = m'.front ∧ b.resources = b'.resources := by
  obtain ⟨_, _, _, -, -, -, hparses⟩ := h.parse_eq_ok
  obtain ⟨_, _, _, -, -, -, hparses'⟩ := h'.parse_eq_ok
  obtain ⟨-, -, rfl⟩ := (hparses parsed).mp hparse
  obtain ⟨-, -, rfl⟩ := (hparses' parsed').mp hparse'
  simp only [Signing.scopeOf, Signing.Scope.mk.injEq] at hscope
  obtain ⟨hdomain, haddress, huri, hchainId, hstatement, hresources⟩ := hscope
  refine ⟨?_, hresources⟩
  rw [Message.front, Message.front, hdomain, haddress, huri, hchainId, hstatement]

end

end Eligibility.Statement

namespace Eligibility.Signing

open Statement (Built Choices IsStamped)

/-! ## What a call does -/

/-- A call with everything that it depends on beside the cache. -/
structure Visit where
  settings : Settings
  /-- The time of day for the statement. -/
  time : Calendar.Stamp
  /-- What the clock of the cache shows when the call looks into it. -/
  now : Reading
  /-- What it shows when the signer has answered. -/
  later : Reading
  choices : Choices
  call : Call

section

variable [Uri.Idna]

namespace Visit

/-- What a visit does to a cache. -/
def outcome (v : Visit) (cache : Option Cache) : Run :=
  generate v.settings v.time v.now v.later cache v.choices v.call

/-- The statement that a visit builds for an address. -/
def build (v : Visit) (address : String) : Except Statement.BuildFault Built :=
  (Statement.build v.settings v.time v.choices { v.call.order with address := .text address }).1

/-- In a visit for an address and an action, the signer was asked for this message and answered with
this signature. -/
def Answers (v : Visit) (cache : Option Cache) (address : String) (action : Option String)
    (message signature : String) : Prop :=
  ∃ sign, signer? v.call = some (.text address, sign) ∧ v.call.action = action ∧
    (v.outcome cache).asked = [message] ∧ sign message = .signed signature

end Visit

/-- A cache, if there is one, holds an entry. -/
def Holds (cache : Option Cache) (e : Entry) : Prop := ∃ c ∈ cache, e ∈ c.entries

theorem reuse?_eq_some {e : Entry} {message : String} {g : Signed} :
    reuse? e message = some g ↔
      ∃ old new, Statement.parse e.message = .ok old ∧ Statement.parse message = .ok new ∧
        scopeOf old = scopeOf new ∧ g = ⟨e.identity, e.message, e.signature, old.nonce⟩ := by
  unfold reuse?
  cases hold : Statement.parse e.message with
  | error fault => simp
  | ok old =>
    cases hnew : Statement.parse message with
    | error fault => simp
    | ok new =>
      by_cases h : scopeOf old = scopeOf new
      · simp [h, eq_comm]
      · simp [h]

theorem fromCache_of_reuse {c : Cache} {now : Reading} {e : Entry} {address : String}
    {action : Option String} {message : String} {g : Signed}
    (hfind : c.find? (cacheKey address action) = some e) (hidentity : e.identity = address)
    (haction : e.action = action) (hyoung : c.isOutlived now e = false)
    (hreuse : reuse? e message = some g) :
    fromCache c now address action message = (some g, c) := by
  have hget : c.get now address action = (some e, c) := by
    rw [Cache.get_of_find?_some hfind, if_pos ⟨hidentity, haction, hyoung⟩]
  simp only [fromCache, hget, hreuse]

theorem fromCache_of_none {c : Cache} {now : Reading} {address : String} {action : Option String}
    {message : String} (hfind : c.find? (cacheKey address action) = none) :
    fromCache c now address action message = (none, c) := by
  simp only [fromCache, Cache.get_of_find?_none hfind]

/-- An entry of the cache is used again, or the cache has no entries but those it had. -/
theorem fromCache_cases (c : Cache) (now : Reading) (address : String) (action : Option String)
    (message : String) :
    (∃ e g, (c.get now address action).1 = some e ∧ reuse? e message = some g ∧
      fromCache c now address action message = (some g, c)) ∨
    ∃ c', (∀ e ∈ c'.entries, e ∈ c.entries) ∧
      fromCache c now address action message = (none, c') := by
  have hget : ∀ e ∈ (c.get now address action).2.entries, e ∈ c.entries := by
    intro e he
    simpa [Event.stores?] using Cache.mem_entries_step (x := ⟨now, .get address action⟩) he
  have hinvalidate : ∀ e ∈ (c.invalidate address action).entries, e ∈ c.entries := by
    intro e he
    simpa [Event.stores?] using Cache.mem_entries_step (x := ⟨now, .invalidate address action⟩) he
  unfold fromCache
  cases hfirst : (c.get now address action).1 with
  | none =>
    have hpair : c.get now address action = (none, (c.get now address action).2) :=
      Prod.ext hfirst rfl
    rw [hpair]
    exact .inr ⟨_, hget, rfl⟩
  | some e =>
    have hpair : c.get now address action = (some e, c) :=
      Prod.ext hfirst (Cache.get_of_hit hfirst)
    rw [hpair]
    cases hreuse : reuse? e message with
    | some g => exact .inl ⟨e, g, rfl, hreuse, by simp [hreuse]⟩
    | none => exact .inr ⟨_, hinvalidate, by simp [hreuse]⟩

/-- What a visit can come to.  The cache has no entries afterwards but those it had, and the one of
a new signature. -/
inductive Visit.Ends (v : Visit) (cache : Option Cache) (r : Run) : Prop where
  | failed (fault : Fault) (result : r.result = .error fault)
    (holds : ∀ e, Holds r.cache e → Holds cache e)
  | reused (address : String) (b : Built) (e : Entry) (g : Signed)
    (signer : ∃ sign, signer? v.call = some (.text address, sign))
    (built : v.build address = .ok b)
    (entry : Holds cache e ∧ e.identity = address ∧ e.action = v.call.action)
    (reuse : reuse? e b.message = some g) (result : r.result = .ok g)
    (holds : ∀ e, Holds r.cache e → Holds cache e)
  | signed (address : String) (b : Built) (sign : Sign) (signature : String)
    (signer : signer? v.call = some (.text address, sign))
    (built : v.build address = .ok b)
    (asked : r.asked = [b.message]) (answer : sign b.message = .signed signature)
    (result : r.result = .ok ⟨address, b.message, signature, b.nonce⟩)
    (holds : ∀ e, Holds r.cache e →
      Holds cache e ∨ e = ⟨address, v.call.action, signature, b.message, v.later⟩)

section

variable {v : Visit} {cache cache' : Option Cache} {choices : Choices} {address : String}
  {sign : Sign} {b : Built}

/-- Asking the signer with a cache that has lost some entries. -/
theorem ends_signAfresh (hsigner : signer? v.call = some (.text address, sign))
    (hb : v.build address = .ok b) (hsub : ∀ e, Holds cache' e → Holds cache e) :
    v.Ends cache (signAfresh cache' v.later choices sign address v.call.action b) := by
  unfold signAfresh
  cases hsign : sign b.message with
  | signed signature =>
    refine .signed address b sign signature hsigner hb rfl hsign rfl ?_
    rintro e ⟨_, hc, he⟩
    obtain ⟨c, hc', rfl⟩ := Option.map_eq_some_iff.mp hc
    let put : Event := ⟨v.later, .put address v.call.action signature b.message⟩
    rcases Cache.mem_entries_step (x := put) he with hold | hstores
    · exact .inl (hsub e ⟨c, hc', hold⟩)
    · exact .inr (Option.some.inj hstores).symm
  | refused reason =>
    refine .failed (.refused reason) rfl ?_
    rintro e ⟨_, hc, he⟩
    obtain ⟨c, hc', rfl⟩ := Option.map_eq_some_iff.mp hc
    have hold := Cache.mem_entries_step (x := ⟨v.later, .invalidate address v.call.action⟩) he
    exact hsub e ⟨c, hc', by simpa [Event.stores?] using hold⟩
  | abandoned => exact .failed .abandoned rfl hsub

theorem ends_signBuilt (hsigner : signer? v.call = some (.text address, sign))
    (hb : v.build address = .ok b) :
    v.Ends cache (signBuilt cache v.now v.later choices sign address v.call.action b) := by
  cases cache with
  | none => exact ends_signAfresh hsigner hb fun _ h => h
  | some c =>
    unfold signBuilt
    rcases fromCache_cases c v.now address v.call.action b.message with
      ⟨e, g, hget, hreuse, hfrom⟩ | ⟨c', hsub, hfrom⟩
    · obtain ⟨hfind, hidentity, haction, -⟩ := Cache.get_eq_some.mp hget
      have hmem : e ∈ c.entries := Cache.mem_entries.mpr ⟨_, Cache.find?_eq_some_iff.mp hfind⟩
      simp only [hfrom]
      exact .reused address b e g ⟨sign, hsigner⟩ hb ⟨⟨c, rfl, hmem⟩, hidentity, haction⟩ hreuse rfl
        fun _ h => h
    · simp only [hfrom]
      refine ends_signAfresh hsigner hb ?_
      rintro e ⟨_, hc', he⟩
      cases hc'
      exact ⟨c, rfl, hsub e he⟩

/-- A visit that builds a statement has it signed, or takes it from the cache. -/
theorem Visit.outcome_of_build (hsigner : signer? v.call = some (.text address, sign))
    (hb : v.build address = .ok b) (cache : Option Cache) :
    ∃ choices, v.outcome cache =
      signBuilt cache v.now v.later choices sign address v.call.action b := by
  unfold build at hb
  unfold outcome generate
  cases hbuild : Statement.build v.settings v.time v.choices
      { v.call.order with address := .text address } with
  | mk built choices =>
    obtain rfl : built = .ok b := by rw [← hb, hbuild]
    exact ⟨choices, by simp only [hsigner, hbuild, Json.text?, Option.getD_some]⟩

theorem Visit.ends_outcome (v : Visit) (cache : Option Cache) : v.Ends cache (v.outcome cache) := by
  cases hsigner : signer? v.call with
  | none =>
    have hrun : v.outcome cache = ⟨.error .noSigner, cache, v.choices, []⟩ := by
      simp only [outcome, generate, hsigner]
    rw [hrun]
    exact .failed .noSigner rfl fun _ h => h
  | some who =>
    obtain ⟨address, sign⟩ := who
    cases hbuild : Statement.build v.settings v.time v.choices
        { v.call.order with address := address } with
    | mk built choices =>
      cases built with
      | error fault =>
        have hrun : v.outcome cache = ⟨.error (.build fault), cache, choices, []⟩ := by
          simp only [outcome, generate, hsigner, hbuild]
        rw [hrun]
        exact .failed (.build fault) rfl fun _ h => h
      | ok b =>
        have hok := congrArg Prod.fst hbuild
        obtain ⟨m, hfills⟩ := Statement.fills_of_build hok
        obtain rfl : address = .text m.address := hfills.address
        obtain ⟨_, hrun⟩ := Visit.outcome_of_build hsigner hok cache
        rw [hrun]
        exact ends_signBuilt hsigner hok

end

/-! ## Calls that share a cache -/

/-- What happens to a cache that only calls fill: a call, or anything that stores nothing. -/
inductive Turn where
  | visit (v : Visit)
  | upkeep (x : Event) (keeps : x.stores? = none)

/-- The cache after a turn. -/
def Turn.after (cache : Option Cache) : Turn → Option Cache
  | .visit v => (v.outcome cache).cache
  | .upkeep x _ => cache.map (·.step x)

/-- The cache after several turns. -/
def after (cache : Option Cache) (turns : List Turn) : Option Cache := turns.foldl Turn.after cache

/-- In one of the turns, a signer was asked for this message, for this address and action, and
answered with this signature. -/
def Answered (cache : Option Cache) (turns : List Turn) (address : String)
    (action : Option String) (message signature : String) : Prop :=
  ∃ before w rest, turns = before ++ .visit w :: rest ∧
    w.Answers (after cache before) address action message signature

/-- One of the turns is a call that has stored an entry: it has built the statement, had it signed,
and put both under its address and action, with what the clock of the cache showed then. -/
def Stored (cache : Option Cache) (turns : List Turn) (e : Entry) : Prop :=
  ∃ before w rest b, turns = before ++ .visit w :: rest ∧
    w.Answers (after cache before) e.identity e.action e.message e.signature ∧
    w.build e.identity = .ok b ∧ b.message = e.message ∧ w.later = e.createdAt

section

variable {cache : Option Cache} {turns : List Turn} {v : Visit} {t : Turn} {address : String}
  {action : Option String} {message signature : String}

theorem after_concat : after cache (turns ++ [t]) = t.after (after cache turns) := by
  simp [after]

theorem after_visit : after cache [.visit v] = (v.outcome cache).cache := rfl

theorem Answered.concat (h : Answered cache turns address action message signature) :
    Answered cache (turns ++ [t]) address action message signature := by
  obtain ⟨before, w, rest, hcut, hanswers⟩ := h
  exact ⟨before, w, rest ++ [t], by simp [hcut], hanswers⟩

theorem Answered.last (h : v.Answers (after cache turns) address action message signature) :
    Answered cache (turns ++ [.visit v]) address action message signature :=
  ⟨turns, v, [], rfl, h⟩

theorem Stored.concat {e : Entry} (h : Stored cache turns e) : Stored cache (turns ++ [t]) e := by
  obtain ⟨before, w, rest, b, hcut, hstored⟩ := h
  exact ⟨before, w, rest ++ [t], b, by simp [hcut], hstored⟩

/-- A call has stored every entry of the cache. -/
theorem stored_of_holds (hempty : ∀ c ∈ cache, c.entries = []) {e : Entry}
    (h : Holds (after cache turns) e) : Stored cache turns e := by
  induction turns using List.reverseRecOn with
  | nil =>
    obtain ⟨c, hc, he⟩ := h
    rw [hempty c hc] at he
    simp at he
  | append_singleton turns t ih =>
    -- The entry was there before the last turn, or that turn is a call that has stored it.
    rw [after_concat] at h
    cases t with
    | upkeep x keeps =>
      obtain ⟨_, hc, he⟩ := h
      obtain ⟨c, hc', rfl⟩ := Option.map_eq_some_iff.mp hc
      have hold : Holds (after cache turns) e :=
        ⟨c, hc', by simpa [keeps] using Cache.mem_entries_step he⟩
      exact (ih hold).concat
    | visit v =>
      cases v.ends_outcome (after cache turns) with
      | failed _ _ holds => exact (ih (holds e h)).concat
      | reused _ _ _ _ _ _ _ _ _ holds => exact (ih (holds e h)).concat
      | signed address b sign signature signer built asked answer _ holds =>
        rcases holds e h with hold | rfl
        · exact (ih hold).concat
        · exact ⟨turns, v, [], b, rfl, ⟨sign, signer, rfl, asked, answer⟩, built, rfl, rfl⟩

/-- A signer gave every entry of the cache for a statement that was built. -/
theorem answered_of_holds (hempty : ∀ c ∈ cache, c.entries = []) {e : Entry}
    (h : Holds (after cache turns) e) :
    Answered cache turns e.identity e.action e.message e.signature ∧
      ∃ w b, Visit.build w e.identity = .ok b ∧ b.message = e.message := by
  obtain ⟨before, w, rest, b, hcut, hanswers, hb, hmessage, -⟩ := stored_of_holds hempty h
  exact ⟨⟨before, w, rest, hcut, hanswers⟩, w, b, hb, hmessage⟩

end

/-! ## Whose signature is returned -/

/-- What is returned by a call belongs together and to the call. -/
structure Belongs (cache : Option Cache) (turns : List Turn) (v : Visit) (g : Signed) : Prop where
  /-- The address is the one that the call signs for. -/
  address : ∃ sign, signer? v.call = some (.text g.address, sign)
  /-- A signer gave the signature in this call or an earlier one, for this very message. -/
  answered : Answered cache (turns ++ [.visit v]) g.address v.call.action g.message g.signature
  /-- The nonce is the one of the message, whose other lines are those of the statement that the
  call has built, but for the times. -/
  message : ∃ b front back, v.build g.address = .ok b ∧
    IsStamped front back g.nonce g.message ∧ IsStamped front back b.nonce b.message
  nonce : ∀ parsed, Statement.parse g.message = .ok parsed → parsed.nonce = g.nonce

/-- Whatever is done with a cache that is empty at first and that only calls fill, the signature
that a call returns belongs to the message that it returns and to what it was called for. -/
theorem belongs_of_outcome {cache : Option Cache} (hempty : ∀ c ∈ cache, c.entries = [])
    {turns : List Turn} {v : Visit} {g : Signed}
    (h : (v.outcome (after cache turns)).result = .ok g) : Belongs cache turns v g := by
  cases v.ends_outcome (after cache turns) with
  | failed fault result _ => simp [result] at h
  | signed address b sign signature signer built asked answer result _ =>
    obtain rfl := Except.ok.inj (result.symm.trans h)
    obtain ⟨m, hm⟩ := Statement.fills_of_build built
    exact {
      address := ⟨sign, signer⟩
      answered := .last ⟨sign, signer, rfl, asked, answer⟩
      message := ⟨b, _, _, built, hm.isStamped, hm.isStamped⟩
      nonce := fun _ => hm.nonce_of_parse }
  | reused address b e g' signer built entry reuse result _ =>
    obtain rfl := Except.ok.inj (result.symm.trans h)
    obtain ⟨holds, rfl, haction⟩ := entry
    obtain ⟨old, new, hold, hnew, hscope, rfl⟩ := reuse?_eq_some.mp reuse
    obtain ⟨hanswered, w, b', hbuilt', hmessage⟩ := answered_of_holds hempty holds
    obtain ⟨m, hm⟩ := Statement.fills_of_build built
    obtain ⟨m', hm'⟩ := Statement.fills_of_build hbuilt'
    rw [← hmessage] at hold
    obtain ⟨hfront, hresources⟩ := hm'.eq_of_scopeOf_eq hm hold hnew hscope
    have hnonce : old.nonce = b'.nonce := hm'.nonce_of_parse hold
    have hstamped : IsStamped m.front (Statement.resourceLines b.resources) old.nonce
        e.message := by
      rw [← hfront, ← hresources, ← hmessage, hnonce]
      exact hm'.isStamped
    refine ⟨signer, haction ▸ hanswered.concat, ⟨b, _, _, built, hstamped, hm.isStamped⟩, ?_⟩
    intro parsed hparsed
    rw [← hmessage] at hparsed
    rw [hm'.nonce_of_parse hparsed, hnonce]

end

/-! ## A signature that is used again -/

/-- A call to sign in, after some seconds on the clock of the cache, of a wallet with one answer. -/
def signInVisit (now : Reading) (signature : String) : Visit where
  settings := {}
  time := Statement.oneOClock
  now := now
  later := now
  choices := ⟨id, 0⟩
  call := {
    order := Statement.signInOrder "Resources:"
    action := some "claim"
    wallet := some fun _ => .signed signature }

/-- An empty cache that keeps entries for five minutes. -/
def fiveMinutes : Cache := ⟨Cache.fiveMinuteTtl, [], List.nodup_nil⟩

/-- Within five minutes of whole seconds an entry is not outlived. -/
theorem lives_fiveMinutes {n m k : Nat} (hn : Binary64.InFormat n 0) (hm : Binary64.InFormat m 0)
    (hk : Binary64.InFormat k 0) (hle : n ≤ m + k) (hlt : k < 300) :
    Lives fiveMinutes.ttl (.ofNat n hn) (.ofNat m hm) :=
  lives_of_whole hn hm hk hle (Cache.isAbove_fiveMinuteTtl hlt)

/-- A second before five minutes are over. -/
theorem lives_fiveMinutes_last : Lives fiveMinutes.ttl (.ofNat 299) (.ofNat 0) :=
  @lives_fiveMinutes 299 0 299 (by decide) (by decide) (by decide) (by decide) (by decide)

section

attribute [local instance] Uri.Idna.plain

/-- The second of two calls within the time to live returns what the first wallet has signed. -/
theorem belongs_of_outcome_reused :
    (∀ c ∈ some fiveMinutes, c.entries = []) ∧
      ∃ g, ((signInVisit (.ofNat 299) "0x2").outcome
        (after (some fiveMinutes) [.visit (signInVisit (.ofNat 0) "0x1")])).result = .ok g ∧
      g.signature = "0x1" ∧
      Belongs (some fiveMinutes) [.visit (signInVisit (.ofNat 0) "0x1")]
        (signInVisit (.ofNat 299) "0x2") g := by
  obtain ⟨b, hb⟩ := @Statement.signInOrder_builds _ "Resources:" (by decide) ⟨by decide, by decide⟩
  obtain ⟨m, hm⟩ := Statement.fills_of_build hb
  obtain ⟨parsed, hparsed⟩ :=
    hm.parses_iff.mpr (Statement.acceptable_signInOrder.mpr (.inr (by decide)))
  -- What the first call leaves in the cache.
  let e : Entry := ⟨Wallet.zeroAddress, some "claim", "0x1", b.message, .ofNat 0⟩
  have hempty : ∀ c ∈ some fiveMinutes, c.entries = [] := by
    intro c hc
    cases hc
    rfl
  have hsigns : ∀ (c : Cache) now signature, ∃ choices,
      (signInVisit now signature).outcome (some c) =
        signBuilt (some c) now now choices (fun _ => .signed signature) e.identity e.action b :=
    fun c now signature => Visit.outcome_of_build (v := signInVisit now signature) rfl hb (some c)
  have hfirst : after (some fiveMinutes) [.visit (signInVisit (.ofNat 0) "0x1")] =
      some (fiveMinutes.put e) := by
    have hnone : fiveMinutes.find? e.key = none := by rfl
    obtain ⟨choices, hrun⟩ := hsigns fiveMinutes (.ofNat 0) "0x1"
    rw [after_visit, hrun, signBuilt, fromCache_of_none hnone]
    rfl
  have hfind : (fiveMinutes.put e).find? e.key = some e :=
    (fiveMinutes.find?_put _ _).trans (if_pos rfl)
  have hyoung : (fiveMinutes.put e).isOutlived (.ofNat 299) e = false :=
    isAtMost_since_eq_false_iff.mpr lives_fiveMinutes_last
  have hreused := fromCache_of_reuse hfind rfl rfl hyoung
    (reuse?_eq_some.mpr ⟨parsed, parsed, hparsed, hparsed, rfl, rfl⟩)
  have hsecond : ∃ g, ((signInVisit (.ofNat 299) "0x2").outcome
      (after (some fiveMinutes) [.visit (signInVisit (.ofNat 0) "0x1")])).result = .ok g ∧
      g.signature = "0x1" := by
    obtain ⟨choices, hrun⟩ := hsigns (fiveMinutes.put e) (.ofNat 299) "0x2"
    rw [hfirst, hrun, signBuilt, hreused]
    exact ⟨_, rfl, rfl⟩
  obtain ⟨g, hg, hsignature⟩ := hsecond
  exact ⟨hempty, g, hg, hsignature, belongs_of_outcome hempty hg⟩

end

end Eligibility.Signing
