import Eligibility.Proofs.Signing.Clock
import Eligibility.Signing.Cache
import Mathlib.Data.List.Induction
set_option autoImplicit false

/-!
# Signing: a cache and its history

What a cache answers is told by what was done with it.  An operation touches some
keys and leaves every other one as it is; a key that is touched holds what a put
has just stored there, and nothing after any other operation.  So the entry of a
key is what the last operation that touched it has put, and `get` hands it out to
the identity it was put for, as long as it is younger than the time to live.

Looking for an entry is itself an operation that touches its key, if it finds
nothing to hand out: an entry of another spelling or an outlived one is gone then.
-/

namespace Eligibility.Signing

/-- What is done with a cache. -/
inductive Op where
  | get (identity : String) (action : Option String)
  | put (identity : String) (action : Option String) (signature message : String)
  | invalidate (identity : String) (action : Option String)
  | invalidateIdentity (identity : String)
  | switchIdentity (identity : String)
  | clear
  deriving DecidableEq, Repr

/-- An operation with what the clock of the cache shows when it is done. -/
structure Event where
  time : Reading
  op : Op
  deriving Repr

/-- The entry that an event stores. -/
def Event.stores? : Event → Option Entry
  | ⟨now, .put identity action signature message⟩ =>
    some ⟨identity, action, signature, message, now⟩
  | _ => none

theorem Event.stores?_eq_some {x : Event} {e : Entry} :
    x.stores? = some e ↔
      x = ⟨e.createdAt, .put e.identity e.action e.signature e.message⟩ := by
  constructor
  · intro h
    unfold stores? at h
    split at h
    · cases h; rfl
    · simp at h
  · rintro rfl
    rfl

namespace Cache

/-- The cache after an event. -/
def step (c : Cache) : Event → Cache
  | ⟨now, .get identity action⟩ => (c.get now identity action).2
  | ⟨now, .put identity action signature message⟩ =>
    c.put ⟨identity, action, signature, message, now⟩
  | ⟨_, .invalidate identity action⟩ => c.invalidate identity action
  | ⟨_, .invalidateIdentity identity⟩ => c.invalidateIdentity identity
  | ⟨_, .switchIdentity identity⟩ => c.switchIdentity identity
  | ⟨_, .clear⟩ => c.clear

/-- The cache after a history. -/
def run (c : Cache) (events : List Event) : Cache := events.foldl step c

end Cache

/-- Whether an event touches a key of the cache that it meets. -/
def Event.Touches (k : CacheKey) (c : Cache) : Event → Prop
  | ⟨now, .get identity action⟩ =>
    cacheKey identity action = k ∧ (c.get now identity action).1 = none
  | ⟨_, .put identity action _ _⟩ => cacheKey identity action = k
  | ⟨_, .invalidate identity action⟩ => cacheKey identity action = k
  | ⟨_, .invalidateIdentity identity⟩ => Text.lower identity = k.identity
  | ⟨_, .switchIdentity identity⟩ => Text.lower identity ≠ k.identity
  | ⟨_, .clear⟩ => True

/-- An event that stores an entry touches the key of the entry and no other one. -/
theorem Event.touches_of_stores {x : Event} {e : Entry} (h : x.stores? = some e) (k : CacheKey)
    (c : Cache) : x.Touches k c ↔ e.key = k := by
  rw [stores?_eq_some.mp h]
  rfl

/-- No event of a history from a cache touches a key. -/
def Untouched (k : CacheKey) : Cache → List Event → Prop
  | _, [] => True
  | c, x :: rest => ¬ x.Touches k c ∧ Untouched k (c.step x) rest

namespace Cache

/-! ## Looking for an entry -/

section Get

variable {c : Cache} {now : Reading} {identity : String} {action : Option String} {e : Entry}

theorem get_of_find?_none (h : c.find? (cacheKey identity action) = none) :
    c.get now identity action = (none, c) := by
  simp only [get, h]

theorem get_of_find?_some (h : c.find? (cacheKey identity action) = some e) :
    c.get now identity action =
      if e.identity = identity ∧ e.action = action ∧ c.isOutlived now e = false then (some e, c)
      else (none, c.drop (cacheKey identity action)) := by
  simp only [get, h]
  by_cases hidentity : e.identity = identity <;> by_cases haction : e.action = action <;>
    cases houtlived : c.isOutlived now e <;> simp [hidentity, haction]

theorem get_eq_some :
    (c.get now identity action).1 = some e ↔
      c.find? (cacheKey identity action) = some e ∧ e.identity = identity ∧ e.action = action ∧
        c.isOutlived now e = false := by
  cases hfind : c.find? (cacheKey identity action) with
  | none => simp [get_of_find?_none hfind]
  | some x => rw [get_of_find?_some hfind]; grind

/-- A cache that hands an entry out stays as it is. -/
theorem get_of_hit (h : (c.get now identity action).1 = some e) :
    (c.get now identity action).2 = c := by
  obtain ⟨hfind, hfits⟩ := get_eq_some.mp h
  rw [get_of_find?_some hfind, if_pos hfits]

/-- A cache that hands nothing out has no entry for that key any more. -/
theorem find?_get_of_miss (h : (c.get now identity action).1 = none) (k : CacheKey) :
    (c.get now identity action).2.find? k =
      if k = cacheKey identity action then none else c.find? k := by
  cases hfind : c.find? (cacheKey identity action) with
  | none =>
    rw [get_of_find?_none hfind]
    split
    · next hk => rw [hk, hfind]
    · rfl
  | some e =>
    rw [get_of_find?_some hfind] at h ⊢
    split at h
    · simp at h
    · next hunfit => rw [if_neg hunfit, find?_drop]

end Get

/-! ## One event -/

/-- A key that an event does not touch keeps its entry. -/
theorem find?_step_of_not_touches {c : Cache} {x : Event} {k : CacheKey} (h : ¬ x.Touches k c) :
    (c.step x).find? k = c.find? k := by
  obtain ⟨now, op⟩ := x
  cases op with
  | get identity action =>
    rw [Event.Touches, not_and] at h
    rw [step]
    cases hget : (c.get now identity action).1 with
    | some e => rw [get_of_hit hget]
    | none =>
      have hk : k ≠ cacheKey identity action := fun heq => h heq.symm hget
      rw [find?_get_of_miss hget, if_neg hk]
  | put identity action signature message =>
    have hk : k ≠ Entry.key ⟨identity, action, signature, message, now⟩ := Ne.symm h
    rw [step, find?_put, if_neg hk]
  | invalidate identity action =>
    have hk : k ≠ cacheKey identity action := Ne.symm h
    rw [step, invalidate, find?_drop, if_neg hk]
  | invalidateIdentity identity =>
    have hk : (k.identity != Text.lower identity) = true := bne_iff_ne.mpr (Ne.symm h)
    rw [step, invalidateIdentity, find?_keep, if_pos hk]
  | switchIdentity identity =>
    have hk : (k.identity == Text.lower identity) = true := beq_iff_eq.mpr (not_not.mp h).symm
    rw [step, switchIdentity, find?_keep, if_pos hk]
  | clear => exact absurd trivial h

/-- A key that an event touches holds what that event stores. -/
theorem find?_step_of_touches {c : Cache} {x : Event} {k : CacheKey} (h : x.Touches k c) :
    (c.step x).find? k = x.stores? := by
  obtain ⟨now, op⟩ := x
  cases op with
  | get identity action =>
    rw [Event.Touches] at h
    rw [step, find?_get_of_miss h.2, if_pos h.1.symm]
    rfl
  | put identity action signature message =>
    have hk : k = Entry.key ⟨identity, action, signature, message, now⟩ := Eq.symm h
    rw [step, find?_put, if_pos hk]
    rfl
  | invalidate identity action =>
    have hk : k = cacheKey identity action := Eq.symm h
    rw [step, invalidate, find?_drop, if_pos hk]
    rfl
  | invalidateIdentity identity =>
    have hk : ¬ (k.identity != Text.lower identity) = true := by simpa using Eq.symm h
    rw [step, invalidateIdentity, find?_keep, if_neg hk]
    rfl
  | switchIdentity identity =>
    have hk : ¬ (k.identity == Text.lower identity) = true := by simpa using Ne.symm h
    rw [step, switchIdentity, find?_keep, if_neg hk]
    rfl
  | clear =>
    rw [step, find?_clear]
    rfl

theorem ttl_step (c : Cache) (x : Event) : (c.step x).ttl = c.ttl := by
  obtain ⟨now, op⟩ := x
  cases op with
  | get identity action =>
    rw [step]
    cases hfind : c.find? (cacheKey identity action) with
    | none => rw [get_of_find?_none hfind]
    | some e => rw [get_of_find?_some hfind]; split <;> rfl
  | _ => rfl

/-- What is filed after an event was there before, or has just been stored under its own key. -/
theorem mem_filed_step {c : Cache} {x : Event} {k : CacheKey} {e : Entry}
    (h : (k, e) ∈ (c.step x).filed) : (k, e) ∈ c.filed ∨ x.stores? = some e ∧ k = e.key := by
  rw [← find?_eq_some_iff] at h
  by_cases htouch : x.Touches k c
  · rw [find?_step_of_touches htouch] at h
    exact .inr ⟨h, ((Event.touches_of_stores h k c).mp htouch).symm⟩
  · rw [find?_step_of_not_touches htouch, find?_eq_some_iff] at h
    exact .inl h

theorem mem_entries {c : Cache} {e : Entry} : e ∈ c.entries ↔ ∃ k, (k, e) ∈ c.filed := by
  simp [entries]

/-- An entry that is there after an event was there before, or has just been stored. -/
theorem mem_entries_step {c : Cache} {x : Event} {e : Entry} (h : e ∈ (c.step x).entries) :
    e ∈ c.entries ∨ x.stores? = some e := by
  obtain ⟨k, hmem⟩ := mem_entries.mp h
  rcases mem_filed_step hmem with hold | ⟨hstores, _⟩
  · exact .inl (mem_entries.mpr ⟨k, hold⟩)
  · exact .inr hstores

/-! ## A history -/

theorem run_concat (c : Cache) (events : List Event) (x : Event) :
    c.run (events ++ [x]) = (c.run events).step x := by
  simp [run]

theorem ttl_run (c : Cache) (events : List Event) : (c.run events).ttl = c.ttl := by
  induction events using List.reverseRecOn with
  | nil => rfl
  | append_singleton events x ih => rw [run_concat, ttl_step, ih]

/-- Every entry is filed under its own key, if that is so at first. -/
theorem key_of_mem_filed_run {c : Cache} (h : ∀ f ∈ c.filed, f.1 = f.2.key)
    (events : List Event) : ∀ f ∈ (c.run events).filed, f.1 = f.2.key := by
  induction events using List.reverseRecOn with
  | nil => exact h
  | append_singleton events x ih =>
    intro f hf
    rw [run_concat] at hf
    rcases mem_filed_step hf with hold | ⟨_, hkey⟩
    · exact ih f hold
    · exact hkey

theorem untouched_concat (k : CacheKey) (c : Cache) (events : List Event) (x : Event) :
    Untouched k c (events ++ [x]) ↔ Untouched k c events ∧ ¬ x.Touches k (c.run events) := by
  induction events generalizing c with
  | nil => simp [Untouched, run]
  | cons y events ih =>
    have hrun : c.run (y :: events) = (c.step y).run events := rfl
    rw [List.cons_append, Untouched, Untouched, ih, hrun, and_assoc]

/-- A cut of a list with one more item has that item right before its end or at its end. -/
theorem concat_eq_append_cons {events before after : List Event} {x y : Event} :
    events ++ [y] = before ++ x :: after ↔
      (events = before ∧ y = x ∧ after = []) ∨
        ∃ rest, events = before ++ x :: rest ∧ after = rest ++ [y] := by
  constructor
  · intro h
    rcases List.eq_nil_or_concat after with rfl | ⟨rest, z, rfl⟩
    · obtain ⟨hbefore, hlast⟩ := List.append_inj' h rfl
      exact .inl ⟨hbefore, List.singleton_inj.mp hlast, rfl⟩
    · rw [List.concat_eq_append, ← List.cons_append, ← List.append_assoc] at h
      obtain ⟨hbefore, hlast⟩ := List.append_inj' h rfl
      rw [List.concat_eq_append, List.singleton_inj.mp hlast]
      exact .inr ⟨rest, hbefore, rfl⟩
  · rintro (⟨rfl, rfl, rfl⟩ | ⟨rest, rfl, rfl⟩)
    · rfl
    · simp

/-- What a key holds after a history is what the last event that touched it has stored. -/
theorem find?_run_eq_some_iff {c : Cache} (hempty : c.filed = []) (events : List Event)
    (k : CacheKey) (e : Entry) :
    (c.run events).find? k = some e ↔
      ∃ before x after, events = before ++ x :: after ∧ x.stores? = some e ∧ e.key = k ∧
        Untouched k (c.run (before ++ [x])) after := by
  induction events using List.reverseRecOn with
  | nil =>
    have hnone : (c.run []).find? k = none := by simp [run, find?, hempty]
    simp [hnone]
  | append_singleton events y ih =>
    -- The last event decides if it touches the key, and else is one more that does not.
    rw [run_concat]
    by_cases htouch : y.Touches k (c.run events)
    · rw [find?_step_of_touches htouch]
      constructor
      · intro h
        have hkey : e.key = k := (Event.touches_of_stores h k _).mp htouch
        exact ⟨events, y, [], rfl, h, hkey, trivial⟩
      · rintro ⟨before, x, after, hcut, hstores, _, huntouched⟩
        rcases concat_eq_append_cons.mp hcut with ⟨_, rfl, _⟩ | ⟨rest, hbefore, rfl⟩
        · exact hstores
        · have hrun : (c.run (before ++ [x])).run rest = c.run events := by simp [run, hbefore]
          rw [untouched_concat, hrun] at huntouched
          exact absurd htouch huntouched.2
    · rw [find?_step_of_not_touches htouch, ih]
      constructor
      · rintro ⟨before, x, after, hcut, hstores, hkey, huntouched⟩
        have hrun : (c.run (before ++ [x])).run after = c.run events := by simp [run, hcut]
        refine ⟨before, x, after ++ [y], by simp [hcut], hstores, hkey, ?_⟩
        rw [untouched_concat, hrun]
        exact ⟨huntouched, htouch⟩
      · rintro ⟨before, x, after, hcut, hstores, hkey, huntouched⟩
        rcases concat_eq_append_cons.mp hcut with ⟨hbefore, rfl, _⟩ | ⟨rest, hbefore, rfl⟩
        · exact absurd ((Event.touches_of_stores hstores k _).mpr hkey) htouch
        · rw [untouched_concat] at huntouched
          exact ⟨before, x, rest, hbefore, hstores, hkey, huntouched.1⟩

/-! ## What a cache promises -/

/-- The last event of a history that touched the key of an identity and an action is a put for that
very identity, and this is the entry that it has stored. -/
def LastPut (c₀ : Cache) (events : List Event) (identity : String) (action : Option String)
    (e : Entry) : Prop :=
  ∃ before put signature message after,
    events = before ++ ⟨put, .put identity action signature message⟩ :: after ∧
      Untouched (cacheKey identity action)
        (c₀.run (before ++ [⟨put, .put identity action signature message⟩])) after ∧
      e = ⟨identity, action, signature, message, put⟩

/-- What a cache with a time to live promises after a history. -/
structure AnswersFrom (c₀ : Cache) (ttl : Binary64) (events : List Event) : Prop where
  /-- An entry is filed under its identity in lower case and its action. -/
  filed : ∀ k e, (k, e) ∈ (c₀.run events).filed → k = ⟨Text.lower e.identity, e.action⟩
  /-- There is one entry for each key. -/
  distinct : ((c₀.run events).filed.map (·.1)).Nodup
  /-- An entry is handed out exactly if the last event that touched its key has put it for that
  very identity, and less than the time to live ago: the difference of the two readings of the
  clock, as the format has it, is less. -/
  answer : ∀ now identity action e, ((c₀.run events).get now identity action).1 = some e ↔
    LastPut c₀ events identity action e ∧ (now.since e.createdAt).IsLess ttl
  /-- The exact difference of the readings is less as well. -/
  elapsed : ∀ now identity action e, ((c₀.run events).get now identity action).1 = some e →
    ttl.IsAbove (now.value - e.createdAt.value)
  /-- An entry is handed out while the exact difference is at most some reading that is less than
  the time to live, so that only a difference which is no reading itself is up to rounding. -/
  keeps : ∀ now identity action e (d : Reading), LastPut c₀ events identity action e →
    now.value - e.createdAt.value ≤ d.value → ttl.IsAbove d.value →
      ((c₀.run events).get now identity action).1 = some e
  /-- The next event leaves every key as it is that it does not touch. -/
  frame : ∀ x k, ¬ x.Touches k (c₀.run events) →
    ((c₀.run events).step x).find? k = (c₀.run events).find? k

/-- The entry that a history has left for an identity and an action is that of its last put. -/
theorem get_run_eq_some_iff {c₀ : Cache} (hempty : c₀.filed = []) (hnumber : c₀.ttl ≠ .nan)
    (events : List Event) (now : Reading) (identity : String) (action : Option String)
    (e : Entry) :
    ((c₀.run events).get now identity action).1 = some e ↔
      LastPut c₀ events identity action e ∧ (now.since e.createdAt).IsLess c₀.ttl := by
  have hlives : (c₀.run events).isOutlived now e = false ↔
      (now.since e.createdAt).IsLess c₀.ttl := by
    rw [isOutlived, ttl_run, isAtMost_since_eq_false_iff]
    exact ⟨fun h => h hnumber, fun h _ => h⟩
  rw [get_eq_some, find?_run_eq_some_iff hempty, hlives]
  constructor
  · rintro ⟨⟨before, x, after, hcut, hstores, _, huntouched⟩, rfl, rfl, hyoung⟩
    obtain rfl := Event.stores?_eq_some.mp hstores
    exact ⟨⟨before, e.createdAt, e.signature, e.message, after, hcut, huntouched, rfl⟩, hyoung⟩
  · rintro ⟨⟨before, put, signature, message, after, hcut, huntouched, rfl⟩, hyoung⟩
    exact ⟨⟨before, _, after, hcut, rfl, rfl, huntouched⟩, rfl, rfl, hyoung⟩

/-- A cache that starts empty, with a time to live above zero, answers from its history. -/
theorem exists_make_answersFrom {ttl : Binary64} (hpos : ttl.IsAbove 0) (events : List Event) :
    ∃ c₀, make? ttl = some c₀ ∧ c₀.filed = [] ∧ c₀.AnswersFrom ttl events := by
  have hmake : ttl.isAtMost (.zero false) = false :=
    (Binary64.isAtMost_zero_eq_false_iff hpos.ne_nan false).mpr hpos
  have hanswer := @get_run_eq_some_iff ⟨ttl, [], List.nodup_nil⟩ rfl hpos.ne_nan events
  refine ⟨⟨ttl, [], List.nodup_nil⟩, by simp [make?, hmake], rfl, ?_⟩
  exact {
    filed := fun k e hmem => key_of_mem_filed_run (by simp) events (k, e) hmem
    distinct := (run _ events).distinct
    answer := hanswer
    elapsed := fun now identity action e h =>
      isAbove_of_since_isLess ((hanswer now identity action e).mp h).2
    keeps := fun now identity action e _ hput hle h =>
      (hanswer now identity action e).mpr ⟨hput, since_isLess_of_le hle h⟩
    frame := fun _ _ h => find?_step_of_not_touches h }

/-- Five minutes in seconds. -/
def fiveMinuteTtl : Binary64 := .finite false 300 0 (by decide)

theorem isAbove_fiveMinuteTtl {n : Nat} (h : n < 300) : fiveMinuteTtl.IsAbove n := by
  refine ⟨_, rfl, Binary64.Line.ofRat_lt_ofRat.mpr ?_⟩
  rw [Binary64.valueOf_eq]
  simpa using h

/-- A history in which one address is spelt in three ways. -/
theorem exists_make_answersFrom_two_spellings :
    fiveMinuteTtl.IsAbove 0 ∧
      ∃ c₀, make? fiveMinuteTtl = some c₀ ∧ c₀.filed = [] ∧
        c₀.AnswersFrom fiveMinuteTtl
          [⟨.ofNat 0, .put "0xAb" (some "claim") "0x1" "first"⟩,
            ⟨.ofNat 1, .get "0xab" (some "claim")⟩,
            ⟨.ofNat 2, .put "0xab" (some "claim") "0x2" "second"⟩,
            ⟨.ofNat 301, .switchIdentity "0xAB"⟩] := by
  have hpos : fiveMinuteTtl.IsAbove 0 := by
    exact_mod_cast isAbove_fiveMinuteTtl (n := 0) (by decide)
  exact ⟨hpos, exists_make_answersFrom hpos _⟩

end Cache

end Eligibility.Signing
