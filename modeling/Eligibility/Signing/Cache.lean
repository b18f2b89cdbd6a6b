import Eligibility.Signing.Clock
import Eligibility.Text.Case
set_option autoImplicit false

/-!
# Signing: the cache of signatures

A cache keeps recent signatures, so that a user is not asked to sign the same
request twice within a short time.  Its entries are filed under the identity,
whose case does not matter, and the action; there is at most one entry for each
key.  An entry is only handed out to the very identity that it was put for, and
only as long as it is younger than the time to live.

Each operation is taken as a whole, as under a lock.
-/

namespace Eligibility.Signing

/-- What an entry is filed under. -/
structure CacheKey where
  /-- The identity in lower case. -/
  identity : String
  action : Option String
  deriving DecidableEq, Repr

/-- The key of an identity and an action. -/
def cacheKey (identity : String) (action : Option String) : CacheKey :=
  ⟨Text.lower identity, action⟩

/-- A signature that was put into a cache. -/
structure Entry where
  identity : String
  action : Option String
  signature : String
  message : String
  createdAt : Reading
  deriving Repr

/-- What an entry is filed under. -/
def Entry.key (e : Entry) : CacheKey := cacheKey e.identity e.action

/-- A cache of signatures. -/
structure Cache where
  /-- The time to live in seconds. -/
  ttl : Binary64
  /-- The entries, each with what it was filed under. -/
  filed : List (CacheKey × Entry)
  distinct : (filed.map (·.1)).Nodup
  deriving Repr

/-- What is wrong with a time to live. -/
def ttlMessage : String := "ttl_seconds must be positive"

namespace Cache

/-- The empty cache with a time to live, unless that is zero or less. -/
def make? (ttl : Binary64) : Option Cache :=
  if ttl.isAtMost (.zero false) then none else some ⟨ttl, [], List.nodup_nil⟩

/-- The entries, whatever they were filed under. -/
def entries (c : Cache) : List Entry := c.filed.map (·.2)

/-- The cache with the entries whose keys satisfy a condition. -/
def keep (c : Cache) (p : CacheKey → Bool) : Cache :=
  { c with
    filed := c.filed.filter fun f => p f.1
    distinct := c.distinct.sublist (List.filter_sublist.map _) }

/-- The cache without the entry of a key. -/
def drop (c : Cache) (k : CacheKey) : Cache := c.keep (· != k)

/-- The entry of a key, whoever asks for it and whenever. -/
def find? (c : Cache) (k : CacheKey) : Option Entry := (c.filed.find? (·.1 = k)).map (·.2)

theorem not_mem_drop (c : Cache) (k : CacheKey) : k ∉ (c.drop k).filed.map (·.1) := by
  simp [drop, keep]

/-- The cache with an entry, which replaces one under the same key. -/
def put (c : Cache) (e : Entry) : Cache where
  ttl := c.ttl
  filed := (c.drop e.key).filed ++ [(e.key, e)]
  distinct := by
    rw [List.map_append, List.nodup_append]
    refine ⟨(c.drop e.key).distinct, by simp, ?_⟩
    rintro a ha b hb rfl
    simp only [List.map_cons, List.map_nil, List.mem_singleton] at hb
    rw [hb] at ha
    exact not_mem_drop c e.key ha

/-- Whether an entry has outlived the time to live at some time. -/
def isOutlived (c : Cache) (now : Reading) (e : Entry) : Bool :=
  c.ttl.isAtMost (now.since e.createdAt)

/-- The entry for an identity and an action at some time, and the cache after that.  An entry that
was put for another spelling of the identity or has outlived the time to live is dropped. -/
def get (c : Cache) (now : Reading) (identity : String) (action : Option String) :
    Option Entry × Cache :=
  let key := cacheKey identity action
  match c.find? key with
  | none => (none, c)
  | some e =>
    if e.identity ≠ identity || e.action ≠ action || c.isOutlived now e then (none, c.drop key)
    else (some e, c)

/-- The cache without the entry of an identity and an action. -/
def invalidate (c : Cache) (identity : String) (action : Option String) : Cache :=
  c.drop (cacheKey identity action)

/-- The cache without the entries of an identity. -/
def invalidateIdentity (c : Cache) (identity : String) : Cache :=
  c.keep (·.identity != Text.lower identity)

/-- The cache with the entries of one identity only. -/
def switchIdentity (c : Cache) (identity : String) : Cache :=
  c.keep (·.identity == Text.lower identity)

/-- The cache without entries. -/
def clear (c : Cache) : Cache := { c with filed := [], distinct := List.nodup_nil }

theorem find?_keep (c : Cache) (p : CacheKey → Bool) (k : CacheKey) :
    (c.keep p).find? k = if p k then c.find? k else none := by
  unfold find? keep
  rw [List.find?_filter]
  split
  · next h =>
    congr 2
    funext f
    by_cases hf : f.1 = k <;> simp [hf, h]
  · next h =>
    rw [Option.map_eq_none_iff, List.find?_eq_none]
    intro f _ hf
    have hp : p f.1 = true ∧ f.1 = k := by simpa using hf
    exact h (hp.2 ▸ hp.1)

theorem find?_drop (c : Cache) (k l : CacheKey) :
    (c.drop k).find? l = if l = k then none else c.find? l := by
  unfold drop
  rw [find?_keep]
  by_cases h : l = k <;> simp [h]

theorem find?_put (c : Cache) (e : Entry) (k : CacheKey) :
    (c.put e).find? k = if k = e.key then some e else c.find? k := by
  have hd := find?_drop c e.key k
  unfold find? at hd
  unfold find? put
  rw [List.find?_append, Option.map_or, hd]
  split
  · next h => simp [h]
  · next h => simp [Ne.symm h]

theorem find?_clear (c : Cache) (k : CacheKey) : c.clear.find? k = none := rfl

/-- The entry that is found under a key is the one that was filed under it. -/
theorem find?_eq_some_iff {c : Cache} {k : CacheKey} {e : Entry} :
    c.find? k = some e ↔ (k, e) ∈ c.filed := by
  obtain ⟨ttl, filed, hdistinct⟩ := c
  unfold find?
  induction filed with
  | nil => simp
  | cons f rest ih =>
    obtain ⟨l, x⟩ := f
    obtain ⟨hnew, hrest⟩ := List.nodup_cons.mp hdistinct
    by_cases h : l = k
    · subst h
      have hother : (l, e) ∉ rest := fun hmem => hnew (List.mem_map.mpr ⟨(l, e), hmem, rfl⟩)
      simp [hother, eq_comm]
    · have hne : (k, e) ≠ (l, x) := fun heq => h (Prod.mk.inj heq).1.symm
      simp only [List.mem_cons, hne, false_or]
      rw [List.find?_cons_of_neg (by simpa using h)]
      exact ih hrest

end Cache

end Eligibility.Signing
