set_option autoImplicit false

/-!
# Ordered mappings

A mapping is a list of pairs whose keys are distinct and stand in the order in
which they were first put.  Putting a key that is there keeps its place and
replaces its value.  Main statements: `get?_put` and `keys_put`.
-/

namespace Eligibility

/-- Pairs of a key and a value, in the order in which the keys were first put. -/
abbrev Mapping (α : Type) : Type := List (String × α)

namespace Mapping

variable {α β : Type}

/-- Give `key` the value `value`; a key that is there keeps its place. -/
def put (key : String) (value : α) : Mapping α → Mapping α
  | [] => [(key, value)]
  | (k, v) :: rest => if k = key then (k, value) :: rest else (k, v) :: put key value rest

/-- The value of a key. -/
def get? (key : String) : Mapping α → Option α
  | [] => none
  | (k, v) :: rest => if k = key then some v else get? key rest

/-- The keys in order. -/
def keys (m : Mapping α) : List String := m.map (·.1)

/-- The mapping that results from putting the pairs one after another. -/
def ofPairs (pairs : List (String × α)) : Mapping α :=
  pairs.foldl (fun m p => put p.1 p.2 m) []

/-- Change the values and keep the keys. -/
def mapValues (f : α → β) (m : Mapping α) : Mapping β := m.map fun p => (p.1, f p.2)

theorem get?_put (key k : String) (value : α) (m : Mapping α) :
    get? k (put key value m) = if key = k then some value else get? k m := by
  induction m with
  | nil => simp [put, get?]
  | cons p rest ih =>
    obtain ⟨k', v⟩ := p
    by_cases h : k' = key
    · subst h; by_cases hk : k' = k <;> simp [put, get?, hk]
    · by_cases hk : k' = k
      · subst hk; simp [put, get?, h, Ne.symm h]
      · simp [put, get?, h, hk, ih]

theorem keys_put (key : String) (value : α) (m : Mapping α) :
    keys (put key value m) = if key ∈ keys m then keys m else keys m ++ [key] := by
  induction m with
  | nil => simp [put, keys]
  | cons p rest ih =>
    obtain ⟨k', v⟩ := p
    have hc : ∀ q : Mapping α, keys ((k', v) :: q) = k' :: keys q := fun _ => rfl
    by_cases h : k' = key
    · simp [put, keys, h]
    · rw [put, if_neg h, hc, hc, ih]
      by_cases hm : key ∈ keys rest
      · simp [hm]
      · simp [hm, Ne.symm h]

theorem keys_mapValues (f : α → β) (m : Mapping α) : keys (mapValues f m) = keys m := by
  simp [keys, mapValues]

theorem get?_mapValues (f : α → β) (k : String) (m : Mapping α) :
    get? k (mapValues f m) = (get? k m).map f := by
  induction m with
  | nil => rfl
  | cons p rest ih =>
    obtain ⟨k', v⟩ := p
    simp only [mapValues, List.map_cons, get?] at ih ⊢
    split <;> simp [ih]

end Mapping

end Eligibility
