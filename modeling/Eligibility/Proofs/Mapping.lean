import Eligibility.Mapping
import Mathlib.Data.List.Induction
set_option autoImplicit false

/-!
# Ordered mappings: building from pairs

A mapping that is built from pairs gives a key the value of its last pair, and
keeps pairs whose keys are distinct as they stand.  Its keys stand in the order in
which they are first seen among the pairs.
-/

namespace Eligibility

/-! ## Lists without repetition -/

/-- An item at the end of a list is kept exactly if it is seen for the first time. -/
theorem eraseDups_concat (xs : List String) (x : String) :
    (xs ++ [x]).eraseDups = if x ∈ xs then xs.eraseDups else xs.eraseDups ++ [x] := by
  rw [List.eraseDups_append]
  by_cases h : x ∈ xs <;> simp [List.removeAll, h, List.eraseDups_cons]

theorem nodup_eraseDups (xs : List String) : xs.eraseDups.Nodup := by
  induction xs using List.reverseRecOn with
  | nil => simp
  | append_singleton xs x ih =>
    rw [eraseDups_concat]
    split
    · exact ih
    · next hx =>
      have hnew : x ∉ xs.eraseDups := mt List.mem_eraseDups.mp hx
      exact List.nodup_append.mpr ⟨ih, by simp, by grind⟩

namespace Mapping

variable {α β : Type}

/-- No key stands twice. -/
def Distinct (m : Mapping α) : Prop := (keys m).Nodup

theorem put_of_not_mem {key : String} {m : Mapping α} (value : α) (h : key ∉ keys m) :
    put key value m = m ++ [(key, value)] := by
  induction m with
  | nil => rfl
  | cons p rest ih =>
    obtain ⟨k, v⟩ := p
    simp only [keys, List.map_cons, List.mem_cons, not_or] at h
    rw [put, if_neg (Ne.symm h.1), ih h.2, List.cons_append]

/-- A pair of a mapping gives its key its value. -/
theorem get?_of_mem {m : Mapping α} (h : Distinct m) {key : String} {value : α}
    (hmem : (key, value) ∈ m) : get? key m = some value := by
  induction m with
  | nil => simp at hmem
  | cons p rest ih =>
    obtain ⟨k, v⟩ := p
    obtain ⟨hk, hrest⟩ := List.nodup_cons.mp h
    rcases List.mem_cons.mp hmem with heq | hmem
    · obtain ⟨rfl, rfl⟩ := Prod.mk.inj heq
      simp [get?]
    · have hne : k ≠ key := by
        intro heq
        have hkey : key ∈ keys rest := List.mem_map.mpr ⟨(key, value), hmem, rfl⟩
        exact hk (heq ▸ hkey)
      rw [get?, if_neg hne]
      exact ih hrest hmem

/-- Put the pairs one after another. -/
def putAll (m : Mapping α) (pairs : List (String × α)) : Mapping α :=
  pairs.foldl (fun m p => put p.1 p.2 m) m

theorem ofPairs_eq_putAll (pairs : List (String × α)) : ofPairs pairs = putAll [] pairs := rfl

/-- The last pair of a key gives its value; a key without a pair keeps the one it has. -/
theorem get?_putAll (key : String) (m : Mapping α) (pairs : List (String × α)) :
    get? key (putAll m pairs) =
      (pairs.reverse.findSome? fun p => if p.1 = key then some p.2 else none).or (get? key m) := by
  induction pairs generalizing m with
  | nil => simp [putAll]
  | cons p rest ih =>
    have hstep : putAll m (p :: rest) = putAll (put p.1 p.2 m) rest := rfl
    rw [hstep, ih, get?_put, List.reverse_cons, List.findSome?_append, Option.or_assoc]
    congr 1
    by_cases h : p.1 = key <;> simp [h]

theorem get?_ofPairs (key : String) (pairs : List (String × α)) :
    get? key (ofPairs pairs) =
      pairs.reverse.findSome? fun p => if p.1 = key then some p.2 else none := by
  rw [ofPairs_eq_putAll, get?_putAll]
  simp [get?]

theorem putAll_of_disjoint {m : Mapping α} {pairs : List (String × α)}
    (h : Distinct (m ++ pairs)) : putAll m pairs = m ++ pairs := by
  induction pairs generalizing m with
  | nil => simp [putAll]
  | cons p rest ih =>
    have hstep : putAll m (p :: rest) = putAll (put p.1 p.2 m) rest := rfl
    have hp : p.1 ∉ keys m := by
      intro hm
      simp only [Distinct, keys, List.map_append, List.map_cons, List.nodup_append] at h
      exact h.2.2 p.1 hm p.1 (by simp) rfl
    rw [hstep, put_of_not_mem p.2 hp, ih (by simpa using h)]
    simp

/-- Pairs with distinct keys are the mapping that is built from them. -/
theorem ofPairs_of_distinct {pairs : List (String × α)} (h : Distinct pairs) :
    ofPairs pairs = pairs := by
  rw [ofPairs_eq_putAll, putAll_of_disjoint (by simpa using h)]
  simp

/-- The keys stand in the order in which the pairs first have them. -/
theorem keys_ofPairs (pairs : List (String × α)) :
    keys (ofPairs pairs) = (pairs.map (·.1)).eraseDups := by
  induction pairs using List.reverseRecOn with
  | nil => rfl
  | append_singleton pairs p ih =>
    have hstep : ofPairs (pairs ++ [p]) = put p.1 p.2 (ofPairs pairs) := by simp [ofPairs]
    rw [hstep, keys_put, ih, List.map_append, List.map_singleton, eraseDups_concat]
    simp only [List.mem_eraseDups]

theorem get?_eq_none {key : String} {m : Mapping α} : get? key m = none ↔ key ∉ keys m := by
  induction m with
  | nil => simp [get?, keys]
  | cons p rest ih =>
    obtain ⟨k, v⟩ := p
    have hkeys : keys ((k, v) :: rest) = k :: keys rest := rfl
    rw [hkeys]
    by_cases h : k = key
    · simp [get?, h]
    · simp [get?, h, Ne.symm h, ih]

/-- A mapping is told by its keys in order and the value of each. -/
theorem ext_of_get? {m m' : Mapping α} (hdistinct : Distinct m) (hkeys : keys m = keys m')
    (hget : ∀ key, get? key m = get? key m') : m = m' := by
  induction m generalizing m' with
  | nil => exact (List.map_eq_nil_iff.mp hkeys.symm).symm
  | cons p rest ih =>
    cases m' with
    | nil => simp [keys] at hkeys
    | cons p' rest' =>
      obtain ⟨k, v⟩ := p
      obtain ⟨k', v'⟩ := p'
      obtain ⟨rfl, hrest⟩ : k = k' ∧ keys rest = keys rest' := List.cons.inj hkeys
      obtain ⟨hnew, hdistinct⟩ := List.nodup_cons.mp hdistinct
      have hvalue : v = v' := by simpa [get?] using hget k
      have htail : ∀ key, get? key rest = get? key rest' := by
        intro key
        by_cases h : k = key
        · subst h
          have hnew' : k ∉ keys rest' := hrest ▸ hnew
          rw [get?_eq_none.mpr hnew, get?_eq_none.mpr hnew']
        · simpa [get?, h] using hget key
      rw [hvalue, ih hdistinct hrest htail]

end Mapping

end Eligibility
