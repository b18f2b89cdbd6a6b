import Eligibility.Field
import Eligibility.Proofs.Outcome
set_option autoImplicit false

/-!
# Fields: what a check lets through

A check that lets a value through gives back what was written.  A record of
checked fields is there exactly if every field is, so the checks of a record can
be looked at one by one.
-/

namespace Eligibility.Field

variable {α : Type}

@[simp] theorem Checked.located_eq_ok {location : String} {found : Except Problem α} {a : α} :
    Checked.located location found = .ok a ↔ found = .ok a := by
  cases found <;> simp [Checked.located]

theorem Checked.all_eq_ok {cs : List (Checked α)} {as : List α} :
    Checked.all cs = .ok as ↔ cs = as.map .ok := by
  induction cs generalizing as with
  | nil =>
    constructor
    · intro h
      simp [← Except.ok.inj h]
    · intro h
      rw [List.map_eq_nil_iff.mp h.symm]
      rfl
  | cons c rest ih =>
    simp only [Checked.all, Checked.apply_eq_ok, ih]
    constructor
    · rintro ⟨_, _, ⟨_, a, hcons, rfl, rfl⟩, rfl, rfl⟩
      rw [← Except.ok.inj hcons]
      rfl
    · intro h
      cases as with
      | nil => simp at h
      | cons a as =>
        obtain ⟨rfl, rfl⟩ := List.cons.inj h
        exact ⟨_, as, ⟨List.cons, a, rfl, rfl, rfl⟩, rfl, rfl⟩

/-! ## One value -/

@[simp] theorem text_eq_ok {j : Json} {s : String} : text j = .ok s ↔ j = .text s := by
  cases j <;> simp [text]

@[simp] theorem require_eq_ok {p : α → Bool} {problem : Problem} {a b : α} :
    require p problem a = .ok b ↔ a = b ∧ p a = true := by
  unfold require
  split
  · next h => simp [h]
  · next h => simp [h]

@[simp] theorem address_eq_ok [Uri.Idna] {j : Json} {s : String} :
    address j = .ok s ↔ j = .text s ∧ Uri.isWebAddress s = true := by
  cases j with
  | text t =>
    simp only [address, Json.text.injEq]
    split
    · next h =>
      simp only [Except.ok.injEq]
      constructor
      · rintro rfl
        exact ⟨rfl, h⟩
      · exact And.left
    · next h =>
      simp only [reduceCtorEq, false_iff]
      rintro ⟨rfl, ht⟩
      exact h ht
  | null | boolean _ | whole _ | real _ | array _ | object _ => simp [address]

theorem optional_of_ne_null {read : Json → Except Problem α} {j : Json} (h : j ≠ .null) :
    optional read j = (read j).map some := by
  cases j with
  | null => exact absurd rfl h
  | text _ | boolean _ | whole _ | real _ | array _ | object _ => rfl

/-- A text that may be left out: null stands for nothing, and nothing else does. -/
theorem optional_eq_ok {read : Json → Except Problem String} {p : String → Bool}
    (hread : ∀ j s, read j = .ok s ↔ j = .text s ∧ p s = true) {j : Json} {o : Option String} :
    optional read j = .ok o ↔ j = Json.ofText? o ∧ o.all p = true := by
  constructor
  · intro h
    by_cases hj : j = .null
    · subst hj
      obtain rfl := Except.ok.inj h
      exact ⟨rfl, rfl⟩
    · rw [optional_of_ne_null hj, Outcome.map_eq_ok] at h
      obtain ⟨s, hs, rfl⟩ := h
      exact (hread j s).mp hs
  · rintro ⟨rfl, h⟩
    cases o with
    | none => rfl
    | some s =>
      have hj : Json.text s ≠ .null := by simp
      have hs : read (.text s) = .ok s := (hread _ s).mpr ⟨rfl, h⟩
      exact (optional_of_ne_null hj).trans (Outcome.map_eq_ok.mpr ⟨s, hs, rfl⟩)

/-! ## Lists -/

theorem mapIdx_eq_map_ok {read : Json → Except Problem α} {f : Nat → Json → Checked α}
    (hf : ∀ i j a, f i j = .ok a ↔ read j = .ok a) {js : List Json} {as : List α} :
    js.mapIdx f = as.map .ok ↔ js.map read = as.map .ok := by
  induction js generalizing f as with
  | nil => simp
  | cons j js ih =>
    cases as with
    | nil => simp
    | cons a as =>
      rw [List.mapIdx_cons, List.map_cons, List.map_cons, List.map_cons, List.cons.injEq,
        List.cons.injEq, hf, ih fun i => hf (i + 1)]

/-- The items of a list are read one by one. -/
theorem items_eq_ok {location : String} {read : Json → Except Problem α} {js : List Json}
    {as : List α} : items location read js = .ok as ↔ js.map read = as.map .ok := by
  unfold items
  rw [Checked.all_eq_ok]
  exact mapIdx_eq_map_ok fun _ _ _ => Checked.located_eq_ok

/-- Texts of a list that satisfy a condition are its items. -/
theorem items_texts_eq_ok {location : String} {read : Json → Except Problem String}
    {p : String → Bool} (hread : ∀ j s, read j = .ok s ↔ j = .text s ∧ p s = true)
    {js : List Json} {ss : List String} :
    items location read js = .ok ss ↔ js = ss.map .text ∧ ∀ s ∈ ss, p s = true := by
  rw [items_eq_ok]
  induction js generalizing ss with
  | nil =>
    constructor
    · intro h
      simp [List.map_eq_nil_iff.mp h.symm]
    · rintro ⟨h, -⟩
      simp [List.map_eq_nil_iff.mp h.symm]
  | cons j js ih =>
    cases ss with
    | nil => simp
    | cons s ss =>
      simp only [List.map_cons, List.cons.injEq, hread, ih, List.forall_mem_cons]
      constructor
      · rintro ⟨⟨hj, hs⟩, hjs, hss⟩
        exact ⟨⟨hj, hjs⟩, hs, hss⟩
      · rintro ⟨⟨hj, hjs⟩, hs, hss⟩
        exact ⟨⟨hj, hs⟩, hjs, hss⟩

end Eligibility.Field
