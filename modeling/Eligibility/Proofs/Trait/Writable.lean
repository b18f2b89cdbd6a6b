import Eligibility.Proofs.Trait.Faults
import Eligibility.Proofs.Trait.Preorder
set_option autoImplicit false

/-!
# Traits: what a line can hold of them

A requirement may compare with any text, and a trait line holds texts of a path only.
Towards an equality to a text nothing is as strict but the same text, so it can be met
by a line exactly if that text may stand in one.  A number and a truth value always
may.  A choice can be met by one of its texts alone, so it is enough that one of them
may stand in a line.
-/

namespace Eligibility.Trait

/-! ## Items of a choice -/

/-- Every text of a choice that stands in a path may stand there by itself. -/
theorem isPathText_of_mem_choiceItems {s item : String} (h : Uri.isPathText s = true)
    (hitem : item ∈ choiceItems s) : Uri.isPathText item = true :=
  Uri.isPathText_of_mem_itemsBetween (by decide) (by decide) h hitem

/-- A text of a choice that may stand in a path is read as the choice of that text alone. -/
theorem choiceItems_of_mem {s item : String} (hitem : item ∈ choiceItems s)
    (h : Uri.isPathText item = true) : choiceItems item = [item] := by
  have hne : item ≠ "" := (Text.mem_itemsBetween.mp hitem).1
  exact Text.itemsBetween_self hne (Text.not_mem_of_mem_itemsBetween hitem)
    (Uri.isBlank_of_isPathText h)

/-! ## Single values -/

/-- The text of a number or of a truth value may stand in a path. -/
theorem isPathText_of_readSingle {s : String} {v : Value} (h : readSingle s = .ok v)
    (hkind : v.kind = .boolean ∨ v.kind = .integer) : Uri.isPathText s = true := by
  unfold readSingle at h
  split at h
  · next hs =>
    rw [hs]
    decide
  · split at h
    · next hs =>
      rw [hs]
      decide
    · split at h
      · next hdigits => exact isPathText_of_wholeDigits? hdigits
      · rw [← Except.ok.inj h] at hkind
        simp [Value.kind] at hkind

namespace Requirement

/-- A trait line can hold what meets the requirement: the text that it compares with may stand in
one, or for a choice one of its texts may. -/
def IsWritable (r : Requirement) : Prop :=
  if r.operator = .oneOf then ∃ item ∈ choiceItems r.text, Uri.isPathText item = true
  else Uri.isPathText r.text = true

instance (r : Requirement) : Decidable r.IsWritable :=
  inferInstanceAs (Decidable (if r.operator = .oneOf then _ else _))

variable {r : Requirement}

theorem isWritable_oneOf (ho : r.operator = .oneOf) :
    r.IsWritable ↔ ∃ item ∈ choiceItems r.text, Uri.isPathText item = true := by
  rw [IsWritable, if_pos ho]

theorem isWritable_of_ne (ho : r.operator ≠ .oneOf) :
    r.IsWritable ↔ Uri.isPathText r.text = true := by
  rw [IsWritable, if_neg ho]

/-- A requirement on a number or a truth value can be written. -/
theorem isWritable_of_kind (h : r.value.kind = .boolean ∨ r.value.kind = .integer) :
    r.IsWritable := by
  have ho : r.operator ≠ .oneOf := by
    intro ho
    have hkind := (Value.kind_eq_choice_iff r.reads).mpr ho
    simp [hkind] at h
  have hreads := r.reads
  rw [Value.read_of_ne_oneOf r.text ho] at hreads
  exact (isWritable_of_ne ho).mpr (isPathText_of_readSingle hreads h)

/-- The choice of one text of a choice is as strict as the choice. -/
theorem exists_strict_of_item {item : String} (ho : r.operator = .oneOf)
    (hitem : item ∈ choiceItems r.text) (hpath : Uri.isPathText item = true) :
    ∃ found : Requirement, found.name = r.name ∧ found.text = item ∧ found.isWellTyped = true ∧
      found.atLeastAsStrict r = true := by
  have hself := choiceItems_of_mem hitem hpath
  have hreads : Value.read .oneOf item = .ok (.choice (Choice.ofList [item])) := by
    simp [Value.read, hself]
  refine ⟨⟨r.name, .oneOf, item, _, hreads⟩, rfl, rfl, rfl, ?_⟩
  refine atLeastAsStrict_of_items rfl ho fun s hs => ?_
  obtain rfl := List.mem_singleton.mp (hself ▸ hs)
  exact hitem

/-- What is as strict as a choice and can be written holds a text of the choice that can. -/
theorem exists_item_of_strict {found : Requirement} (ho : r.operator = .oneOf)
    (hstrict : found.atLeastAsStrict r = true) (hpath : Uri.isPathText found.text = true) :
    ∃ item ∈ choiceItems r.text, Uri.isPathText item = true := by
  rcases items_of_atLeastAsStrict ho hstrict with ⟨-, hmem⟩ | ⟨hfo, hwithin⟩
  · exact ⟨found.text, hmem, hpath⟩
  · obtain ⟨hne, -⟩ := Value.read_oneOf (hfo ▸ found.reads)
    obtain ⟨item, hitem⟩ := List.exists_mem_of_ne_nil _ hne
    exact ⟨item, hwithin item hitem, isPathText_of_mem_choiceItems hpath hitem⟩

/-- A requirement can be written exactly if a line can hold one that is as strict. -/
theorem isWritable_iff (h : r.isWellTyped = true) :
    r.IsWritable ↔ ∃ found : Requirement, found.name = r.name ∧ found.isWellTyped = true ∧
      found.atLeastAsStrict r = true ∧ Uri.isPathText found.text = true := by
  by_cases ho : r.operator = .oneOf
  · rw [isWritable_oneOf ho]
    constructor
    · rintro ⟨item, hitem, hpath⟩
      obtain ⟨found, hname, rfl, htyped, hstrict⟩ := exists_strict_of_item ho hitem hpath
      exact ⟨found, hname, htyped, hstrict, hpath⟩
    · rintro ⟨found, -, -, hstrict, hpath⟩
      exact exists_item_of_strict ho hstrict hpath
  · constructor
    · intro hr
      exact ⟨r, rfl, h, atLeastAsStrict_refl h, (isWritable_of_ne ho).mp hr⟩
    · rintro ⟨found, -, -, hstrict, hpath⟩
      rcases cases_of_isWellTyped h with ⟨heq, v, hv⟩ | ⟨-, n, hn⟩ | ⟨hoo, -⟩
      · cases v with
        | boolean b => exact isWritable_of_kind (.inl (by rw [hv]; rfl))
        | integer n => exact isWritable_of_kind (.inr (by rw [hv]; rfl))
        | text s =>
          -- An equality to a text is met by that text only, so the line holds it.
          obtain ⟨-, hvalue⟩ := eq_of_atLeastAsStrict heq hstrict
          have hkind : r.value.kind = .text := by rw [hv]; rfl
          have htext : Value.text found.text = .text r.text := by
            rw [← value_eq_text hkind, ← value_eq_text (hvalue ▸ hkind), hvalue]
          rw [isWritable_of_ne ho, ← Value.text.inj htext]
          exact hpath
      · exact isWritable_of_kind (.inr (by rw [hn]; rfl))
      · exact absurd hoo ho

end Requirement

end Eligibility.Trait
