import Eligibility.Proofs.Text.Lines
import Eligibility.Text.Blank
import Mathlib.Data.List.TakeWhile
set_option autoImplicit false

/-!
# Text: items between separators

An item holds no separator, and a text that holds neither a separator nor a blank is
the only item of itself.
-/

namespace Eligibility.Text

/-! ## Trimming -/

section

variable {p : Char → Bool} {cs : List Char}

/-- Nothing is taken off characters that are all outside the class. -/
theorem trimEndsList_of_forall (h : ∀ c ∈ cs, p c = false) : trimEndsList p cs = cs := by
  have hkeep : ∀ ds : List Char, (∀ d ∈ ds, p d = false) → ds.dropWhile p = ds := by
    intro ds hds
    rw [List.dropWhile_eq_self_iff]
    intro hlength
    simp [hds _ (List.getElem_mem hlength)]
  rw [trimEndsList, hkeep cs h, hkeep cs.reverse fun d hd => h d (List.mem_reverse.mp hd),
    List.reverse_reverse]

theorem mem_of_mem_trimEndsList {c : Char} (h : c ∈ trimEndsList p cs) : c ∈ cs := by
  have hback := (List.dropWhile_suffix p).subset (List.mem_reverse.mp h)
  exact (List.dropWhile_suffix p).subset (List.mem_reverse.mp hback)

end

/-- A text without a blank is not trimmed. -/
theorem trim_of_forall {s : String} (h : ∀ c ∈ s.toList, isBlank c = false) : trim s = s := by
  rw [trim, trimEnds, trimEndsList_of_forall h, String.ofList_toList]

/-- A text with a character that is not blank is not blank. -/
theorem isBlankText_of_mem {s : String} {c : Char} (h : c ∈ s.toList) (hc : isBlank c = false) :
    isBlankText s = false := by
  rw [isBlankText, List.all_eq_false]
  exact ⟨c, h, by simp [hc]⟩

/-! ## Items -/

variable {sep : Char} {s item : String}

theorem mem_itemsBetween :
    item ∈ itemsBetween sep s ↔
      item ≠ "" ∧ ∃ piece ∈ piecesList sep s.toList, item = trim (String.ofList piece) := by
  simp only [itemsBetween, pieces, List.map_map, List.mem_filter, List.mem_map,
    Function.comp_apply, Bool.not_eq_true', String.isEmpty_eq_false_iff]
  constructor
  · rintro ⟨⟨piece, hpiece, rfl⟩, hne⟩
    exact ⟨hne, piece, hpiece, rfl⟩
  · rintro ⟨hne, piece, hpiece, rfl⟩
    exact ⟨⟨piece, hpiece, rfl⟩, hne⟩

theorem not_mem_of_mem_itemsBetween (h : item ∈ itemsBetween sep s) : sep ∉ item.toList := by
  obtain ⟨-, piece, hpiece, rfl⟩ := mem_itemsBetween.mp h
  intro hmem
  rw [trim, trimEnds, String.toList_ofList, String.toList_ofList] at hmem
  exact not_mem_of_mem_piecesList hpiece (mem_of_mem_trimEndsList hmem)

/-- A text without a separator and without a blank is the only item of itself. -/
theorem itemsBetween_self (hne : s ≠ "") (hsep : sep ∉ s.toList)
    (hblank : ∀ c ∈ s.toList, isBlank c = false) : itemsBetween sep s = [s] := by
  have hpieces : pieces sep s = [s] := by
    rw [pieces, piecesList_of_not_mem hsep, List.map_singleton, String.ofList_toList]
  simp [itemsBetween, hpieces, trim_of_forall hblank, hne]

end Eligibility.Text
