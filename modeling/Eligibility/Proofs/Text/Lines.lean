import Eligibility.Text.Lines
set_option autoImplicit false

/-!
# Text: lines that are put together

Texts that hold no separator are the pieces of what they are joined to.  Lines
are the pieces between LF, so texts of one line are the lines of what they are
joined to, whatever else they hold.
-/

namespace Eligibility.Text

/-! ## Pieces -/

theorem piecesList_of_not_mem {sep : Char} {cs : List Char} (h : sep ∉ cs) :
    piecesList sep cs = [cs] := by
  induction cs with
  | nil => rfl
  | cons c cs ih =>
    simp only [List.mem_cons, not_or] at h
    simp [piecesList, Ne.symm h.1, ih h.2]

theorem piecesList_append {sep : Char} {cs : List Char} (h : sep ∉ cs) (rest : List Char) :
    piecesList sep (cs ++ sep :: rest) = cs :: piecesList sep rest := by
  induction cs with
  | nil => simp [piecesList]
  | cons c cs ih =>
    simp only [List.mem_cons, not_or] at h
    simp [piecesList, Ne.symm h.1, ih h.2]

/-- Characters without a separator belong to the first piece. -/
theorem piecesList_append_of_not_mem {sep : Char} {cs ds front : List Char}
    {rest : List (List Char)} (h : sep ∉ cs) (hds : piecesList sep ds = front :: rest) :
    piecesList sep (cs ++ ds) = (cs ++ front) :: rest := by
  induction cs with
  | nil => exact hds
  | cons c cs ih =>
    simp only [List.mem_cons, not_or] at h
    simp [piecesList, Ne.symm h.1, ih h.2]

/-- Cutting undoes joining. -/
theorem piecesList_joinList {sep : Char} {ls : List (List Char)} (hne : ls ≠ [])
    (h : ∀ l ∈ ls, sep ∉ l) : piecesList sep (joinList sep ls) = ls := by
  induction ls with
  | nil => exact absurd rfl hne
  | cons l rest ih =>
    have hl : sep ∉ l := h l List.mem_cons_self
    cases rest with
    | nil => exact piecesList_of_not_mem hl
    | cons m rest =>
      have hrest := ih (by simp) fun k hk => h k (List.mem_cons_of_mem l hk)
      rw [joinList, piecesList_append hl, hrest]
      simp

/-- No piece holds the separator. -/
theorem not_mem_of_mem_piecesList {sep : Char} {cs piece : List Char}
    (h : piece ∈ piecesList sep cs) : sep ∉ piece := by
  induction cs generalizing piece with
  | nil =>
    obtain rfl := List.mem_singleton.mp h
    exact List.not_mem_nil
  | cons c cs ih =>
    unfold piecesList at h
    split at h
    · rcases List.mem_cons.mp h with rfl | h
      · exact List.not_mem_nil
      · exact ih h
    · next hc =>
      split at h
      · next hnil => exact absurd hnil (piecesList_ne_nil sep cs)
      · next front rest hcut =>
        have hfront : sep ∉ front := ih (hcut ▸ List.mem_cons_self)
        rcases List.mem_cons.mp h with rfl | h
        · exact List.not_mem_cons_of_ne_of_not_mem (Ne.symm hc) hfront
        · exact ih (hcut ▸ List.mem_cons_of_mem front h)

/-- The first text, and the others each behind a separator. -/
theorem join_cons (sep s : String) (rest : List String) :
    join sep (s :: rest) = s ++ String.join (rest.map (sep ++ ·)) := by
  induction rest generalizing s with
  | nil => simp [join]
  | cons t rest ih =>
    have hstep : join sep (s :: t :: rest) = s ++ sep ++ join sep (t :: rest) := rfl
    rw [hstep, ih, List.map_cons, String.join_cons, String.append_assoc, String.append_assoc]

theorem toList_join (sep : Char) (ls : List String) :
    (join (String.singleton sep) ls).toList = joinList sep (ls.map String.toList) := by
  induction ls with
  | nil => rfl
  | cons s rest ih =>
    cases rest with
    | nil => rfl
    | cons t rest =>
      have hs : (join (String.singleton sep) (s :: t :: rest)) =
          s ++ String.singleton sep ++ join (String.singleton sep) (t :: rest) := rfl
      have hl : joinList sep ((s :: t :: rest).map String.toList) =
          s.toList ++ sep :: joinList sep ((t :: rest).map String.toList) := rfl
      rw [hs, hl, ← ih]
      simp

/-! ## Lines -/

/-- Characters of which none belongs to a line end. -/
structure Unbroken (cs : List Char) : Prop where
  noFeed : '\n' ∉ cs
  noReturn : '\r' ∉ cs

/-- A text without a character of a line end. -/
abbrev OneLine (s : String) : Prop := Unbroken s.toList

namespace Unbroken

variable {cs ds : List Char}

theorem iff_forall : Unbroken cs ↔ ∀ c ∈ cs, c ≠ '\n' ∧ c ≠ '\r' := by
  constructor
  · rintro ⟨hn, hr⟩ c hc
    refine ⟨?_, ?_⟩
    · rintro rfl
      exact hn hc
    · rintro rfl
      exact hr hc
  · intro h
    exact ⟨fun hn => (h _ hn).1 rfl, fun hr => (h _ hr).2 rfl⟩

/-- Characters of a class that no line end belongs to. -/
theorem of_forall {p : Char → Bool} (hn : p '\n' = false) (hr : p '\r' = false)
    (h : ∀ c ∈ cs, p c = true) : Unbroken cs := by
  refine ⟨?_, ?_⟩
  · intro hc
    exact absurd (h _ hc) (by simp [hn])
  · intro hc
    exact absurd (h _ hc) (by simp [hr])

theorem of_digits (h : ∀ c ∈ cs, c.isDigit = true) : Unbroken cs :=
  of_forall (by decide) (by decide) h

theorem nil : Unbroken [] := ⟨List.not_mem_nil, List.not_mem_nil⟩

theorem append_iff : Unbroken (cs ++ ds) ↔ Unbroken cs ∧ Unbroken ds := by
  simp only [iff_forall, List.forall_mem_append]

theorem append (hc : Unbroken cs) (hd : Unbroken ds) : Unbroken (cs ++ ds) :=
  append_iff.mpr ⟨hc, hd⟩

theorem cons {c : Char} (hn : c ≠ '\n') (hr : c ≠ '\r') (h : Unbroken cs) : Unbroken (c :: cs) := by
  rw [iff_forall] at h ⊢
  exact List.forall_mem_cons.mpr ⟨⟨hn, hr⟩, h⟩

end Unbroken

theorem OneLine.append {s t : String} (hs : OneLine s) (ht : OneLine t) : OneLine (s ++ t) := by
  rw [OneLine, String.toList_append]
  exact Unbroken.append hs ht

theorem oneLine_toString (n : Int) : OneLine (toString n) := by
  have hnat : ∀ k : Nat, OneLine k.repr := by
    intro k
    rw [OneLine, Nat.toList_repr]
    exact .of_digits fun c hc => Nat.isDigit_of_mem_toDigits (by decide) (by decide) hc
  have hminus : OneLine "-" := ⟨by decide, by decide⟩
  rw [Int.toString_eq_repr, Int.repr_eq_if]
  split
  · exact hnat _
  · exact hminus.append (hnat _)

theorem dropReturn_of_not_mem {line : List Char} (h : '\r' ∉ line) : dropReturn line = line := by
  unfold dropReturn
  split
  · next rest hrev =>
    have : '\r' ∈ line.reverse := by simp [hrev]
    exact absurd (List.mem_reverse.mp this) h
  · rfl

theorem mem_of_mem_dropReturn {line : List Char} {c : Char} (h : c ∈ dropReturn line) :
    c ∈ line := by
  unfold dropReturn at h
  split at h
  · next rest hrev =>
    have hback : c ∈ line.reverse := hrev ▸ List.mem_cons_of_mem _ (List.mem_reverse.mp h)
    exact List.mem_reverse.mp hback
  · exact h

/-- No line holds an LF. -/
theorem noFeed_of_mem_lines {s line : String} (h : line ∈ lines s) : '\n' ∉ line.toList := by
  simp only [lines, linesList, List.map_map, List.mem_map] at h
  obtain ⟨piece, hpiece, rfl⟩ := h
  intro hmem
  rw [Function.comp_apply, String.toList_ofList] at hmem
  exact not_mem_of_mem_piecesList hpiece (mem_of_mem_dropReturn hmem)

/-- Texts without LF are the lines of what they are joined to, each without a CR at its end. -/
theorem lines_join_of_noFeed {ls : List String} (hne : ls ≠ []) (h : ∀ l ∈ ls, '\n' ∉ l.toList) :
    lines (join "\n" ls) = ls.map fun l => String.ofList (dropReturn l.toList) := by
  have hpieces : piecesList '\n' (join "\n" ls).toList = ls.map String.toList := by
    have hjoin : (join "\n" ls).toList = joinList '\n' (ls.map String.toList) := toList_join '\n' ls
    rw [hjoin]
    refine piecesList_joinList (by simpa using hne) ?_
    intro l hl
    obtain ⟨s, hs, rfl⟩ := List.mem_map.mp hl
    exact h s hs
  unfold lines linesList
  rw [hpieces, List.map_map, List.map_map]
  rfl

/-- Texts of one line are the lines of what they are joined to. -/
theorem lines_join {ls : List String} (hne : ls ≠ []) (h : ∀ l ∈ ls, OneLine l) :
    lines (join "\n" ls) = ls := by
  rw [lines_join_of_noFeed hne fun l hl => (h l hl).noFeed]
  have hid : ∀ l ∈ ls, String.ofList (dropReturn l.toList) = l := by
    intro l hl
    rw [dropReturn_of_not_mem (h l hl).noReturn, String.ofList_toList]
  exact (List.map_congr_left hid).trans (List.map_id ls)

/-- Behind a CR of its own, a text without LF is a line as it stands, even if it ends in a CR. -/
theorem lines_join_return {ls : List String} (hne : ls ≠ []) (h : ∀ l ∈ ls, '\n' ∉ l.toList) :
    lines (join "\n" (ls.map (· ++ "\r"))) = ls := by
  rw [lines_join_of_noFeed (by simpa using hne), List.map_map]
  · have hid : ∀ l ∈ ls, String.ofList (dropReturn (l ++ "\r").toList) = l := by
      intro l _
      have hlist : (l ++ "\r").toList = l.toList ++ ['\r'] := by simp
      rw [hlist, dropReturn_append_return, String.ofList_toList]
    exact (List.map_congr_left hid).trans (List.map_id ls)
  · intro line hline
    obtain ⟨l, hl, rfl⟩ := List.mem_map.mp hline
    simpa using h l hl

end Eligibility.Text
