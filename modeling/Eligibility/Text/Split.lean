set_option autoImplicit false

/-!
# Text: cutting at a separator

Everything here works on the list of characters of a text and recurses on that
list.  `pieces` cuts at every separator, `cutAt` at the first one, `after?`
takes a leading text off.  The main statement is `join_pieces`: joining the
pieces with the separator gives the text back.
-/

namespace Eligibility.Text

/-- The pieces between the separators; there is always at least one. -/
def piecesList (sep : Char) : List Char → List (List Char)
  | [] => [[]]
  | c :: cs =>
    if c = sep then [] :: piecesList sep cs
    else match piecesList sep cs with
      | [] => [[c]]
      | piece :: rest => (c :: piece) :: rest

/-- The pieces of a text between the separators. -/
def pieces (sep : Char) (s : String) : List String :=
  (piecesList sep s.toList).map String.ofList

/-- The part before the first separator and, if there is one, the part after it. -/
def cutAtList (sep : Char) : List Char → List Char × Option (List Char)
  | [] => ([], none)
  | c :: cs =>
    if c = sep then ([], some cs)
    else
      let (before, rest) := cutAtList sep cs
      (c :: before, rest)

/-- The part of a text before the first separator and, if there is one, the part after it. -/
def cutAt (sep : Char) (s : String) : String × Option String :=
  let (before, rest) := cutAtList sep s.toList
  (String.ofList before, rest.map String.ofList)

/-- The part before the last separator, if there is one, and the part after it. -/
def cutAtLastList (sep : Char) (cs : List Char) : Option (List Char) × List Char :=
  let (tail, head) := cutAtList sep cs.reverse
  (head.map List.reverse, tail.reverse)

/-- What follows `lead`, if the characters start with it. -/
def afterList? : (lead : List Char) → List Char → Option (List Char)
  | [], cs => some cs
  | _ :: _, [] => none
  | a :: lead, c :: cs => if a = c then afterList? lead cs else none

/-- What follows `lead`, if the text starts with it. -/
def after? (lead s : String) : Option String :=
  (afterList? lead.toList s.toList).map String.ofList

/-- The characters before the first occurrence of `mark` and those after it. -/
def cutAtTextList (mark : List Char) : List Char → Option (List Char × List Char)
  | [] => if mark.isEmpty then some ([], []) else none
  | c :: cs =>
    match afterList? mark (c :: cs) with
    | some rest => some ([], rest)
    | none => (cutAtTextList mark cs).map fun (before, rest) => (c :: before, rest)

/-- The texts one after another with `sep` between them. -/
def join (sep : String) : List String → String
  | [] => ""
  | [s] => s
  | s :: rest => s ++ sep ++ join sep rest

/-- The lists one after another with `sep` between them. -/
def joinList (sep : Char) : List (List Char) → List Char
  | [] => []
  | [s] => s
  | s :: rest => s ++ sep :: joinList sep rest

theorem piecesList_ne_nil (sep : Char) (cs : List Char) : piecesList sep cs ≠ [] := by
  cases cs with
  | nil => simp [piecesList]
  | cons c cs =>
    unfold piecesList
    split
    · simp
    · split <;> simp

/-- Joining the pieces gives the text back. -/
theorem joinList_piecesList (sep : Char) (cs : List Char) :
    joinList sep (piecesList sep cs) = cs := by
  induction cs with
  | nil => rfl
  | cons c cs ih =>
    unfold piecesList
    split
    · next h =>
      subst h
      cases hp : piecesList c cs with
      | nil => exact absurd hp (piecesList_ne_nil c cs)
      | cons p rest => rw [hp] at ih; simp [joinList, ih]
    · split
      · next hp => exact absurd hp (piecesList_ne_nil sep cs)
      · next piece rest hp =>
        rw [hp] at ih
        cases rest with
        | nil => simpa [joinList] using ih
        | cons q rest => simp only [joinList, List.cons_append] at ih ⊢; rw [ih]

theorem afterList?_eq_some {lead cs rest : List Char} :
    afterList? lead cs = some rest ↔ cs = lead ++ rest := by
  induction lead generalizing cs with
  | nil => simp [afterList?]
  | cons a lead ih =>
    cases cs with
    | nil => simp [afterList?]
    | cons c cs =>
      by_cases h : a = c
      · simp [afterList?, h, ih]
      · simp [afterList?, h, Ne.symm h]

theorem after?_eq_some {lead s rest : String} :
    after? lead s = some rest ↔ s = lead ++ rest := by
  unfold after?
  rw [Option.map_eq_some_iff]
  constructor
  · rintro ⟨r, h, rfl⟩
    rw [afterList?_eq_some] at h
    apply String.toList_inj.mp
    simp [h]
  · rintro rfl
    exact ⟨rest.toList, by rw [afterList?_eq_some]; simp, by simp⟩

end Eligibility.Text
