import Eligibility.Proofs.Text.Lines
import Eligibility.Proofs.Uri.Rules
set_option autoImplicit false

/-!
# URIs: where a rule cuts its texts

A rule says which parts follow each other, and a recogniser cuts a text first and then
looks at the pieces.  Both mean the same parts where the first part cannot hold the
character at which the text is cut.
-/

namespace Eligibility.Uri.Rule

open scoped Computability

variable {x : Char} {s : String} {cs : List Char} {p : Char → Bool} {l m : Language Char}

/-! ## Characters that a rule does not use -/

/-- No text of the rule holds the character. -/
def Lacks (x : Char) (l : Language Char) : Prop := ∀ cs ∈ l, x ∉ cs

namespace Lacks

theorem literal (h : x ∉ s.toList) : Lacks x (literal s) := by
  intro cs hcs
  obtain rfl := mem_literal.mp hcs
  exact h

theorem one : Lacks x 1 := by
  intro cs hcs
  obtain rfl := (Language.mem_one cs).mp hcs
  exact List.not_mem_nil

theorem add (hl : Lacks x l) (hm : Lacks x m) : Lacks x (l + m) := by
  intro cs hcs
  rcases (Language.mem_add l m cs).mp hcs with hcs | hcs
  · exact hl cs hcs
  · exact hm cs hcs

theorem mul (hl : Lacks x l) (hm : Lacks x m) : Lacks x (l * m) := by
  intro cs hcs
  obtain ⟨as, has, bs, hbs, rfl⟩ := Language.mem_mul.mp hcs
  rw [List.mem_append, not_or]
  exact ⟨hl as has, hm bs hbs⟩

theorem kstar (h : Lacks x l) : Lacks x l∗ := by
  intro cs hcs
  obtain ⟨parts, rfl, hparts⟩ := Language.mem_kstar.mp hcs
  intro hmem
  obtain ⟨part, hpart, hx⟩ := List.mem_flatten.mp hmem
  exact h part (hparts part hpart) hx

theorem maybe (h : Lacks x l) : Lacks x (maybe l) := one.add h

theorem atLeastOne (h : Lacks x l) : Lacks x (atLeastOne l) := h.mul h.kstar

theorem pow (h : Lacks x l) (n : Nat) : Lacks x (l ^ n) := by
  induction n with
  | zero =>
    rw [pow_zero]
    exact one
  | succ n ih =>
    rw [pow_succ]
    exact ih.mul h

theorem upTo (h : Lacks x l) (n : Nat) : Lacks x (upTo n l) := h.maybe.pow n

end Lacks

theorem IsClass.lacks (h : IsClass p l) (hx : p x = false) : Lacks x l := by
  intro cs hcs hmem
  obtain ⟨c, rfl, hc⟩ := (h cs).mp hcs
  obtain rfl := List.mem_singleton.mp hmem
  simp [hx] at hc

/-! ## Cuts -/

/-- The two parts stand in front of the first separator and behind it. -/
theorem mem_cut (hs : s.toList = [x]) (hl : Lacks x l) : cs ∈ l * literal s * m ↔
    (Text.cutAtList x cs).1 ∈ l ∧ ∃ after ∈ (Text.cutAtList x cs).2, after ∈ m := by
  constructor
  · intro h
    obtain ⟨_, hfront, after, hafter, rfl⟩ := Language.mem_mul.mp h
    obtain ⟨before, hbefore, _, hmark, rfl⟩ := Language.mem_mul.mp hfront
    obtain rfl := mem_literal.mp hmark
    rw [hs, List.append_assoc, List.singleton_append, Text.cutAtList_append (hl before hbefore)]
    exact ⟨hbefore, after, rfl, hafter⟩
  · rintro ⟨hbefore, after, hsome, hafter⟩
    obtain ⟨-, hcs⟩ := Text.cutAtList_eq_some.mp (Prod.ext rfl hsome)
    have hmark : [x] ∈ literal s := mem_literal.mpr hs.symm
    have hwhole := Language.append_mem_mul (Language.append_mem_mul hbefore hmark) hafter
    rwa [List.append_assoc, List.singleton_append, ← hcs] at hwhole

/-- A last part that may be missing starts at the first separator. -/
theorem mem_cut_last (hs : s.toList = [x]) (hl : Lacks x l) :
    cs ∈ l * maybe (literal s * m) ↔
      (Text.cutAtList x cs).1 ∈ l ∧ ∀ after ∈ (Text.cutAtList x cs).2, after ∈ m := by
  unfold maybe
  rw [mul_add, mul_one, ← mul_assoc, Language.mem_add, mem_cut hs hl]
  rcases hcut : Text.cutAtList x cs with ⟨before, _ | after⟩
  · obtain ⟨-, rfl⟩ := Text.cutAtList_eq_none.mp hcut
    simp
  · have hmem : x ∈ cs := by
      rw [(Text.cutAtList_eq_some.mp hcut).2]
      simp
    have hcs : cs ∉ l := fun h => hl cs h hmem
    simp [hcs]

/-- A first part that may be missing ends at the first separator, if there is one. -/
theorem mem_cut_first (hs : s.toList = [x]) (hl : Lacks x l) (hm : Lacks x m) :
    cs ∈ maybe (l * literal s) * m ↔
      ((Text.cutAtList x cs).1 ∈ l ∧ ∃ after ∈ (Text.cutAtList x cs).2, after ∈ m) ∨
        (Text.cutAtList x cs).2 = none ∧ cs ∈ m := by
  unfold maybe
  rw [add_mul, one_mul, Language.mem_add, mem_cut hs hl, or_comm]
  rcases hcut : Text.cutAtList x cs with ⟨before, _ | after⟩
  · simp
  · have hmem : x ∈ cs := by
      rw [(Text.cutAtList_eq_some.mp hcut).2]
      simp
    have hcs : cs ∉ m := fun h => hm cs h hmem
    simp [hcs]

/-- The texts of the rule are empty or open with the character. -/
def Opens (x : Char) (l : Language Char) : Prop := ∀ cs ∈ l, ∀ c ∈ cs.head?, c = x

theorem takeWhile_ne {before after : List Char} (hb : x ∉ before) (ha : ∀ c ∈ after.head?, c = x) :
    (before ++ after).takeWhile (· != x) = before ∧
      (before ++ after).dropWhile (· != x) = after := by
  induction before with
  | nil =>
    cases after with
    | nil => exact ⟨rfl, rfl⟩
    | cons c rest =>
      obtain rfl : c = x := ha c rfl
      simp
  | cons c before ih =>
    simp only [List.mem_cons, not_or] at hb
    obtain ⟨htake, hdrop⟩ := ih hb.2
    have hc : (c != x) = true := bne_iff_ne.mpr (Ne.symm hb.1)
    simp [hc, htake, hdrop]

theorem opens_dropWhile (x : Char) (cs : List Char) :
    ∀ c ∈ (cs.dropWhile (· != x)).head?, c = x := by
  induction cs with
  | nil => simp
  | cons d rest ih =>
    by_cases hd : d = x
    · simp [hd]
    · simpa [hd] using ih

/-- A second part that opens with a separator, if it is not empty, starts at the first one. -/
theorem mem_takeWhile (hl : Lacks x l) (hm : Opens x m) : cs ∈ l * m ↔
    cs.takeWhile (· != x) ∈ l ∧ cs.dropWhile (· != x) ∈ m := by
  constructor
  · intro h
    obtain ⟨before, hbefore, after, hafter, rfl⟩ := Language.mem_mul.mp h
    obtain ⟨htake, hdrop⟩ := takeWhile_ne (hl before hbefore) (hm after hafter)
    rw [htake, hdrop]
    exact ⟨hbefore, hafter⟩
  · rintro ⟨hbefore, hafter⟩
    have hwhole := Language.append_mem_mul hbefore hafter
    rwa [List.takeWhile_append_dropWhile] at hwhole

/-! ## Rows -/

/-- A cut at a separator cuts the pieces in two. -/
theorem piecesList_append_cons (before after : List Char) :
    Text.piecesList x (before ++ x :: after) =
      Text.piecesList x before ++ Text.piecesList x after := by
  induction before with
  | nil => simp [Text.piecesList]
  | cons c before ih =>
    by_cases hc : c = x
    · simp [Text.piecesList, hc, ih]
    · obtain ⟨front, rest, hpieces⟩ := List.exists_cons_of_ne_nil (Text.piecesList_ne_nil x before)
      simp [Text.piecesList, hc, ih, hpieces]

/-- A row of parts with a separator behind each, and a last part. -/
theorem mem_row (hs : s.toList = [x]) (hl : Lacks x l) (hm : Lacks x m) {n : Nat} :
    cs ∈ (l * literal s) ^ n * m ↔ ∃ parts last, Text.piecesList x cs = parts ++ [last] ∧
      parts.length = n ∧ (∀ part ∈ parts, part ∈ l) ∧ last ∈ m := by
  induction n generalizing cs with
  | zero =>
    rw [pow_zero, one_mul]
    constructor
    · intro h
      exact ⟨[], cs, Text.piecesList_of_not_mem (hm cs h), rfl, by simp, h⟩
    · rintro ⟨parts, last, hpieces, hlength, -, hlast⟩
      obtain rfl := List.length_eq_zero_iff.mp hlength
      have hcs := Text.joinList_piecesList x cs
      rw [hpieces] at hcs
      exact hcs ▸ hlast
  | succ n ih =>
    rw [pow_succ', mul_assoc, mem_cut hs hl]
    constructor
    · rintro ⟨hbefore, after, hsome, hafter⟩
      obtain ⟨hnone, hcs⟩ := Text.cutAtList_eq_some.mp (Prod.ext rfl hsome)
      obtain ⟨parts, last, hpieces, hlength, hparts, hlast⟩ := ih.mp hafter
      refine ⟨(Text.cutAtList x cs).1 :: parts, last, ?_, by simp [hlength], ?_, hlast⟩
      · rw [List.cons_append, ← hpieces, ← Text.piecesList_append hnone, ← hcs]
      · intro part hpart
        rcases List.mem_cons.mp hpart with rfl | hpart
        · exact hbefore
        · exact hparts part hpart
    · rintro ⟨parts, last, hpieces, hlength, hparts, hlast⟩
      obtain ⟨before, parts, rfl⟩ := List.exists_cons_of_length_eq_add_one hlength
      have hbefore : before ∈ l := hparts before List.mem_cons_self
      have hnone := hl before hbefore
      obtain ⟨after, rfl⟩ : ∃ after, cs = before ++ x :: after := by
        obtain ⟨next, rest, hnext⟩ := List.exists_cons_of_ne_nil (List.concat_ne_nil last parts)
        have hcs := Text.joinList_piecesList x cs
        rw [hpieces, List.cons_append, hnext] at hcs
        exact ⟨_, hcs.symm⟩
      rw [Text.piecesList_append hnone, List.cons_append] at hpieces
      rw [Text.cutAtList_append hnone]
      refine ⟨hbefore, after, rfl, ih.mpr ?_⟩
      refine ⟨parts, last, (List.cons.inj hpieces).2, by simpa using hlength, ?_, hlast⟩
      exact fun part hpart => hparts part (List.mem_cons_of_mem before hpart)

/-- A row of parts of one kind is cut into them. -/
theorem mem_row_self (hs : s.toList = [x]) (hl : Lacks x l) {n : Nat} :
    cs ∈ (l * literal s) ^ n * l ↔ (Text.piecesList x cs).length = n + 1 ∧
      ∀ part ∈ Text.piecesList x cs, part ∈ l := by
  rw [mem_row hs hl hl]
  constructor
  · rintro ⟨parts, last, hpieces, hlength, hparts, hlast⟩
    rw [hpieces]
    refine ⟨by simp [hlength], ?_⟩
    intro part hpart
    rcases List.mem_append.mp hpart with hpart | hpart
    · exact hparts part hpart
    · exact List.mem_singleton.mp hpart ▸ hlast
  · rintro ⟨hlength, hall⟩
    have hne := Text.piecesList_ne_nil x cs
    refine ⟨_, _, (List.dropLast_concat_getLast hne).symm, by simp [hlength], ?_, ?_⟩
    · exact fun part hpart => hall part (List.mem_of_mem_dropLast hpart)
    · exact hall _ (List.getLast_mem hne)

end Eligibility.Uri.Rule
