import Eligibility.Proofs.Uri.Grammar
import Mathlib.Computability.Language
set_option autoImplicit false

/-!
# URIs: the rules of the generic syntax

The rules of RFC 3986 that derive a URI, as languages: a choice is a sum, a sequence
a product, a repetition a star.  They say nothing about how a text is read, and their
character classes are given by code points and marks.  Against them stands what the
recognisers decide: a text is taken for one of a path exactly if it is a row of what
the rules let stand in a path, and such a row is a path of segments, as the rules want
it, if it does not open with a slash.
-/

namespace Eligibility.Uri.Rule

open scoped Computability

/-! ## Rules -/

/-- The texts of one character with a code point in a range. -/
def range (lower upper : Nat) : Language Char :=
  {cs | ∃ c : Char, cs = [c] ∧ lower ≤ c.toNat ∧ c.toNat ≤ upper}

/-- The texts of one of the marks. -/
def oneOf (marks : String) : Language Char := {cs | ∃ c : Char, cs = [c] ∧ c ∈ marks.toList}

/-- The one text. -/
def literal (s : String) : Language Char := {s.toList}

/-- What may be left out. -/
def maybe (l : Language Char) : Language Char := 1 + l

/-- Up to `n` in a row. -/
def upTo (n : Nat) (l : Language Char) : Language Char := (maybe l) ^ n

/-- One or more in a row. -/
def atLeastOne (l : Language Char) : Language Char := l * l∗

def alpha : Language Char := range 0x41 0x5a + range 0x61 0x7a

def digit : Language Char := range 0x30 0x39

/-- A hex digit, in either case. -/
def hexDigit : Language Char := digit + range 0x41 0x46 + range 0x61 0x66

def unreserved : Language Char := alpha + digit + oneOf "-._~"

def subDelim : Language Char := oneOf "!$&\x27()*+,;="

def encoded : Language Char := literal "%" * hexDigit * hexDigit

def pchar : Language Char := unreserved + encoded + subDelim + oneOf ":@"

/-! ### Paths -/

def segment : Language Char := pchar∗

def filledSegment : Language Char := atLeastOne pchar

/-- Segments behind a slash each. -/
def moreSegments : Language Char := (literal "/" * segment)∗

def absolutePath : Language Char := literal "/" * maybe (filledSegment * moreSegments)

def rootlessPath : Language Char := filledSegment * moreSegments

/-! ### Authorities -/

def userInfo : Language Char := (unreserved + encoded + subDelim + literal ":")∗

/-- A number from 0 to 255 without leading zeros. -/
def byte : Language Char :=
  digit + range 0x31 0x39 * digit + literal "1" * digit ^ 2 +
    literal "2" * range 0x30 0x34 * digit + literal "25" * range 0x30 0x35

def ipv4 : Language Char :=
  byte * literal "." * byte * literal "." * byte * literal "." * byte

/-- Sixteen bits: one to four hex digits. -/
def group : Language Char := hexDigit * upTo 3 hexDigit

/-- A group in front of a colon. -/
def groupColon : Language Char := group * literal ":"

/-- The last thirty-two bits. -/
def lastGroups : Language Char := groupColon * group + ipv4

def ipv6 : Language Char :=
  groupColon ^ 6 * lastGroups +
  literal "::" * groupColon ^ 5 * lastGroups +
  maybe group * literal "::" * groupColon ^ 4 * lastGroups +
  maybe (upTo 1 groupColon * group) * literal "::" * groupColon ^ 3 * lastGroups +
  maybe (upTo 2 groupColon * group) * literal "::" * groupColon ^ 2 * lastGroups +
  maybe (upTo 3 groupColon * group) * literal "::" * groupColon * lastGroups +
  maybe (upTo 4 groupColon * group) * literal "::" * lastGroups +
  maybe (upTo 5 groupColon * group) * literal "::" * group +
  maybe (upTo 6 groupColon * group) * literal "::"

def ipFuture : Language Char :=
  oneOf "vV" * atLeastOne hexDigit * literal "." * atLeastOne (unreserved + subDelim + literal ":")

def ipLiteral : Language Char := literal "[" * (ipv6 + ipFuture) * literal "]"

def regName : Language Char := (unreserved + encoded + subDelim)∗

def host : Language Char := ipLiteral + ipv4 + regName

def port : Language Char := digit∗

def authority : Language Char :=
  maybe (userInfo * literal "@") * host * maybe (literal ":" * port)

/-! ### Whole URIs -/

def scheme : Language Char := alpha * (alpha + digit + oneOf "+-.")∗

/-- What follows the colon of a scheme, up to the query. -/
def hierPart : Language Char :=
  literal "//" * authority * moreSegments + absolutePath + rootlessPath + 1

/-- A query or a fragment. -/
def query : Language Char := (pchar + oneOf "/?")∗

def uri : Language Char :=
  scheme * literal ":" * hierPart * maybe (literal "?" * query) * maybe (literal "#" * query)

/-- The rule `resource` of EIP-4361: a line of a statement that names a resource. -/
def resource : Language Char := literal "- " * uri

/-- What may stand in a path. -/
def pathChar : Language Char := pchar + literal "/"

variable {c x : Char} {s : String} {cs ds : List Char} {p q : Char → Bool} {l m : Language Char}

/-! ## Repetition -/

theorem mem_literal : cs ∈ literal s ↔ cs = s.toList := Iff.rfl

theorem literal_append (s t : String) : literal (s ++ t) = literal s * literal t := by
  ext cs
  rw [Language.mem_mul]
  simp [mem_literal, eq_comm]

theorem mem_maybe : cs ∈ maybe l ↔ cs = [] ∨ cs ∈ l := Language.mem_add 1 l cs

/-- A repetition is nothing, or a text in front of a repetition. -/
theorem kstar_eq (l : Language Char) : l∗ = maybe (atLeastOne l) :=
  (Language.one_add_self_mul_kstar_eq_kstar l).symm

theorem append_mem_kstar (hc : cs ∈ l) (hd : ds ∈ l∗) : cs ++ ds ∈ l∗ := by
  rw [kstar_eq]
  exact mem_maybe.mpr (.inr (Language.append_mem_mul hc hd))

/-- Texts that are not empty, one or more in a row, are a row of them that is not empty. -/
theorem mem_atLeastOne (h : [] ∉ l) : cs ∈ atLeastOne l ↔ cs ≠ [] ∧ cs ∈ l∗ := by
  rw [kstar_eq, mem_maybe]
  constructor
  · intro hcs
    refine ⟨?_, .inr hcs⟩
    rintro rfl
    obtain ⟨as, has, bs, -, happend⟩ := Language.mem_mul.mp hcs
    obtain ⟨rfl, -⟩ := List.append_eq_nil_iff.mp happend
    exact h has
  · rintro ⟨hne, hnil | hcs⟩
    · exact absurd hnil hne
    · exact hcs

/-- A row of parts of two kinds is rows of the first kind with a part of the second between them. -/
theorem kstar_add (l m : Language Char) : (l + m)∗ = l∗ * (m * l∗)∗ := by
  have hl : l ≤ l + m := le_add_of_nonneg_right bot_le
  have hm : m ≤ l + m := le_add_of_nonneg_left bot_le
  apply le_antisymm
  · -- The right side has the empty row and takes a further part of either kind in front.
    apply kstar_le_of_mul_le_right
    · calc (1 : Language Char) = 1 * 1 := (mul_one 1).symm
        _ ≤ l∗ * (m * l∗)∗ := mul_le_mul' one_le_kstar one_le_kstar
    · rw [add_mul, ← mul_assoc, ← mul_assoc]
      apply add_le
      · exact mul_le_mul_left mul_kstar_le_kstar _
      · calc m * l∗ * (m * l∗)∗ ≤ (m * l∗)∗ := mul_kstar_le_kstar
          _ = 1 * (m * l∗)∗ := (one_mul _).symm
          _ ≤ l∗ * (m * l∗)∗ := mul_le_mul_left one_le_kstar _
  · have hstep : m * l∗ ≤ (l + m)∗ :=
      calc m * l∗ ≤ (l + m) * (l + m)∗ := mul_le_mul' hm (kstar_mono hl)
        _ ≤ (l + m)∗ := mul_kstar_le_kstar
    calc l∗ * (m * l∗)∗ ≤ (l + m)∗ * (l + m)∗∗ := mul_le_mul' (kstar_mono hl) (kstar_mono hstep)
      _ = (l + m)∗ := by rw [kstar_idem, kstar_mul_kstar]

/-- A path without a slash in front is a row of whatever may stand in a path, whose first one is no
slash: the slashes cut it into segments. -/
theorem rootlessPath_eq : rootlessPath = pchar * pathChar∗ := by
  unfold rootlessPath filledSegment moreSegments segment atLeastOne pathChar
  rw [kstar_add, mul_assoc]

/-! ## Classes -/

/-- The rule derives the characters of the class, one at a time. -/
def IsClass (p : Char → Bool) (l : Language Char) : Prop :=
  ∀ cs, cs ∈ l ↔ ∃ c, cs = [c] ∧ p c = true

namespace IsClass

theorem mem (h : IsClass p l) (hc : p c = true) : [c] ∈ l := (h [c]).mpr ⟨c, rfl, hc⟩

theorem nil_not_mem (h : IsClass p l) : [] ∉ l := by
  intro hnil
  obtain ⟨c, hc, -⟩ := (h []).mp hnil
  simp at hc

theorem cons_mem (h : IsClass p l) : c :: cs ∈ l ↔ p c = true ∧ cs = [] := by
  rw [h (c :: cs)]
  constructor
  · rintro ⟨d, hd, hp⟩
    obtain ⟨rfl, rfl⟩ := List.cons.inj hd
    exact ⟨hp, rfl⟩
  · rintro ⟨hp, rfl⟩
    exact ⟨c, rfl, hp⟩

theorem mem_mul (h : IsClass p l) :
    cs ∈ l * m ↔ ∃ c rest, cs = c :: rest ∧ p c = true ∧ rest ∈ m := by
  rw [Language.mem_mul]
  constructor
  · rintro ⟨_, hfront, rest, hrest, rfl⟩
    obtain ⟨c, rfl, hc⟩ := (h _).mp hfront
    exact ⟨c, rest, rfl, hc, hrest⟩
  · rintro ⟨c, rest, rfl, hc, hrest⟩
    exact ⟨[c], h.mem hc, rest, hrest, rfl⟩

theorem cons_mem_mul (h : IsClass p l) : c :: cs ∈ l * m ↔ p c = true ∧ cs ∈ m := by
  rw [h.mem_mul]
  simp

theorem nil_not_mem_mul (h : IsClass p l) : [] ∉ l * m := by
  rw [h.mem_mul]
  simp

theorem add (hp : IsClass p l) (hq : IsClass q m) : IsClass (fun c => p c || q c) (l + m) := by
  intro cs
  rw [Language.mem_add, hp cs, hq cs]
  simp only [Bool.or_eq_true, and_or_left, exists_or]

theorem congr (hp : IsClass p l) (h : ∀ c, p c = true ↔ q c = true) : IsClass q l := by
  intro cs
  simp only [hp cs, h]

theorem range (lower upper : Nat) :
    IsClass (fun c => decide (lower ≤ c.toNat ∧ c.toNat ≤ upper)) (range lower upper) := by
  intro cs
  simp only [decide_eq_true_eq]
  rfl

theorem oneOf (marks : String) : IsClass (fun c => marks.toList.contains c) (oneOf marks) := by
  intro cs
  simp only [List.contains_iff_mem]
  rfl

theorem literal (hs : s.toList = [x]) : IsClass (· == x) (literal s) := by
  intro cs
  simp [mem_literal, hs]

end IsClass

theorem isClass_alpha : IsClass isLetter alpha := by
  apply ((IsClass.range _ _).add (.range _ _)).congr
  intro c
  simp only [isLetter, Bool.or_eq_true, Bool.and_eq_true, decide_eq_true_eq, Char.le_def,
    UInt32.le_iff_toNat_le, Char.toNat, Char.reduceVal, UInt32.reduceToNat]
  exact Or.comm

theorem isClass_digit : IsClass Char.isDigit digit := by
  apply (IsClass.range _ _).congr
  intro c
  simp only [Char.isDigit, Bool.and_eq_true, decide_eq_true_eq, ge_iff_le, UInt32.le_iff_toNat_le,
    Char.toNat, UInt32.reduceToNat, Char.reduceVal]

theorem isClass_hexDigit : IsClass Text.isHexDigit hexDigit := by
  apply ((isClass_digit.add (.range _ _)).add (.range _ _)).congr
  intro c
  simp only [Char.isDigit, Text.isHexDigit, Text.hexValue?, Bool.or_eq_true, Bool.and_eq_true,
    decide_eq_true_eq, ge_iff_le, UInt32.le_iff_toNat_le, Char.toNat, UInt32.reduceToNat,
    Char.reduceVal]
  grind

theorem isClass_unreserved : IsClass isUnreserved unreserved := by
  apply ((isClass_alpha.add isClass_digit).add (.oneOf _)).congr
  intro c
  simp [isUnreserved, or_assoc]

theorem isClass_subDelim : IsClass isSubDelim subDelim := by
  apply (IsClass.oneOf _).congr
  intro c
  simp [isSubDelim, or_assoc]

/-- What stands for itself in a segment. -/
def bare : Language Char := unreserved + subDelim + oneOf ":@"

theorem isClass_bare : IsClass isSegmentChar bare := by
  apply ((isClass_unreserved.add isClass_subDelim).add (.oneOf _)).congr
  intro c
  simp [isSegmentChar, or_assoc]

theorem isClass_bare_add_slash : IsClass isPathChar (bare + literal "/") :=
  isClass_bare.add (.literal rfl)

theorem pchar_eq : pchar = bare + encoded := by
  unfold pchar bare
  ac_rfl

theorem pathChar_eq : pathChar = bare + literal "/" + encoded := by
  unfold pathChar
  rw [pchar_eq]
  ac_rfl

/-! ## Texts of a class -/

theorem mem_encoded : cs ∈ encoded ↔
    ∃ a b, cs = ['%', a, b] ∧ Text.isHexDigit a = true ∧ Text.isHexDigit b = true := by
  unfold encoded
  constructor
  · intro h
    obtain ⟨_, hmarked, _, hsecond, rfl⟩ := Language.mem_mul.mp h
    obtain ⟨_, hmark, _, hfirst, rfl⟩ := Language.mem_mul.mp hmarked
    obtain rfl := mem_literal.mp hmark
    obtain ⟨a, rfl, ha⟩ := (isClass_hexDigit _).mp hfirst
    obtain ⟨b, rfl, hb⟩ := (isClass_hexDigit _).mp hsecond
    exact ⟨a, b, by simp, ha, hb⟩
  · rintro ⟨a, b, rfl, ha, hb⟩
    exact Language.append_mem_mul (Language.append_mem_mul (mem_literal.mpr rfl)
      (isClass_hexDigit.mem ha)) (isClass_hexDigit.mem hb)

/-- What the rules derive for a class, a character of it or a triplet, is a text of the class. -/
theorem IsClass.allEncoded_of_mem (h : IsClass p l) (hpercent : p '%' = false)
    (hcs : cs ∈ l + encoded) : allEncoded p cs = true := by
  rcases (Language.mem_add l encoded cs).mp hcs with hchar | htriplet
  · obtain ⟨c, rfl, hc⟩ := (h cs).mp hchar
    apply allEncoded_of_forall
    intro d hd
    obtain rfl := List.mem_singleton.mp hd
    refine ⟨?_, hc⟩
    rintro rfl
    simp [hpercent] at hc
  · obtain ⟨a, b, rfl, ha, hb⟩ := mem_encoded.mp htriplet
    simp [allEncoded, ha, hb]

/-- The texts of a class, triplets included, are the rows of what the rules derive for it. -/
theorem IsClass.allEncoded_iff (h : IsClass p l) (hpercent : p '%' = false) :
    allEncoded p cs = true ↔ cs ∈ (l + encoded)∗ := by
  constructor
  · intro hcs
    fun_induction allEncoded p cs with
    | case1 => exact Language.nil_mem_kstar _
    | case2 a b rest ih =>
      simp only [Bool.and_eq_true] at hcs
      obtain ⟨⟨ha, hb⟩, hrest⟩ := hcs
      have htriplet := mem_encoded.mpr ⟨a, b, rfl, ha, hb⟩
      exact append_mem_kstar ((Language.mem_add l encoded _).mpr (.inr htriplet)) (ih hrest)
    | case3 c rest _ ih =>
      simp only [Bool.and_eq_true] at hcs
      obtain ⟨⟨-, hc⟩, hrest⟩ := hcs
      exact append_mem_kstar ((Language.mem_add l encoded _).mpr (.inl (h.mem hc))) (ih hrest)
  · rw [Language.mem_kstar]
    rintro ⟨parts, rfl, hparts⟩
    induction parts with
    | nil => rfl
    | cons part rest ih =>
      have hrest := ih fun k hk => hparts k (List.mem_cons_of_mem part hk)
      exact allEncoded_append (h.allEncoded_of_mem hpercent (hparts part List.mem_cons_self)) hrest

/-- The texts of a class without triplets are the rows of what the rule derives. -/
theorem IsClass.all_iff (h : IsClass p l) : cs.all p = true ↔ cs ∈ l∗ := by
  constructor
  · intro hcs
    induction cs with
    | nil => exact Language.nil_mem_kstar l
    | cons c rest ih =>
      simp only [List.all_cons, Bool.and_eq_true] at hcs
      exact append_mem_kstar (h.mem hcs.1) (ih hcs.2)
  · rw [Language.mem_kstar]
    rintro ⟨parts, rfl, hparts⟩
    simp only [List.all_eq_true, List.mem_flatten]
    rintro d ⟨part, hpart, hd⟩
    obtain ⟨c, rfl, hc⟩ := (h part).mp (hparts part hpart)
    obtain rfl := List.mem_singleton.mp hd
    exact hc

theorem allEncoded_iff_mem_pathChar : allEncoded isPathChar cs = true ↔ cs ∈ pathChar∗ := by
  rw [pathChar_eq]
  exact isClass_bare_add_slash.allEncoded_iff (by decide)

theorem nil_not_mem_pathChar : [] ∉ pathChar := by
  rw [pathChar_eq, Language.mem_add, not_or]
  refine ⟨isClass_bare_add_slash.nil_not_mem, ?_⟩
  intro h
  obtain ⟨a, b, hempty, -, -⟩ := mem_encoded.mp h
  simp at hempty

/-- A text is taken for one of a path exactly if it is a row of what may stand in a path. -/
theorem isPathText_iff_mem_pathChar {s : String} :
    isPathText s = true ↔ s.toList ∈ atLeastOne pathChar := by
  rw [mem_atLeastOne nil_not_mem_pathChar, ← allEncoded_iff_mem_pathChar]
  simp [isPathText]

end Eligibility.Uri.Rule
