import Eligibility.Proofs.Uri.Parts
set_option autoImplicit false

/-!
# URIs: addresses

The recognisers of addresses decide the rules of addresses.  An IPv4 address is a row of
four bytes.  An IPv6 address is a row of eight groups, or two rows with a gap between
them that stands for one group at least, and the last two groups may be written as an
IPv4 address.
-/

namespace Eligibility.Uri.Rule

open scoped Computability

variable {x c : Char} {s : String} {cs : List Char} {p : Char → Bool} {l m : Language Char}

/-! ## Bytes -/

theorem isDigit_iff : c.isDigit = true ↔ 0x30 ≤ c.toNat ∧ c.toNat ≤ 0x39 := by
  have h := (isClass_digit [c]).symm.trans (IsClass.range 0x30 0x39 [c])
  simpa using h

/-- The bytes by the number of their digits. -/
theorem mem_byte : cs ∈ byte ↔ cs ∈ digit ∨ cs ∈ range 0x31 0x39 * digit ∨
    cs ∈ literal "1" * (digit * digit) ∨ cs ∈ literal "2" * (range 0x30 0x34 * digit) ∨
      cs ∈ literal "2" * (literal "5" * range 0x30 0x35) := by
  have htwentyfive : literal "25" = literal "2" * literal "5" := literal_append "2" "5"
  unfold byte
  simp only [htwentyfive, pow_two, mul_assoc, Language.mem_add, or_assoc]

theorem isByteText_iff_mem_byte : isByteText cs = true ↔ cs ∈ byte := by
  have hdigit : IsClass _ digit := .range 0x30 0x39
  have hlead : IsClass _ (range 0x31 0x39) := .range _ _
  have hlow : IsClass _ (range 0x30 0x34) := .range _ _
  have hlast : IsClass _ (range 0x30 0x35) := .range _ _
  have hone : IsClass (· == '1') (literal "1") := .literal rfl
  have htwo : IsClass (· == '2') (literal "2") := .literal rfl
  have hfive : IsClass (· == '5') (literal "5") := .literal rfl
  rw [mem_byte]
  -- No byte has more than three digits.
  rcases cs with _ | ⟨a, _ | ⟨b, _ | ⟨c, _ | ⟨d, rest⟩⟩⟩⟩
  · simp only [hdigit.nil_not_mem, hlead.nil_not_mem_mul, hone.nil_not_mem_mul,
      htwo.nil_not_mem_mul]
    simp [isByteText]
  all_goals
    simp only [hdigit.cons_mem, hlast.cons_mem, hdigit.cons_mem_mul, hlead.cons_mem_mul,
      hlow.cons_mem_mul, hone.cons_mem_mul, htwo.cons_mem_mul, hfive.cons_mem_mul,
      hdigit.nil_not_mem, hlast.nil_not_mem, hdigit.nil_not_mem_mul, hlow.nil_not_mem_mul,
      hfive.nil_not_mem_mul]
    simp [isByteText, isDigit_iff, Nat.ofDigitChars_cons, ← Char.toNat_inj]
  · omega
  · omega
  · omega

theorem lacks_byte (hx : x.isDigit = false) : Lacks x byte := by
  intro cs hcs hmem
  have hbyte := isByteText_iff_mem_byte.mpr hcs
  simp only [isByteText, Bool.and_eq_true] at hbyte
  have hdigit := List.all_eq_true.mp hbyte.1.1.2 x hmem
  simp [hx] at hdigit

/-! ## IPv4 addresses -/

theorem ipv4_eq : ipv4 = (byte * literal ".") ^ 3 * byte := by
  unfold ipv4
  simp only [pow_succ, pow_zero, one_mul, mul_assoc]

theorem isIpv4_iff_mem_ipv4 : isIpv4 cs = true ↔ cs ∈ ipv4 := by
  have hdot : ".".toList = ['.'] := rfl
  rw [ipv4_eq, mem_row_self hdot (lacks_byte (by decide))]
  simp only [isIpv4, Bool.and_eq_true, beq_iff_eq, List.all_eq_true, isByteText_iff_mem_byte]

theorem lacks_ipv4 (hdot : x ≠ '.') (hx : x.isDigit = false) : Lacks x ipv4 := by
  have hbyte : Lacks x byte := lacks_byte hx
  have hmark : Lacks x (literal ".") := .literal (by simpa using hdot)
  rw [ipv4_eq]
  exact ((hbyte.mul hmark).pow 3).mul hbyte

/-! ## Groups -/

theorem mem_upTo {n : Nat} : cs ∈ upTo n l ↔ ∃ k ≤ n, cs ∈ l ^ k := by
  unfold upTo
  induction n generalizing cs with
  | zero => simp
  | succ n ih =>
    have hsplit : maybe l ^ (n + 1) = maybe l ^ n + l * maybe l ^ n := by
      unfold maybe
      rw [pow_succ', add_mul, one_mul]
    rw [hsplit, Language.mem_add, ih, Language.mem_mul]
    constructor
    · rintro (⟨k, hk, hcs⟩ | ⟨front, hfront, rest, hrest, rfl⟩)
      · exact ⟨k, Nat.le_succ_of_le hk, hcs⟩
      · obtain ⟨k, hk, hrest⟩ := ih.mp hrest
        refine ⟨k + 1, Nat.succ_le_succ hk, ?_⟩
        rw [pow_succ']
        exact Language.append_mem_mul hfront hrest
    · rintro ⟨k, hk, hcs⟩
      cases k with
      | zero => exact .inl ⟨0, Nat.zero_le n, hcs⟩
      | succ k =>
        rw [pow_succ'] at hcs
        obtain ⟨front, hfront, rest, hrest, rfl⟩ := Language.mem_mul.mp hcs
        exact .inr ⟨front, hfront, rest, ih.mpr ⟨k, Nat.le_of_succ_le_succ hk, hrest⟩, rfl⟩

theorem IsClass.mem_pow (h : IsClass p l) {n : Nat} :
    cs ∈ l ^ n ↔ cs.length = n ∧ cs.all p = true := by
  induction n generalizing cs with
  | zero =>
    rw [pow_zero, Language.mem_one, List.length_eq_zero_iff]
    constructor
    · rintro rfl
      exact ⟨rfl, rfl⟩
    · exact fun h => h.1
  | succ n ih =>
    rw [pow_succ']
    cases cs with
    | nil => simp [h.nil_not_mem_mul]
    | cons c rest =>
      rw [h.cons_mem_mul, ih]
      simp
      tauto

theorem isGroup_iff_mem_group : isGroup cs = true ↔ cs ∈ group := by
  unfold group
  cases cs with
  | nil => simp [isGroup, isClass_hexDigit.nil_not_mem_mul]
  | cons c rest =>
    have hlength : (c :: rest).length ≤ 4 ↔ rest.length ≤ 3 := Nat.succ_le_succ_iff
    simp only [isGroup, hlength, isClass_hexDigit.cons_mem_mul, mem_upTo, isClass_hexDigit.mem_pow]
    simp [and_left_comm]

theorem lacks_group (hx : Text.isHexDigit x = false) : Lacks x group :=
  (isClass_hexDigit.lacks hx).mul ((isClass_hexDigit.lacks hx).upTo 3)

theorem nil_not_mem_group : [] ∉ group := isClass_hexDigit.nil_not_mem_mul

theorem not_mem_group_of_mem_ipv4 (h : cs ∈ ipv4) : cs ∉ group := by
  intro hgroup
  have hlength := isIpv4_iff_mem_ipv4.mpr h
  rw [isIpv4, Text.piecesList_of_not_mem (lacks_group (by decide) cs hgroup)] at hlength
  simp at hlength

/-- Groups are counted as the rules write them. -/
theorem groupCount?_eq_some {mayEnd : Bool} {n : Nat} : groupCount? mayEnd cs = some n ↔
    (cs = [] ∧ n = 0) ∨ (∃ k, n = k + 1 ∧ cs ∈ groupColon ^ k * group) ∨
      mayEnd = true ∧ ∃ k, n = k + 2 ∧ cs ∈ groupColon ^ k * ipv4 := by
  have hcolon : ":".toList = [':'] := rfl
  have hgroup : Lacks ':' group := lacks_group (by decide)
  have hipv4 : Lacks ':' ipv4 := lacks_ipv4 (by decide) (by decide)
  unfold groupColon
  simp only [mem_row_self hcolon hgroup, mem_row hcolon hgroup hipv4]
  have hgroups : ∀ parts : List (List Char),
      parts.all isGroup = true ↔ ∀ part ∈ parts, part ∈ group := by
    intro parts
    simp only [List.all_eq_true, isGroup_iff_mem_group]
  have hend : ∀ (parts : List (List Char)) (last : List Char),
      (mayEnd && parts.all isGroup && isIpv4 last) = true ↔
        (mayEnd = true ∧ ∀ part ∈ parts, part ∈ group) ∧ last ∈ ipv4 := by
    intro parts last
    rw [Bool.and_eq_true, Bool.and_eq_true, hgroups, isIpv4_iff_mem_ipv4]
  unfold groupCount?
  dsimp only
  constructor
  · intro h
    split at h
    · next hnil => exact .inl ⟨List.isEmpty_iff.mp hnil, (Option.some.inj h).symm⟩
    · split at h
      · next hall =>
        have hpositive := List.length_pos_iff.mpr (Text.piecesList_ne_nil ':' cs)
        obtain rfl := Option.some.inj h
        exact .inr (.inl ⟨_, (Nat.succ_pred_eq_of_pos hpositive).symm,
          (Nat.succ_pred_eq_of_pos hpositive).symm, (hgroups _).mp hall⟩)
      · split at h
        · next hlong =>
          obtain ⟨⟨hmay, hfront⟩, hlast⟩ := (hend _ _).mp hlong
          have hne := Text.piecesList_ne_nil ':' cs
          have hpositive := List.length_pos_iff.mpr hne
          rw [List.getLastD_eq_getLast?, List.getLast?_eq_some_getLast hne] at hlast
          obtain rfl := Option.some.inj h
          refine .inr (.inr ⟨hmay, (Text.piecesList ':' cs).dropLast.length, ?_, _, _,
            (List.dropLast_concat_getLast hne).symm, rfl, hfront, hlast⟩)
          rw [List.length_dropLast]
          omega
        · simp at h
  · rintro (⟨rfl, rfl⟩ | ⟨k, rfl, hlength, hall⟩ |
      ⟨hmay, k, rfl, parts, last, hpieces, hlength, hparts, hlast⟩)
    · rfl
    · have hne : ¬ cs.isEmpty = true := by
        rw [List.isEmpty_iff]
        rintro rfl
        exact nil_not_mem_group (hall [] (List.mem_singleton_self []))
      rw [if_neg hne, if_pos ((hgroups _).mpr hall), hlength]
    · have hmem : last ∈ Text.piecesList ':' cs := by simp [hpieces]
      have hne : ¬ cs.isEmpty = true := by
        rw [List.isEmpty_iff]
        rintro rfl
        obtain rfl := List.mem_singleton.mp hmem
        exact absurd (isIpv4_iff_mem_ipv4.mpr hlast) (by decide)
      have hmixed : ¬ (Text.piecesList ':' cs).all isGroup = true :=
        fun hall => not_mem_group_of_mem_ipv4 hlast ((hgroups _).mp hall last hmem)
      rw [if_neg hne, if_neg hmixed, hpieces, List.dropLast_concat, List.getLastD_concat,
        if_pos ((hend _ _).mpr ⟨⟨hmay, hparts⟩, hlast⟩), List.length_append, hlength]
      rfl

/-! ## IPv6 addresses -/

/-- Up to `n` groups in front of a gap. -/
def frontGroups : Nat → Language Char
  | 0 => 1
  | n + 1 => maybe (upTo n groupColon * group)

/-- The last `n` groups. -/
def backGroups : Nat → Language Char
  | 0 => 1
  | 1 => group
  | n + 2 => groupColon ^ n * lastGroups

theorem mem_frontGroups {n : Nat} :
    cs ∈ frontGroups n ↔ ∃ k ≤ n, groupCount? false cs = some k := by
  simp only [groupCount?_eq_some, Bool.false_eq_true, false_and, or_false]
  cases n with
  | zero =>
    simp only [frontGroups, Language.mem_one, Nat.le_zero]
    constructor
    · rintro rfl
      exact ⟨0, rfl, .inl ⟨rfl, rfl⟩⟩
    · rintro ⟨k, rfl, ⟨hnil, -⟩ | ⟨k, hk, -⟩⟩
      · exact hnil
      · simp at hk
  | succ n =>
    simp only [frontGroups, mem_maybe, Language.mem_mul, mem_upTo]
    constructor
    · rintro (rfl | ⟨front, ⟨k, hk, hfront⟩, last, hlast, rfl⟩)
      · exact ⟨0, Nat.zero_le _, .inl ⟨rfl, rfl⟩⟩
      · exact ⟨k + 1, Nat.succ_le_succ hk, .inr ⟨k, rfl, front, hfront, last, hlast, rfl⟩⟩
    · rintro ⟨k, hk, ⟨hnil, -⟩ | ⟨k, rfl, front, hfront, last, hlast, rfl⟩⟩
      · exact .inl hnil
      · exact .inr ⟨front, ⟨k, Nat.le_of_succ_le_succ hk, hfront⟩, last, hlast, rfl⟩

theorem mem_backGroups {n : Nat} : cs ∈ backGroups n ↔ groupCount? true cs = some n := by
  simp only [groupCount?_eq_some, true_and]
  match n with
  | 0 => simp [backGroups]
  | 1 => simp [backGroups]
  | n + 2 =>
    have hsplit : backGroups (n + 2) = groupColon ^ (n + 1) * group + groupColon ^ n * ipv4 := by
      have hlast : backGroups (n + 2) = groupColon ^ n * (groupColon * group + ipv4) := rfl
      rw [hlast, mul_add, pow_succ, mul_assoc]
    rw [hsplit, Language.mem_add]
    simp

/-- An address is eight groups, or has a gap of one group at least. -/
theorem ipv6_eq : ipv6 = backGroups 8 + frontGroups 0 * literal "::" * backGroups 7 +
    frontGroups 1 * literal "::" * backGroups 6 + frontGroups 2 * literal "::" * backGroups 5 +
    frontGroups 3 * literal "::" * backGroups 4 + frontGroups 4 * literal "::" * backGroups 3 +
    frontGroups 5 * literal "::" * backGroups 2 + frontGroups 6 * literal "::" * backGroups 1 +
    frontGroups 7 * literal "::" * backGroups 0 := by
  unfold ipv6
  simp only [frontGroups, backGroups, upTo, pow_zero, pow_one, one_mul, mul_one, mul_assoc]

theorem mem_ipv6 : cs ∈ ipv6 ↔
    cs ∈ backGroups 8 ∨ ∃ n ≤ 7, cs ∈ frontGroups (7 - n) * literal "::" * backGroups n := by
  rw [ipv6_eq]
  simp only [Language.mem_add]
  constructor
  · rintro ((((((((h | h) | h) | h) | h) | h) | h) | h) | h)
    · exact .inl h
    · exact .inr ⟨7, by decide, h⟩
    · exact .inr ⟨6, by decide, h⟩
    · exact .inr ⟨5, by decide, h⟩
    · exact .inr ⟨4, by decide, h⟩
    · exact .inr ⟨3, by decide, h⟩
    · exact .inr ⟨2, by decide, h⟩
    · exact .inr ⟨1, by decide, h⟩
    · exact .inr ⟨0, by decide, h⟩
  · rintro (h | ⟨n, hn, h⟩)
    · simp [h]
    · have hcases : n = 0 ∨ n = 1 ∨ n = 2 ∨ n = 3 ∨ n = 4 ∨ n = 5 ∨ n = 6 ∨ n = 7 := by omega
      rcases hcases with rfl | rfl | rfl | rfl | rfl | rfl | rfl | rfl <;> simp [h]

/-- The first gap of a text is behind a row of groups, as no group is empty. -/
theorem cutAtTextList_gap {front : List Char} (h : [] ∉ (Text.piecesList ':' front).tail)
    (back : List Char) :
    Text.cutAtTextList [':', ':'] (front ++ (':' :: ':' :: back)) = some (front, back) := by
  induction front with
  | nil => simp [Text.cutAtTextList, Text.afterList?]
  | cons c rest ih =>
    obtain ⟨piece, others, hpieces⟩ := List.exists_cons_of_ne_nil (Text.piecesList_ne_nil ':' rest)
    have hskip : Text.afterList? [':', ':'] (c :: (rest ++ ':' :: ':' :: back)) = none ∧
        [] ∉ (Text.piecesList ':' rest).tail := by
      by_cases hc : c = ':'
      · -- What follows a single colon is a group, so it does not open with another one.
        subst hc
        simp only [Text.piecesList, if_pos, List.tail_cons] at h
        refine ⟨?_, fun hmem => h (List.mem_of_mem_tail hmem)⟩
        cases rest with
        | nil => simp [Text.piecesList] at h
        | cons d rest =>
          have hd : d ≠ ':' := by
            rintro rfl
            simp [Text.piecesList] at h
          simp [Text.afterList?, Ne.symm hd]
      · simp only [Text.piecesList, if_neg hc, hpieces, List.tail_cons] at h
        refine ⟨?_, by rwa [hpieces]⟩
        simp [Text.afterList?, Ne.symm hc]
    rw [List.cons_append, Text.cutAtTextList, hskip.1, ih hskip.2]
    rfl

/-- No group is empty. -/
theorem nil_not_mem_pieces {mayEnd : Bool} {n : Nat} (h : groupCount? mayEnd cs = some n) :
    cs = [] ∨ [] ∉ Text.piecesList ':' cs := by
  have hcolon : ":".toList = [':'] := rfl
  have hgroup : Lacks ':' group := lacks_group (by decide)
  have hipv4 : Lacks ':' ipv4 := lacks_ipv4 (by decide) (by decide)
  rcases groupCount?_eq_some.mp h with ⟨hnil, -⟩ | ⟨k, -, hrow⟩ | ⟨-, k, -, hrow⟩
  · exact .inl hnil
  · rw [groupColon, mem_row_self hcolon hgroup] at hrow
    exact .inr fun hmem => nil_not_mem_group (hrow.2 [] hmem)
  · rw [groupColon, mem_row hcolon hgroup hipv4] at hrow
    obtain ⟨parts, last, hpieces, -, hparts, hlast⟩ := hrow
    right
    rw [hpieces, List.mem_append, List.mem_singleton, not_or]
    refine ⟨fun hmem => nil_not_mem_group (hparts [] hmem), ?_⟩
    rintro rfl
    exact absurd (isIpv4_iff_mem_ipv4.mpr hlast) (by decide)

theorem mem_gap {k n : Nat} : cs ∈ frontGroups k * literal "::" * backGroups n ↔
    ∃ front back, Text.cutAtTextList [':', ':'] cs = some (front, back) ∧
      front ∈ frontGroups k ∧ back ∈ backGroups n := by
  constructor
  · intro h
    obtain ⟨_, hleft, back, hback, rfl⟩ := Language.mem_mul.mp h
    obtain ⟨front, hfront, _, hmark, rfl⟩ := Language.mem_mul.mp hleft
    obtain rfl := mem_literal.mp hmark
    refine ⟨front, back, ?_, hfront, hback⟩
    rw [List.append_assoc]
    apply cutAtTextList_gap
    obtain ⟨_, -, hcount⟩ := mem_frontGroups.mp hfront
    rcases nil_not_mem_pieces hcount with rfl | hpieces
    · exact List.not_mem_nil
    · exact fun hmem => hpieces (List.mem_of_mem_tail hmem)
  · rintro ⟨front, back, hcut, hfront, hback⟩
    have hmark : [':', ':'] ∈ literal "::" := mem_literal.mpr rfl
    have hwhole := Language.append_mem_mul (Language.append_mem_mul hfront hmark) hback
    rw [Text.eq_append_of_cutAtTextList hcut]
    rwa [List.append_assoc] at hwhole

/-- A text with a gap is no row of groups. -/
theorem not_mem_backGroups_of_gap {n : Nat} {front back : List Char}
    (h : Text.cutAtTextList [':', ':'] cs = some (front, back)) : cs ∉ backGroups n := by
  have hcs := Text.eq_append_of_cutAtTextList h
  intro hmem
  rcases nil_not_mem_pieces (mem_backGroups.mp hmem) with rfl | hpieces
  · simp at hcs
  · apply hpieces
    rw [hcs, List.cons_append, piecesList_append_cons]
    simp [Text.piecesList]

theorem isIpv6_iff_mem_ipv6 : isIpv6 cs = true ↔ cs ∈ ipv6 := by
  rw [mem_ipv6]
  simp only [mem_gap]
  unfold isIpv6
  cases hcut : Text.cutAtTextList [':', ':'] cs with
  | none =>
    have hne : groupCount? true cs = some 8 → cs ≠ [] := by
      rintro h rfl
      simp [groupCount?] at h
    simp only [mem_backGroups, Bool.and_eq_true, Bool.not_eq_true', List.isEmpty_eq_false_iff,
      beq_iff_eq, reduceCtorEq, false_and, exists_false, and_false, or_false]
    exact and_iff_right_of_imp hne
  | some parts =>
    obtain ⟨front, back⟩ := parts
    simp only [not_mem_backGroups_of_gap hcut, false_or, Option.some.injEq, Prod.mk.injEq,
      mem_frontGroups, mem_backGroups]
    constructor
    · intro h
      split at h
      · next a b hfront hback =>
        have hsum : a + b ≤ 7 := of_decide_eq_true h
        exact ⟨b, by omega, front, back, ⟨rfl, rfl⟩, ⟨a, by omega, hfront⟩, hback⟩
      · simp at h
    · rintro ⟨n, hn, _, _, ⟨rfl, rfl⟩, ⟨k, hk, hfront⟩, hback⟩
      rw [hfront, hback]
      apply decide_eq_true
      omega

/-! ## Addresses of future versions -/

theorem IsClass.mem_atLeastOne (h : IsClass p l) :
    cs ∈ atLeastOne l ↔ cs ≠ [] ∧ cs.all p = true := by
  rw [Rule.mem_atLeastOne h.nil_not_mem, h.all_iff]

theorem isIpFuture_iff_mem_ipFuture : isIpFuture cs = true ↔ cs ∈ ipFuture := by
  have hdot : ".".toList = ['.'] := rfl
  have hmark : IsClass (fun c => c == 'v' || c == 'V') (oneOf "vV") := by
    apply (IsClass.oneOf _).congr
    intro c
    simp
  have hbody : IsClass (fun c => isUnreserved c || isSubDelim c || c == ':')
      (unreserved + subDelim + literal ":") :=
    (isClass_unreserved.add isClass_subDelim).add (.literal rfl)
  have hdigits : Lacks '.' (atLeastOne hexDigit) := (isClass_hexDigit.lacks (by decide)).atLeastOne
  have hsplit : ipFuture = oneOf "vV" * (atLeastOne hexDigit * literal "." *
      atLeastOne (unreserved + subDelim + literal ":")) := by
    unfold ipFuture
    simp only [mul_assoc]
  rw [hsplit]
  cases cs with
  | nil => simp [isIpFuture, hmark.nil_not_mem_mul]
  | cons v rest =>
    rw [hmark.cons_mem_mul, mem_cut hdot hdigits]
    simp only [isClass_hexDigit.mem_atLeastOne, hbody.mem_atLeastOne]
    unfold isIpFuture
    rcases hcut : Text.cutAtList '.' rest with ⟨digits, _ | body⟩
    · simp [hcut]
    · simp only [hcut, Bool.and_eq_true, Bool.not_eq_true', List.isEmpty_eq_false_iff,
        Option.mem_some_iff, exists_eq_left', and_assoc]

end Eligibility.Uri.Rule
