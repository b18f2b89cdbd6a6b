import Eligibility.Proofs.Text.Cut
import Eligibility.Proofs.Text.Items
import Eligibility.Uri.Grammar
set_option autoImplicit false

/-!
# URIs: the characters that they hold

Whatever is put together by the generic syntax holds characters of that syntax
only, so it stands on one line; an authority holds no slash either.  Each
statement follows its recogniser: the components are cut out as the recogniser
cuts them and looked at one by one.
-/

namespace Eligibility.Uri

open Text (Unbroken OneLine)

/-- A character that an authority may hold. -/
def isAuthorityChar (c : Char) : Bool :=
  isUnreserved c || isSubDelim c || c == ':' || c == '@' || c == '[' || c == ']' || c == '%'

/-- A character that a URI may hold. -/
def isUriChar (c : Char) : Bool := isUnreserved c || isSubDelim c || isGenDelim c || c == '%'

variable {c : Char} {cs : List Char} {p q : Char → Bool}

/-! ## Classes -/

theorem isUnreserved_of_isLetter (h : isLetter c = true) : isUnreserved c = true := by
  simp [isUnreserved, h]

theorem isUnreserved_of_isDigit (h : c.isDigit = true) : isUnreserved c = true := by
  simp [isUnreserved, h]

theorem isUnreserved_of_isHexDigit (h : Text.isHexDigit c = true) : isUnreserved c = true := by
  have hall : ∀ n < 128, Text.isHexDigit (Char.ofNat n) = true →
      isUnreserved (Char.ofNat n) = true := by decide
  have hlt : c.toNat < 128 := by
    simp only [Text.isHexDigit, Text.hexValue?] at h
    split at h
    · simp_all; omega
    · split at h
      · simp_all; omega
      · split at h
        · simp_all; omega
        · simp at h
  have hc := hall c.toNat hlt
  rw [Char.ofNat_toNat] at hc
  exact hc h

theorem isAuthorityChar_of_isUnreserved (h : isUnreserved c = true) : isAuthorityChar c = true := by
  simp [isAuthorityChar, h]

theorem isUriChar_of_isAuthorityChar (h : isAuthorityChar c = true) : isUriChar c = true := by
  simp only [isAuthorityChar, Bool.or_eq_true, beq_iff_eq] at h
  simp only [isUriChar, isGenDelim, Bool.or_eq_true, beq_iff_eq]
  grind

theorem isUriChar_of_isPathChar (h : isPathChar c = true) : isUriChar c = true := by
  simp only [isPathChar, isSegmentChar, Bool.or_eq_true, beq_iff_eq] at h
  simp only [isUriChar, isGenDelim, Bool.or_eq_true, beq_iff_eq]
  grind

/-- Characters of a class and percent triplets are characters of a wider class that has the percent
sign and the unreserved characters. -/
theorem all_of_allEncoded (hpq : ∀ c, p c = true → q c = true) (hpercent : q '%' = true)
    (hunreserved : ∀ c, isUnreserved c = true → q c = true) (h : allEncoded p cs = true) :
    cs.all q = true := by
  fun_induction allEncoded p cs with
  | case1 => rfl
  | case2 a b rest ih =>
    simp only [Bool.and_eq_true] at h
    obtain ⟨⟨ha, hb⟩, hrest⟩ := h
    simp only [List.all_cons, hpercent, hunreserved a (isUnreserved_of_isHexDigit ha),
      hunreserved b (isUnreserved_of_isHexDigit hb), ih hrest, Bool.and_self]
  | case3 c rest _ ih =>
    simp only [Bool.and_eq_true] at h
    obtain ⟨⟨-, hc⟩, hrest⟩ := h
    simp only [List.all_cons, hpq c hc, ih hrest, Bool.and_self]

theorem all_mono (hpq : ∀ c, p c = true → q c = true) (h : cs.all p = true) : cs.all q = true :=
  List.all_eq_true.mpr fun c hc => hpq c (List.all_eq_true.mp h c hc)

theorem all_of_cutAtList {sep : Char} {before after : List Char} (hsep : q sep = true)
    (h : Text.cutAtList sep cs = (before, some after)) (hb : before.all q = true)
    (ha : after.all q = true) : cs.all q = true := by
  rw [(Text.cutAtList_eq_some.mp h).2]
  simp only [List.all_append, List.all_cons, hb, hsep, ha, Bool.and_self]

theorem all_joinList {sep : Char} (hsep : q sep = true) {parts : List (List Char)}
    (h : ∀ part ∈ parts, part.all q = true) : (Text.joinList sep parts).all q = true := by
  induction parts with
  | nil => rfl
  | cons part rest ih =>
    have hpart : part.all q = true := h part List.mem_cons_self
    cases rest with
    | nil => exact hpart
    | cons next rest =>
      have hrest := ih fun k hk => h k (List.mem_cons_of_mem part hk)
      simp only [Text.joinList, List.all_append, List.all_cons, hpart, hsep, hrest, Bool.and_self]

/-! ## Hosts -/

theorem all_of_isGroup (h : isGroup cs = true) : cs.all isAuthorityChar = true := by
  simp only [isGroup, Bool.and_eq_true] at h
  exact all_mono (fun _ hc => isAuthorityChar_of_isUnreserved (isUnreserved_of_isHexDigit hc)) h.2

theorem all_of_digits (h : cs.all Char.isDigit = true) : cs.all isAuthorityChar = true :=
  all_mono (fun _ hc => isAuthorityChar_of_isUnreserved (isUnreserved_of_isDigit hc)) h

theorem all_of_isIpv4 (h : isIpv4 cs = true) : cs.all isAuthorityChar = true := by
  simp only [isIpv4, Bool.and_eq_true, List.all_eq_true] at h
  rw [← Text.joinList_piecesList '.' cs]
  refine all_joinList (by decide) fun part hpart => ?_
  have hbyte := h.2 part hpart
  simp only [isByteText, Bool.and_eq_true] at hbyte
  exact all_of_digits hbyte.1.1.2

theorem all_of_groupCount? {mayEnd : Bool} {n : Nat} (h : groupCount? mayEnd cs = some n) :
    cs.all isAuthorityChar = true := by
  unfold groupCount? at h
  split at h
  · next hempty =>
    rw [List.isEmpty_iff.mp hempty]
    rfl
  · rw [← Text.joinList_piecesList ':' cs]
    refine all_joinList (by decide) fun part hpart => ?_
    simp only at h
    split at h
    · next hall => exact all_of_isGroup (List.all_eq_true.mp hall part hpart)
    · split at h
      · next hend =>
        simp only [Bool.and_eq_true, List.all_eq_true] at hend
        -- The last part is an IPv4 address and the others are groups.
        obtain ⟨⟨-, hgroups⟩, hlast⟩ := hend
        have hne := Text.piecesList_ne_nil ':' cs
        rw [← List.dropLast_concat_getLast hne, List.mem_append, List.mem_singleton] at hpart
        rcases hpart with hfront | rfl
        · exact all_of_isGroup (hgroups part hfront)
        · have hget : (Text.piecesList ':' cs).getLast hne =
              (Text.piecesList ':' cs).getLastD [] := by
            simp [List.getLastD_eq_getLast?, List.getLast?_eq_some_getLast hne]
          rw [hget]
          exact all_of_isIpv4 hlast
      · simp at h

theorem all_of_isIpv6 (h : isIpv6 cs = true) : cs.all isAuthorityChar = true := by
  unfold isIpv6 at h
  split at h
  · simp only [Bool.and_eq_true, beq_iff_eq] at h
    exact all_of_groupCount? h.2
  · next left right hcut =>
    split at h
    · next hleft hright =>
      have hmark : [':', ':'].all isAuthorityChar = true := by decide
      rw [Text.eq_append_of_cutAtTextList hcut, List.all_append, List.all_append,
        all_of_groupCount? hleft, hmark, all_of_groupCount? hright]
      rfl
    · simp at h

theorem all_of_isIpFuture (h : isIpFuture cs = true) : cs.all isAuthorityChar = true := by
  have hbodyChar : ∀ c, (isUnreserved c || isSubDelim c || c == ':') = true →
      isAuthorityChar c = true := by
    intro c hc
    simp only [isAuthorityChar, hc, Bool.true_or]
  unfold isIpFuture at h
  split at h
  · next v rest =>
    split at h
    · next digits body hcut =>
      simp only [Bool.and_eq_true, Bool.or_eq_true, beq_iff_eq] at h
      obtain ⟨⟨⟨⟨hv, -⟩, hdigits⟩, -⟩, hbody⟩ := h
      have hrest : rest.all isAuthorityChar = true := all_of_cutAtList (by decide) hcut
        (all_mono (fun _ hc => isAuthorityChar_of_isUnreserved (isUnreserved_of_isHexDigit hc))
          hdigits)
        (all_mono hbodyChar (by simpa using hbody))
      rw [List.all_cons, hrest, Bool.and_true]
      rcases hv with rfl | rfl <;> decide
    · simp at h
  · simp at h

theorem all_of_isPortPart (h : isPortPart cs = true) : cs.all isAuthorityChar = true := by
  unfold isPortPart at h
  split at h
  · rfl
  · next digits =>
    rw [List.all_cons, all_of_digits h]
    decide
  · simp at h

theorem all_of_isRegName (h : isRegName cs = true) : cs.all isAuthorityChar = true := by
  refine all_of_allEncoded ?_ (by decide) (fun _ => isAuthorityChar_of_isUnreserved) h
  intro c hc
  simp only [isAuthorityChar, hc, Bool.true_or]

theorem all_of_isUserInfo (h : isUserInfo cs = true) : cs.all isAuthorityChar = true := by
  refine all_of_allEncoded ?_ (by decide) (fun _ => isAuthorityChar_of_isUnreserved) h
  intro c hc
  simp only [isAuthorityChar, hc, Bool.true_or]

theorem all_of_isHostPort (h : isHostPort cs = true) : cs.all isAuthorityChar = true := by
  unfold isHostPort at h
  split at h
  · split at h
    · next rest address port hcut =>
      simp only [Bool.and_eq_true, Bool.or_eq_true] at h
      have haddress : address.all isAuthorityChar = true := by
        rcases h.1 with h6 | hfuture
        · exact all_of_isIpv6 h6
        · exact all_of_isIpFuture hfuture
      rw [List.all_cons, all_of_cutAtList (by decide) hcut haddress (all_of_isPortPart h.2)]
      decide
    · simp at h
  · simp only [Bool.and_eq_true] at h
    rw [← List.takeWhile_append_dropWhile (p := (· != ':')) (l := cs), List.all_append,
      all_of_isRegName h.1, all_of_isPortPart h.2]
    rfl

/-- An authority holds characters of authorities only. -/
theorem all_of_isAuthority (h : isAuthority cs = true) : cs.all isAuthorityChar = true := by
  unfold isAuthority at h
  split at h
  · next user rest hcut =>
    simp only [Bool.and_eq_true] at h
    exact all_of_cutAtList (by decide) hcut (all_of_isUserInfo h.1) (all_of_isHostPort h.2)
  · exact all_of_isHostPort h

/-! ## Whole URIs -/

theorem all_of_isScheme (h : isScheme cs = true) :
    cs.all (fun c => isUnreserved c || c == '+') = true := by
  unfold isScheme at h
  split at h
  · rfl
  · next c rest =>
    simp only [Bool.and_eq_true] at h
    rw [List.all_cons, isUnreserved_of_isLetter h.1]
    refine all_mono (fun c hc => ?_) h.2
    simp only [isUnreserved, Bool.or_eq_true, beq_iff_eq] at hc ⊢
    grind

theorem all_of_path (h : allEncoded isPathChar cs = true) : cs.all isUriChar = true :=
  all_of_allEncoded (fun _ => isUriChar_of_isPathChar) (by decide)
    (fun _ hc => isUriChar_of_isAuthorityChar (isAuthorityChar_of_isUnreserved hc)) h

theorem all_of_isQuery (h : isQuery cs = true) : cs.all isUriChar = true := by
  refine all_of_allEncoded ?_ (by decide)
    (fun _ hc => isUriChar_of_isAuthorityChar (isAuthorityChar_of_isUnreserved hc)) h
  intro c hc
  simp only [Bool.or_eq_true, beq_iff_eq] at hc
  rcases hc with hc | rfl
  · exact isUriChar_of_isPathChar hc
  · decide

theorem all_of_isHierPart (h : isHierPart cs = true) : cs.all isUriChar = true := by
  unfold isHierPart at h
  split at h
  · next rest =>
    simp only [Bool.and_eq_true] at h
    have hrest : rest.all isUriChar = true := by
      rw [← List.takeWhile_append_dropWhile (p := (· != '/')) (l := rest), List.all_append,
        all_mono (fun _ => isUriChar_of_isAuthorityChar) (all_of_isAuthority h.1), all_of_path h.2]
      rfl
    rw [List.all_cons, List.all_cons, hrest]
    decide
  · exact all_of_path h

/-- A part that is cut off at a separator, or is not there. -/
theorem all_of_partIs {sep : Char} {before : List Char} {after : Option (List Char)}
    (hsep : isUriChar sep = true) (hcut : Text.cutAtList sep cs = (before, after))
    (hb : before.all isUriChar = true) (ha : partIs isQuery after = true) :
    cs.all isUriChar = true := by
  cases after with
  | none =>
    obtain ⟨-, rfl⟩ := Text.cutAtList_eq_none.mp hcut
    exact hb
  | some query => exact all_of_cutAtList hsep hcut hb (all_of_isQuery ha)

/-- A URI holds characters of URIs only. -/
theorem all_of_isUri (h : isUri cs = true) : cs.all isUriChar = true := by
  unfold isUri at h
  simp only at h
  split at h
  · next scheme rest hscheme =>
    simp only [Bool.and_eq_true] at h
    obtain ⟨⟨⟨hs, hhier⟩, hquery⟩, hfragment⟩ := h
    have hschemeAll : scheme.all isUriChar = true := by
      refine all_mono (fun c hc => ?_) (all_of_isScheme hs)
      simp only [Bool.or_eq_true, beq_iff_eq] at hc
      rcases hc with hc | rfl
      · exact isUriChar_of_isAuthorityChar (isAuthorityChar_of_isUnreserved hc)
      · decide
    have hfront := all_of_cutAtList (by decide) hscheme hschemeAll (all_of_isHierPart hhier)
    have hmiddle := all_of_partIs (by decide) rfl hfront hquery
    exact all_of_partIs (by decide) rfl hmiddle hfragment
  · simp at h

theorem all_of_isSegmentText (h : isSegmentText cs = true) : cs.all isUriChar = true := by
  refine all_of_allEncoded (fun c hc => isUriChar_of_isPathChar ?_) (by decide)
    (fun _ hc => isUriChar_of_isAuthorityChar (isAuthorityChar_of_isUnreserved hc)) h
  rw [isPathChar, hc, Bool.true_or]

/-! ## Texts without triplets -/

/-- Characters that stand for themselves need no triplet. -/
theorem allEncoded_of_forall {p : Char → Bool} (h : ∀ c ∈ cs, c ≠ '%' ∧ p c = true) :
    allEncoded p cs = true := by
  induction cs with
  | nil => rfl
  | cons c rest ih =>
    obtain ⟨hc, hp⟩ := h c List.mem_cons_self
    have hrest := ih fun d hd => h d (List.mem_cons_of_mem c hd)
    rw [allEncoded]
    · simp [hc, hp, hrest]
    · intro a b tail heq
      exact absurd heq hc

/-- Texts of a class follow each other to a text of the class, since no triplet is left open. -/
theorem allEncoded_append {p : Char → Bool} {ds : List Char} (hc : allEncoded p cs = true)
    (hd : allEncoded p ds = true) : allEncoded p (cs ++ ds) = true := by
  fun_induction allEncoded p cs with
  | case1 => exact hd
  | case2 a b rest ih =>
    simp only [Bool.and_eq_true] at hc
    obtain ⟨⟨ha, hb⟩, hrest⟩ := hc
    simp [allEncoded, ha, hb, ih hrest]
  | case3 c rest _ ih =>
    simp only [Bool.and_eq_true, bne_iff_ne, ne_eq] at hc
    obtain ⟨⟨hpercent, hp⟩, hrest⟩ := hc
    rw [List.cons_append, allEncoded]
    · simp [hpercent, hp, ih hrest]
    · intro a b tail heq
      exact absurd heq hpercent

/-- Characters that stand for themselves in front of a text leave no triplet open. -/
theorem allEncoded_append_iff {p : Char → Bool} {ds : List Char}
    (h : ∀ c ∈ cs, c ≠ '%' ∧ p c = true) :
    allEncoded p (cs ++ ds) = true ↔ allEncoded p ds = true := by
  induction cs with
  | nil => rfl
  | cons c rest ih =>
    obtain ⟨hpercent, hp⟩ := h c List.mem_cons_self
    have hrest := ih fun d hd => h d (List.mem_cons_of_mem c hd)
    rw [List.cons_append, allEncoded]
    · simp [hpercent, hp, hrest]
    · intro a b tail heq
      exact absurd heq hpercent

/-- A scheme and a path that does not open with a slash are a URI. -/
theorem isUri_of_path {scheme path : List Char} (hscheme : isScheme scheme = true)
    (hpath : allEncoded isPathChar path = true) (hslash : path.head? ≠ some '/') :
    isUri (scheme ++ ':' :: path) = true := by
  have hkeep : ∀ c, (isPathChar c || c == '+') = true → (c != '#' && c != '?') = true := by
    intro c hc
    simp only [Bool.and_eq_true, bne_iff_ne, ne_eq]
    constructor
    · rintro rfl
      exact absurd hc (by decide)
    · rintro rfl
      exact absurd hc (by decide)
  have hpathKeep : path.all (fun c => c != '#' && c != '?') = true := by
    refine all_of_allEncoded (fun c hc => hkeep c ?_) (by decide) (fun c hc => hkeep c ?_) hpath
    · simp [hc]
    · simp [isPathChar, isSegmentChar, hc]
  have hschemeKeep : scheme.all (fun c => c != '#' && c != '?') = true := by
    refine all_mono (fun c hc => hkeep c ?_) (all_of_isScheme hscheme)
    simp only [Bool.or_eq_true, beq_iff_eq] at hc ⊢
    rcases hc with hc | hc
    · simp [isPathChar, isSegmentChar, hc]
    · simp [hc]
  have hall : ∀ c ∈ scheme ++ ':' :: path, c ≠ '#' ∧ c ≠ '?' := by
    intro c hc
    have hboth : (scheme ++ ':' :: path).all (fun c => c != '#' && c != '?') = true := by
      simp only [List.all_append, List.all_cons, hschemeKeep, hpathKeep]
      rfl
    simpa using List.all_eq_true.mp hboth c hc
  have hcolon : ':' ∉ scheme := by
    intro hmem
    exact absurd (List.all_eq_true.mp (all_of_isScheme hscheme) _ hmem) (by decide)
  have hhier : isHierPart path = true := by
    unfold isHierPart
    split
    · simp at hslash
    · exact hpath
  have hfragment := Text.cutAtList_of_not_mem fun hmem => (hall '#' hmem).1 rfl
  have hquery := Text.cutAtList_of_not_mem fun hmem => (hall '?' hmem).2 rfl
  simp only [isUri, hfragment, hquery, Text.cutAtList_append hcolon, hscheme, hhier, partIs,
    Bool.and_self]

/-! ## Pieces -/

/-- A cut at a character that no triplet holds leaves every triplet whole. -/
theorem allEncoded_of_mem_piecesList {p : Char → Bool} {sep : Char} {piece : List Char}
    (hpercent : sep ≠ '%') (hhex : Text.isHexDigit sep = false) (h : allEncoded p cs = true)
    (hpiece : piece ∈ Text.piecesList sep cs) : allEncoded p piece = true := by
  fun_induction allEncoded p cs generalizing piece with
  | case1 =>
    obtain rfl := List.mem_singleton.mp hpiece
    rfl
  | case2 a b rest ih =>
    simp only [Bool.and_eq_true] at h
    obtain ⟨⟨ha, hb⟩, hrest⟩ := h
    -- The characters of a triplet stay together, as none of them is the separator.
    have hsep : sep ∉ ['%', a, b] := by
      simp only [List.mem_cons, List.not_mem_nil, or_false, not_or]
      refine ⟨hpercent, ?_, ?_⟩
      · rintro rfl
        simp [ha] at hhex
      · rintro rfl
        simp [hb] at hhex
    obtain ⟨front, others, hcut⟩ := List.exists_cons_of_ne_nil (Text.piecesList_ne_nil sep rest)
    have htriplet := Text.piecesList_append_of_not_mem hsep hcut
    rw [List.cons_append, List.cons_append, List.cons_append, List.nil_append] at htriplet
    rw [htriplet] at hpiece
    rcases List.mem_cons.mp hpiece with rfl | hpiece
    · have hfront := ih hrest (hcut ▸ List.mem_cons_self)
      simp [allEncoded, ha, hb, hfront]
    · exact ih hrest (hcut ▸ List.mem_cons_of_mem front hpiece)
  | case3 c rest _ ih =>
    simp only [Bool.and_eq_true, bne_iff_ne, ne_eq] at h
    obtain ⟨⟨hc, hp⟩, hrest⟩ := h
    unfold Text.piecesList at hpiece
    split at hpiece
    · rcases List.mem_cons.mp hpiece with rfl | hpiece
      · rfl
      · exact ih hrest hpiece
    · split at hpiece
      · next hnil => exact absurd hnil (Text.piecesList_ne_nil sep rest)
      · next front others hcut =>
        rcases List.mem_cons.mp hpiece with rfl | hpiece
        · have hfront := ih hrest (hcut ▸ List.mem_cons_self)
          rw [allEncoded]
          · simp [hc, hp, hfront]
          · intro a b tail heq
            exact absurd heq hc
        · exact ih hrest (hcut ▸ List.mem_cons_of_mem front hpiece)

/-- A character of a URI is visible ASCII. -/
theorem toNat_of_isUriChar (h : isUriChar c = true) : 32 < c.toNat ∧ c.toNat < 128 := by
  simp only [isUriChar, isUnreserved, isLetter, isSubDelim, isGenDelim, Char.isDigit,
    Bool.or_eq_true, Bool.and_eq_true, beq_iff_eq, decide_eq_true_eq, Char.le_def,
    UInt32.le_iff_toNat_le, ge_iff_le, ← Char.toNat_inj] at h
  simp only [Char.toNat, Char.reduceVal, UInt32.reduceToNat] at *
  omega

/-- A URI holds no blank. -/
theorem isBlank_of_isUriChar (h : isUriChar c = true) : Text.isBlank c = false := by
  have hall : ∀ n < 128, isUriChar (Char.ofNat n) = true →
      Text.isBlank (Char.ofNat n) = false := by decide
  have hc := hall c.toNat (toNat_of_isUriChar h).2
  rw [Char.ofNat_toNat] at hc
  exact hc h

theorem isBlank_of_isPathText {s : String} (h : isPathText s = true) :
    ∀ c ∈ s.toList, Text.isBlank c = false := by
  simp only [isPathText, Bool.and_eq_true] at h
  exact fun c hc => isBlank_of_isUriChar (List.all_eq_true.mp (all_of_path h.2) c hc)

/-- An item of a text of a path is one, as no triplet is cut and nothing is trimmed. -/
theorem isPathText_of_mem_itemsBetween {sep : Char} {s item : String} (hpercent : sep ≠ '%')
    (hhex : Text.isHexDigit sep = false) (h : isPathText s = true)
    (hitem : item ∈ Text.itemsBetween sep s) : isPathText item = true := by
  obtain ⟨hne, piece, hpiece, rfl⟩ := Text.mem_itemsBetween.mp hitem
  simp only [isPathText, Bool.and_eq_true] at h
  have hencoded := allEncoded_of_mem_piecesList hpercent hhex h.2 hpiece
  have htrim : Text.trim (String.ofList piece) = String.ofList piece := by
    refine Text.trim_of_forall fun c hc => isBlank_of_isUriChar ?_
    rw [String.toList_ofList] at hc
    exact List.all_eq_true.mp (all_of_path hencoded) c hc
  rw [htrim] at hne ⊢
  simp [isPathText, hne, hencoded]

/-! ## Lines -/

theorem oneLine_of_isPathText {s : String} (h : isPathText s = true) : OneLine s := by
  simp only [isPathText, Bool.and_eq_true] at h
  exact .of_forall (by decide) (by decide) (List.all_eq_true.mp (all_of_path h.2))

theorem unbroken_of_isScheme (h : isScheme cs = true) : Unbroken cs :=
  .of_forall (by decide) (by decide) (List.all_eq_true.mp (all_of_isScheme h))

theorem unbroken_of_isAuthority (h : isAuthority cs = true) : Unbroken cs :=
  .of_forall (by decide) (by decide) (List.all_eq_true.mp (all_of_isAuthority h))

theorem unbroken_of_isUri (h : isUri cs = true) : Unbroken cs :=
  .of_forall (by decide) (by decide) (List.all_eq_true.mp (all_of_isUri h))

theorem unbroken_of_isSegmentText (h : isSegmentText cs = true) : Unbroken cs :=
  .of_forall (by decide) (by decide) (List.all_eq_true.mp (all_of_isSegmentText h))

end Eligibility.Uri
