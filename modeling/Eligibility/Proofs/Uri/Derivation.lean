import Eligibility.Proofs.Uri.Address
set_option autoImplicit false

/-!
# URIs: the recogniser and the rules

The recogniser of URIs takes a text exactly if the rules of RFC 3986 derive it.  It cuts
where a component ends at a character that the component cannot hold, so the parts that
it looks at are those of every derivation.
-/

namespace Eligibility.Uri.Rule

open scoped Computability

variable {x c : Char} {cs : List Char} {p : Char → Bool} {l m : Language Char}

/-! ## Users, hosts and ports -/

theorem regName_eq : regName = (unreserved + subDelim + encoded)∗ := by
  unfold regName
  congr 1
  ac_rfl

theorem isRegName_iff_mem_regName : isRegName cs = true ↔ cs ∈ regName := by
  rw [regName_eq]
  exact (isClass_unreserved.add isClass_subDelim).allEncoded_iff (by decide)

theorem userInfo_eq : userInfo = (unreserved + subDelim + literal ":" + encoded)∗ := by
  unfold userInfo
  congr 1
  ac_rfl

theorem isUserInfo_iff_mem_userInfo : isUserInfo cs = true ↔ cs ∈ userInfo := by
  rw [userInfo_eq]
  exact ((isClass_unreserved.add isClass_subDelim).add (.literal rfl)).allEncoded_iff (by decide)

theorem isPortPart_iff_mem : isPortPart cs = true ↔ cs ∈ maybe (literal ":" * port) := by
  have hcolon : IsClass (· == ':') (literal ":") := .literal rfl
  rw [mem_maybe, port]
  cases cs with
  | nil => simp [isPortPart]
  | cons c digits =>
    rw [hcolon.cons_mem_mul, ← isClass_digit.all_iff]
    by_cases hc : c = ':'
    · simp [isPortPart, hc]
    · simp [isPortPart, hc]

theorem opens_maybe {s : String} (hs : s.toList = [x]) : Opens x (maybe (literal s * m)) := by
  intro cs hcs c hc
  cases cs with
  | nil => simp at hc
  | cons d rest =>
    obtain rfl : d = c := Option.some.inj hc
    rcases mem_maybe.mp hcs with hnil | hcs
    · simp at hnil
    · exact eq_of_beq ((IsClass.literal hs).cons_mem_mul.mp hcs).1

/-- An address of four bytes is a name, too. -/
theorem mem_regName_of_mem_ipv4 (h : cs ∈ ipv4) : cs ∈ regName := by
  rw [← isRegName_iff_mem_regName]
  apply allEncoded_of_forall
  intro c hc
  -- An address holds points and digits only.
  by_cases hdot : c = '.'
  · subst hdot
    decide
  · have hdigit : c.isDigit = true := by
      rw [← Bool.not_eq_false]
      exact fun hfalse => lacks_ipv4 hdot hfalse cs h hc
    refine ⟨?_, by simp [isUnreserved, hdigit]⟩
    rintro rfl
    exact absurd hdigit (by decide)

/-- A host is an address in brackets or a name. -/
theorem mem_host_mul : cs ∈ host * m ↔ cs ∈ ipLiteral * m ∨ cs ∈ regName * m := by
  have hle : ipv4 * m ≤ regName * m :=
    mul_le_mul_left (fun _ => mem_regName_of_mem_ipv4) m
  unfold host
  rw [add_mul, add_mul, Language.mem_add, Language.mem_add, or_assoc]
  constructor
  · rintro (h | h | h)
    · exact .inl h
    · exact .inr (hle h)
    · exact .inr h
  · rintro (h | h)
    · exact .inl h
    · exact .inr (.inr h)

/-! ## Delimiters -/

section

variable (hx : isGenDelim x = true)
include hx

theorem of_isGenDelim (P : Char → Prop) (h : ":/?#[]@".toList.Forall P) : P x := by
  rw [List.forall_iff_forall_mem] at h
  apply h
  simpa [isGenDelim, or_assoc] using hx

theorem ne_percent : x ≠ '%' := of_isGenDelim hx (· ≠ '%') (by decide)

theorem ne_dot : x ≠ '.' := of_isGenDelim hx (· ≠ '.') (by decide)

theorem isDigit_eq_false : x.isDigit = false := of_isGenDelim hx (·.isDigit = false) (by decide)

theorem isHexDigit_eq_false : Text.isHexDigit x = false :=
  of_isGenDelim hx (Text.isHexDigit · = false) (by decide)

theorem lacks_unreserved : Lacks x unreserved := by
  have hfalse : isUnreserved x = false := of_isGenDelim hx (isUnreserved · = false) (by decide)
  exact isClass_unreserved.lacks hfalse

theorem lacks_subDelim : Lacks x subDelim := by
  have hfalse : isSubDelim x = false := of_isGenDelim hx (isSubDelim · = false) (by decide)
  exact isClass_subDelim.lacks hfalse

theorem lacks_hexDigit : Lacks x hexDigit := isClass_hexDigit.lacks (isHexDigit_eq_false hx)

theorem lacks_encoded : Lacks x encoded := by
  have hmark : Lacks x (literal "%") := .literal (by simpa using ne_percent hx)
  exact (hmark.mul (lacks_hexDigit hx)).mul (lacks_hexDigit hx)

theorem lacks_regName : Lacks x regName :=
  (((lacks_unreserved hx).add (lacks_encoded hx)).add (lacks_subDelim hx)).kstar

theorem lacks_ipv6 (hcolon : x ≠ ':') : Lacks x ipv6 := by
  have hipv4 : Lacks x ipv4 := lacks_ipv4 (ne_dot hx) (isDigit_eq_false hx)
  have hgroup : Lacks x group := lacks_group (isHexDigit_eq_false hx)
  have hmarked : Lacks x groupColon := hgroup.mul (.literal (by simpa using hcolon))
  have hgap : Lacks x (literal "::") := .literal (by simpa using hcolon)
  have hfront : ∀ n, Lacks x (frontGroups n)
    | 0 => .one
    | n + 1 => ((hmarked.upTo n).mul hgroup).maybe
  have hback : ∀ n, Lacks x (backGroups n)
    | 0 => .one
    | 1 => hgroup
    | n + 2 => (hmarked.pow n).mul ((hmarked.mul hgroup).add hipv4)
  intro cs hcs
  rcases mem_ipv6.mp hcs with h | ⟨n, -, h⟩
  · exact hback 8 cs h
  · exact (((hfront _).mul hgap).mul (hback n)) cs h

theorem lacks_ipFuture (hcolon : x ≠ ':') : Lacks x ipFuture := by
  have hv : "vV".toList.contains x = false :=
    of_isGenDelim hx ("vV".toList.contains · = false) (by decide)
  have hmark : Lacks x (oneOf "vV") := (IsClass.oneOf "vV").lacks hv
  have hdot : Lacks x (literal ".") := .literal (by simpa using ne_dot hx)
  have hbody : Lacks x (unreserved + subDelim + literal ":") :=
    ((lacks_unreserved hx).add (lacks_subDelim hx)).add (.literal (by simpa using hcolon))
  exact ((hmark.mul (lacks_hexDigit hx).atLeastOne).mul hdot).mul hbody.atLeastOne

theorem lacks_address (hcolon : x ≠ ':') : Lacks x (ipv6 + ipFuture) :=
  (lacks_ipv6 hx hcolon).add (lacks_ipFuture hx hcolon)

theorem lacks_pchar (hcolon : x ≠ ':') (hat : x ≠ '@') : Lacks x pchar := by
  have hmarks : Lacks x (oneOf ":@") := (IsClass.oneOf ":@").lacks (by simp [hcolon, hat])
  exact (((lacks_unreserved hx).add (lacks_encoded hx)).add (lacks_subDelim hx)).add hmarks

theorem lacks_scheme : Lacks x scheme := by
  have hfalse : isLetter x = false := of_isGenDelim hx (isLetter · = false) (by decide)
  have hother : "+-.".toList.contains x = false :=
    of_isGenDelim hx ("+-.".toList.contains · = false) (by decide)
  have hletter : Lacks x alpha := isClass_alpha.lacks hfalse
  have hdigit : Lacks x digit := isClass_digit.lacks (isDigit_eq_false hx)
  have hmarks : Lacks x (oneOf "+-.") := (IsClass.oneOf "+-.").lacks hother
  exact hletter.mul ((hletter.add hdigit).add hmarks).kstar

end

/-! ## Authorities -/

theorem isHostPort_iff_mem : isHostPort cs = true ↔ cs ∈ host * maybe (literal ":" * port) := by
  have hopen : IsClass (· == '[') (literal "[") := .literal rfl
  have hclose : "]".toList = [']'] := rfl
  have hcolon : ":".toList = [':'] := rfl
  have haddress : Lacks ']' (ipv6 + ipFuture) := lacks_address (by decide) (by decide)
  have hbracket : Lacks '[' regName := lacks_regName (by decide)
  have hname : Lacks ':' regName := lacks_regName (by decide)
  have hsplit : ipLiteral * maybe (literal ":" * port) =
      literal "[" * ((ipv6 + ipFuture) * literal "]" * maybe (literal ":" * port)) := by
    unfold ipLiteral
    simp only [mul_assoc]
  rw [mem_host_mul, hsplit, mem_takeWhile hname (opens_maybe hcolon)]
  unfold isHostPort
  split
  · next rest =>
    -- A bracket opens no name, so what is in front of the other bracket is an address.
    have hnot : ('[' :: rest).takeWhile (· != ':') ∉ regName := by
      intro h
      exact hbracket _ h List.mem_cons_self
    rw [hopen.cons_mem_mul, mem_cut hclose haddress]
    rcases Text.cutAtList ']' rest with ⟨address, _ | after⟩
    · simp only [hnot, Option.not_mem_none, false_and, exists_false, and_false, or_false,
        Bool.false_eq_true]
    · simp only [hnot, Bool.and_eq_true, Bool.or_eq_true, isIpv6_iff_mem_ipv6,
        isIpFuture_iff_mem_ipFuture, isPortPart_iff_mem, false_and, or_false, BEq.rfl, true_and,
        Option.mem_some_iff, exists_eq_left', Language.mem_add]
  · next hother =>
    have hnot : ∀ l, cs ∉ literal "[" * l := by
      intro l h
      obtain ⟨c, rest, rfl, hc, -⟩ := hopen.mem_mul.mp h
      obtain rfl := eq_of_beq hc
      exact hother rest rfl
    simp only [hnot, false_or, Bool.and_eq_true, isRegName_iff_mem_regName, isPortPart_iff_mem]

theorem lacks_hostPort : Lacks '@' (host * maybe (literal ":" * port)) := by
  have hdigit : Lacks '@' digit := isClass_digit.lacks (by decide)
  have haddress : Lacks '@' ipLiteral :=
    ((Lacks.literal (by decide)).mul (lacks_address (by decide) (by decide))).mul
      (.literal (by decide))
  have hhost : Lacks '@' host :=
    (haddress.add (lacks_ipv4 (by decide) (by decide))).add (lacks_regName (by decide))
  have hcolon : Lacks '@' (literal ":") := .literal (by decide)
  exact hhost.mul (hcolon.mul hdigit.kstar).maybe

theorem lacks_userInfo : Lacks '@' userInfo := by
  have hat : isGenDelim '@' = true := by decide
  have hcolon : Lacks '@' (literal ":") := .literal (by decide)
  exact (((lacks_unreserved hat).add (lacks_encoded hat)).add (lacks_subDelim hat)).add hcolon
    |>.kstar

theorem isAuthority_iff_mem_authority : isAuthority cs = true ↔ cs ∈ authority := by
  have hat : "@".toList = ['@'] := rfl
  unfold authority
  rw [mul_assoc, mem_cut_first hat lacks_userInfo lacks_hostPort]
  unfold isAuthority
  rcases Text.cutAtList '@' cs with ⟨user, _ | rest⟩
  · simp [isHostPort_iff_mem]
  · simp [isUserInfo_iff_mem_userInfo, isHostPort_iff_mem]

/-- No slash, question mark or number sign stands in an authority. -/
theorem lacks_authority (hx : isAuthorityChar x = false) : Lacks x authority := by
  intro cs hcs hmem
  have hall := all_of_isAuthority (isAuthority_iff_mem_authority.mpr hcs)
  have hchar := List.all_eq_true.mp hall x hmem
  simp [hx] at hchar

/-! ## Paths -/

theorem opens_moreSegments : Opens '/' moreSegments := by
  have hslash : "/".toList = ['/'] := rfl
  have hsplit : moreSegments = maybe (literal "/" * (segment * moreSegments)) := by
    rw [← mul_assoc]
    exact kstar_eq (literal "/" * segment)
  rw [hsplit]
  exact opens_maybe hslash

/-- Segments behind slashes are whatever may stand in a path, behind a slash. -/
theorem mem_moreSegments : cs ∈ moreSegments ↔ cs ∈ pathChar∗ ∧ ∀ c ∈ cs.head?, c = '/' := by
  have hpchar : Lacks '/' pchar := lacks_pchar (by decide) (by decide) (by decide)
  have hsplit : cs ∈ pathChar∗ ↔ cs.takeWhile (· != '/') ∈ pchar∗ ∧
      cs.dropWhile (· != '/') ∈ moreSegments := by
    rw [← mem_takeWhile hpchar.kstar opens_moreSegments]
    unfold pathChar moreSegments segment
    rw [kstar_add]
  have hwhole : (∀ c ∈ cs.head?, c = '/') →
      cs.takeWhile (· != '/') = [] ∧ cs.dropWhile (· != '/') = cs :=
    fun hopens => takeWhile_ne List.not_mem_nil hopens
  rw [hsplit]
  constructor
  · intro h
    have hopens := opens_moreSegments cs h
    obtain ⟨htake, hdrop⟩ := hwhole hopens
    rw [htake, hdrop]
    exact ⟨⟨Language.nil_mem_kstar pchar, h⟩, hopens⟩
  · rintro ⟨⟨-, hrest⟩, hopens⟩
    rwa [(hwhole hopens).2] at hrest

/-- What may stand in a path is empty, or opens with a slash, or is a path without one in front. -/
theorem mem_kstar_pathChar :
    cs ∈ pathChar∗ ↔ cs = [] ∨ cs ∈ rootlessPath ∨ cs ∈ literal "/" * pathChar∗ := by
  have hsplit : atLeastOne pathChar = rootlessPath + literal "/" * pathChar∗ := by
    rw [rootlessPath_eq, ← add_mul]
    rfl
  calc cs ∈ pathChar∗ ↔ cs ∈ maybe (atLeastOne pathChar) := by rw [kstar_eq]
    _ ↔ cs = [] ∨ cs ∈ atLeastOne pathChar := mem_maybe
    _ ↔ _ := by rw [hsplit, Language.mem_add]

theorem not_mem_rootlessPath {rest : List Char} : '/' :: rest ∉ rootlessPath := by
  have hslash : Lacks '/' pchar := lacks_pchar (by decide) (by decide) (by decide)
  rw [rootlessPath_eq, Language.mem_mul]
  rintro ⟨front, hfront, back, -, happend⟩
  cases front with
  | nil => exact nil_not_mem_pathChar ((Language.mem_add _ _ _).mpr (.inl hfront))
  | cons c front =>
    obtain rfl : c = '/' := (List.cons.inj happend).1
    exact hslash _ hfront List.mem_cons_self

theorem mem_absolutePath {rest : List Char} :
    '/' :: rest ∈ absolutePath ↔ rest = [] ∨ rest ∈ rootlessPath := by
  have hslash : IsClass (· == '/') (literal "/") := .literal rfl
  unfold absolutePath
  rw [hslash.cons_mem_mul, mem_maybe]
  simp [rootlessPath]

/-! ## Whole URIs -/

theorem isScheme_iff_mem_scheme : isScheme cs = true ↔ cs ∈ scheme := by
  have hrest : IsClass (fun c => isLetter c || c.isDigit || c == '+' || c == '-' || c == '.')
      (alpha + digit + oneOf "+-.") := by
    apply ((isClass_alpha.add isClass_digit).add (.oneOf _)).congr
    intro c
    simp [or_assoc]
  unfold scheme
  cases cs with
  | nil => simp [isScheme, isClass_alpha.nil_not_mem_mul]
  | cons c rest => rw [isClass_alpha.cons_mem_mul, ← hrest.all_iff, isScheme, Bool.and_eq_true]

theorem isHierPart_iff_mem_hierPart : isHierPart cs = true ↔ cs ∈ hierPart := by
  have hslash : IsClass (· == '/') (literal "/") := .literal rfl
  have hslashes : literal "//" = literal "/" * literal "/" := literal_append "/" "/"
  have hsplit : cs ∈ hierPart ↔ cs ∈ literal "/" * (literal "/" * (authority * moreSegments)) ∨
      cs ∈ absolutePath ∨ cs ∈ rootlessPath ∨ cs = [] := by
    unfold hierPart
    simp only [hslashes, mul_assoc, Language.mem_add, Language.mem_one, or_assoc]
  rw [hsplit]
  unfold isHierPart
  split
  · next rest =>
    have hauthority : Lacks '/' authority := lacks_authority (by decide)
    have hrest : rest ∈ authority * moreSegments ↔
        rest.takeWhile (· != '/') ∈ authority ∧ rest.dropWhile (· != '/') ∈ pathChar∗ := by
      rw [mem_takeWhile hauthority opens_moreSegments, mem_moreSegments,
        and_iff_left (opens_dropWhile '/' rest)]
    rw [hslash.cons_mem_mul, hslash.cons_mem_mul, hrest, mem_absolutePath, Bool.and_eq_true,
      isAuthority_iff_mem_authority, allEncoded_iff_mem_pathChar]
    simp [not_mem_rootlessPath]
  · next hother =>
    rw [allEncoded_iff_mem_pathChar]
    cases cs with
    | nil => simp [Language.nil_mem_kstar]
    | cons c rest =>
      by_cases hc : c = '/'
      · -- Only an authority may follow two slashes.
        subst hc
        have hrest : ∀ l, rest ∉ literal "/" * l := by
          intro l h
          obtain ⟨d, rest, rfl, hd, -⟩ := hslash.mem_mul.mp h
          obtain rfl := eq_of_beq hd
          exact hother rest rfl
        rw [mem_kstar_pathChar, hslash.cons_mem_mul, hslash.cons_mem_mul, mem_kstar_pathChar,
          mem_absolutePath]
        simp [hrest, not_mem_rootlessPath]
      · have hnot : ∀ l, c :: rest ∉ literal "/" * l := by
          intro l h
          exact hc (eq_of_beq (hslash.cons_mem_mul.mp h).1)
        rw [mem_kstar_pathChar]
        unfold absolutePath
        simp [hnot]

theorem query_eq : query = (bare + oneOf "/?" + encoded)∗ := by
  unfold query
  rw [pchar_eq]
  congr 1
  ac_rfl

theorem isClass_query : IsClass (fun c => isPathChar c || c == '?') (bare + oneOf "/?") := by
  apply (isClass_bare.add (.oneOf _)).congr
  intro c
  simp [isPathChar, or_assoc]

theorem isQuery_iff_mem_query : isQuery cs = true ↔ cs ∈ query := by
  rw [query_eq]
  exact isClass_query.allEncoded_iff (by decide)

theorem lacks_query : Lacks '#' query := by
  have hmarks : Lacks '#' (oneOf "/?") := (IsClass.oneOf "/?").lacks (by decide)
  exact ((lacks_pchar (by decide) (by decide) (by decide)).add hmarks).kstar

theorem partIs_iff {part : Option (List Char)} :
    partIs isQuery part = true ↔ ∀ cs ∈ part, cs ∈ query := by
  cases part with
  | none => simp [partIs]
  | some cs => simp [partIs, isQuery_iff_mem_query]

/-- What stands in front of a query or a fragment holds no mark of either. -/
theorem lacks_front (hx : x = '?' ∨ x = '#') : Lacks x (scheme * literal ":" * hierPart) := by
  have hdelim : isGenDelim x = true ∧ isAuthorityChar x = false ∧ x ∉ ":@/".toList := by
    rcases hx with rfl | rfl
    · decide
    · decide
  obtain ⟨hgen, hauthority, hother⟩ := hdelim
  simp only [String.reduceToList, List.mem_cons, List.not_mem_nil, or_false, not_or] at hother
  obtain ⟨hcolon, hat, hslash⟩ := hother
  have hpchar : Lacks x pchar := lacks_pchar hgen hcolon hat
  have hmark : Lacks x (literal "/") := .literal (by simpa using hslash)
  have hmarks : Lacks x (literal "//") := .literal (by simpa using hslash)
  have hmore : Lacks x moreSegments := (hmark.mul hpchar.kstar).kstar
  have hrootless : Lacks x rootlessPath := hpchar.atLeastOne.mul hmore
  have hnetwork := (hmarks.mul (lacks_authority hauthority)).mul hmore
  have hhier : Lacks x hierPart :=
    ((hnetwork.add (hmark.mul hrootless.maybe)).add hrootless).add .one
  exact ((lacks_scheme hgen).mul (.literal (by simpa using hcolon))).mul hhier

/-- The recogniser takes a text exactly if it is a URI by the rules. -/
theorem isUri_iff_mem_uri : isUri cs = true ↔ cs ∈ uri := by
  have hcolon : ":".toList = [':'] := rfl
  have hquestion : "?".toList = ['?'] := rfl
  have hnumber : "#".toList = ['#'] := rfl
  have hscheme : Lacks ':' scheme := lacks_scheme (by decide)
  have hquery : Lacks '#' (maybe (literal "?" * query)) :=
    ((Lacks.literal (by decide)).mul lacks_query).maybe
  unfold uri isUri
  rw [mem_cut_last hnumber ((lacks_front (.inr rfl)).mul hquery),
    mem_cut_last hquestion (lacks_front (.inl rfl)), mem_cut hcolon hscheme]
  -- The fragment is cut off first, then the query and last the scheme.
  rcases Text.cutAtList '#' cs with ⟨beforeFragment, fragment⟩
  rcases hq : Text.cutAtList '?' beforeFragment with ⟨beforeQuery, query⟩
  rcases hs : Text.cutAtList ':' beforeQuery with ⟨name, _ | rest⟩
  · simp [hq, hs]
  · simp [hq, hs, isScheme_iff_mem_scheme, isHierPart_iff_mem_hierPart, partIs_iff]

example : "http://u@[1:2::1.2.3.4]:80/a//b?c#d".toList ∈ uri := isUri_iff_mem_uri.mp (by decide)

example : "urn:verify:50%".toList ∉ uri := fun h => absurd (isUri_iff_mem_uri.mpr h) (by decide)

end Eligibility.Uri.Rule
