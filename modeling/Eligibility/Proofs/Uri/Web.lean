import Eligibility.Proofs.Text.Case
import Eligibility.Proofs.Text.Lines
import Eligibility.Proofs.Uri.Grammar
import Eligibility.Uri.Location
import Eligibility.Uri.Web
set_option autoImplicit false

/-!
# URIs: web addresses and the hosts of locations

The check of a web address passes over controls, spaces at the ends and line breaks, and
so does the lenient reading of a location.  A URI has none of them, so nothing of it is
passed over; and a host has no line break and nothing that ends an authority, however
the location is written that it is read from.
-/

namespace Eligibility.Uri

open Text (OneLine)

/-! ## Web addresses -/

/-- No character of a URI is passed over. -/
theorem countingChars_of_isUriChar {cs : List Char} (h : ∀ c ∈ cs, isUriChar c = true) :
    countingChars cs = cs := by
  have hvisible : ∀ c ∈ cs, 32 < c.toNat := fun c hc => (toNat_of_isUriChar (h c hc)).1
  have htrim : Text.trimEndsList (fun c => decide (c.toNat ≤ 32)) cs = cs := by
    refine Text.trimEndsList_of_forall ?_
    intro c hc
    simpa using hvisible c hc
  rw [countingChars, htrim, List.filter_eq_self]
  intro c hc
  have hne : ∀ d : Char, d.toNat ≤ 32 → (c != d) = true := by
    intro d hd
    rw [bne_iff_ne]
    rintro rfl
    exact absurd (hvisible _ hc) (by omega)
  rw [hne '\t' (by decide), hne '\n' (by decide), hne '\r' (by decide)]
  rfl

/-- A name that does not open with slashes is a web address, whatever it holds. -/
theorem isWebAddress_urn [Idna] {first : Char} {path : List Char} (hfirst : first ≠ '/')
    (h : ∀ c ∈ first :: path, isUriChar c = true) :
    isWebAddress (String.ofList ('u' :: 'r' :: 'n' :: ':' :: first :: path)) = true := by
  have hcounting : countingChars ('u' :: 'r' :: 'n' :: ':' :: first :: path) =
      'u' :: 'r' :: 'n' :: ':' :: first :: path := by
    have hlead : ∀ c ∈ ['u', 'r', 'n', ':'], isUriChar c = true :=
      List.all_eq_true.mp (by decide)
    refine @countingChars_of_isUriChar (['u', 'r', 'n', ':'] ++ first :: path) ?_
    intro c hc
    rcases List.mem_append.mp hc with hc | hc
    · exact hlead c hc
    · exact h c hc
  have hbody : isBody ['u', 'r', 'n'] (first :: path) = true := by
    have hhost : isHostScheme ['u', 'r', 'n'] = false := by decide
    unfold isBody
    rw [hhost]
    simp only [Bool.false_eq_true, if_false]
    split
    · next heq => simp at heq
    · split
      · next heq => exact absurd (List.cons.inj heq).1 hfirst
      · rfl
  unfold isWebAddress
  rw [String.toList_ofList, hcounting]
  exact hbody

/-! ## Hosts that are plain ASCII

What is taken where nothing stands for other names is taken whatever stands for them. -/

section

variable [Idna] {cs : List Char}

theorem asciiName?_of_plain {name : List Char} (h : @asciiName? .plain cs = some name) :
    asciiName? cs = some name := by
  unfold asciiName? at h ⊢
  split
  · next hplain => rwa [if_pos hplain] at h
  · next hplain =>
    have hnone : @Idna.toAscii? .plain cs = none := rfl
    simp [if_neg hplain, hnone] at h

theorem isDomain_of_plain (h : @isDomain .plain cs = true) : isDomain cs = true := by
  unfold isDomain at h ⊢
  cases hname : @asciiName? .plain (decodedText (String.ofList cs)).toList with
  | none => simp [hname] at h
  | some name =>
    rw [hname] at h
    rw [asciiName?_of_plain hname]
    exact h

theorem isResolvedHost_of_plain (h : @isResolvedHost .plain cs = true) :
    isResolvedHost cs = true := by
  unfold isResolvedHost at h ⊢
  split at h
  · exact h
  · exact isDomain_of_plain h

theorem isHostAuthority_of_plain (h : @isHostAuthority .plain cs = true) :
    isHostAuthority cs = true := by
  unfold isHostAuthority at h ⊢
  simp only [Bool.and_eq_true] at h ⊢
  exact ⟨⟨h.1.1, isResolvedHost_of_plain h.1.2⟩, h.2⟩

theorem isFileBody_of_plain (h : @isFileBody .plain cs = true) : isFileBody cs = true := by
  unfold isFileBody at h ⊢
  split at h
  · split
    · next hslashes =>
      rw [if_pos hslashes] at h
      simp only [Bool.or_eq_true] at h ⊢
      exact h.imp_right isResolvedHost_of_plain
    · rfl
  · rfl

theorem isBody_of_plain {scheme : List Char} (h : @isBody .plain scheme cs = true) :
    isBody scheme cs = true := by
  unfold isBody at h ⊢
  split
  · next hhost =>
    rw [if_pos hhost] at h
    exact isHostAuthority_of_plain h
  · next hhost =>
    rw [if_neg hhost] at h
    split
    · next hfile =>
      rw [if_pos hfile] at h
      exact isFileBody_of_plain h
    · next hfile =>
      rw [if_neg hfile] at h
      exact h

/-- An address is one whatever names stand for if it is one where only plain ASCII is a name. -/
theorem isWebAddress_of_plain {s : String} (h : @isWebAddress .plain s = true) :
    isWebAddress s = true := by
  unfold isWebAddress at h ⊢
  simp only at h ⊢
  split at h
  · simp only [Bool.and_eq_true] at h ⊢
    exact ⟨h.1, isBody_of_plain h.2⟩
  · exact h

theorem forall_isWebAddress_of_plain {uris : List String}
    (h : ∀ uri ∈ uris, @isWebAddress .plain uri = true) : ∀ uri ∈ uris, isWebAddress uri = true :=
  fun uri huri => isWebAddress_of_plain (h uri huri)

end

/-! ## Hosts -/

namespace Location

/-- The network part of a location has nothing that ends it, and no line break. -/
theorem ne_of_mem_network {s : String} {l : Location} (h : read? s = some l) {c : Char}
    (hc : c ∈ l.network) :
    (c ≠ '\n' ∧ c ≠ '\r') ∧ c ≠ '/' ∧ c ≠ '?' ∧ c ≠ '#' := by
  have hfilter : ∀ cs : List Char, (∀ c ∈ cs, c ≠ '\n' ∧ c ≠ '\r') →
      ∀ c ∈ (splitScheme cs).2, c ≠ '\n' ∧ c ≠ '\r' := by
    intro cs hcs c hc
    unfold splitScheme at hc
    split at hc
    · next hcut =>
      split at hc
      · rw [(Text.cutAtList_eq_some.mp hcut).2] at hcs
        exact hcs c (List.mem_append_right _ (List.mem_cons_of_mem _ hc))
      · exact hcs c hc
    · exact hcs c hc
  have hnetwork : ∀ cs : List Char, ∀ c ∈ network? cs, c ∈ cs ∧ c ≠ '/' ∧ c ≠ '?' ∧ c ≠ '#' := by
    intro cs c hc
    unfold network? at hc
    split at hc
    · have hend := List.mem_takeWhile_imp hc
      simp only [Bool.and_eq_true, bne_iff_ne] at hend
      refine ⟨?_, hend.1.1, hend.1.2, hend.2⟩
      exact List.mem_cons_of_mem _ (List.mem_cons_of_mem _ ((List.takeWhile_sublist _).subset hc))
    · simp at hc
  unfold read? at h
  simp only [Option.ite_none_right_eq_some, Option.some.injEq] at h
  obtain ⟨-, rfl⟩ := h
  obtain ⟨hmem, hends⟩ := hnetwork _ c hc
  refine ⟨hfilter _ ?_ c hmem, hends⟩
  intro d hd
  have hkept := (List.mem_filter.mp hd).2
  simp only [Bool.and_eq_true, bne_iff_ne] at hkept
  exact ⟨hkept.1.2, hkept.2⟩

/-- A host in small letters has no mark in front of the letters that its network part has not. -/
theorem mem_network_of_mem_host {l : Location} {d : Char} (hd : d ∈ l.host.toList)
    (hlt : d.toNat < 0x40) (hne : d.toNat ≠ 0) : d ∈ l.network := by
  have huser : ∀ d ∈ (Text.cutAtLastList '@' l.network).2, d ∈ l.network := by
    intro d hd
    have hcut := Text.mem_of_mem_cutAtList (List.mem_reverse.mp hd)
    exact List.mem_reverse.mp hcut
  have hname : ∀ name : List Char,
      d ∈ (Text.lower (String.ofList (name.takeWhile (· != '%'))) ++
        String.ofList (name.dropWhile (· != '%'))).toList → d ∈ name := by
    intro name hd
    rw [String.toList_append, List.mem_append, String.toList_ofList] at hd
    rcases hd with hd | hd
    · have hsmall := Text.mem_of_mem_lower hd hlt hne
      rw [String.toList_ofList] at hsmall
      exact (List.takeWhile_sublist _).subset hsmall
    · exact (List.dropWhile_sublist _).subset hd
  refine huser d ?_
  unfold host at hd
  cases hcut : Text.cutAtList '[' (Text.cutAtLastList '@' l.network).2 with
  | mk plain rest =>
    simp only [hcut] at hd
    cases rest with
    | some bracketed =>
      rw [(Text.cutAtList_eq_some.mp hcut).2]
      exact List.mem_append_right _
        (List.mem_cons_of_mem _ ((List.takeWhile_sublist _).subset (hname _ hd)))
    | none =>
      obtain ⟨-, rfl⟩ := Text.cutAtList_eq_none.mp hcut
      exact (List.takeWhile_sublist _).subset (hname _ hd)

/-- A host has nothing that ends an authority, and no line break. -/
theorem ne_of_mem_host {s : String} {l : Location} (h : read? s = some l) {c : Char}
    (hc : c ∈ l.host.toList) : (c ≠ '\n' ∧ c ≠ '\r') ∧ c ≠ '/' ∧ c ≠ '?' ∧ c ≠ '#' := by
  have hnot : ∀ d : Char, d.toNat < 0x40 → d.toNat ≠ 0 → d ∉ l.network → c ≠ d := by
    intro d hlt hne hd heq
    exact hd (mem_network_of_mem_host (heq ▸ hc) hlt hne)
  have hend := @ne_of_mem_network s l h
  refine ⟨⟨?_, ?_⟩, ?_, ?_, ?_⟩
  · exact hnot '\n' (by decide) (by decide) fun hd => (hend hd).1.1 rfl
  · exact hnot '\r' (by decide) (by decide) fun hd => (hend hd).1.2 rfl
  · exact hnot '/' (by decide) (by decide) fun hd => (hend hd).2.1 rfl
  · exact hnot '?' (by decide) (by decide) fun hd => (hend hd).2.2.1 rfl
  · exact hnot '#' (by decide) (by decide) fun hd => (hend hd).2.2.2 rfl

end Location

end Eligibility.Uri
