import Eligibility.Proofs.Resource.Build
import Eligibility.Proofs.Uri.Derivation
set_option autoImplicit false

/-!
# Resources: identifiers

Whatever is built into a statement as a resource is a URI by the rules of the
generic syntax, not only by the recogniser that reads it: its scheme is `urn`, and
behind the colon stands a path whose first segment opens with `verify`.  A part that
a caller gives may hold slashes, which open further segments, and triplets.
-/

namespace Eligibility.Resource

open Uri.Rule (pathChar)
open scoped Computability

/-- A character of a URI is neither a space nor a control, and it is ASCII. -/
theorem visible_of_isUriChar {c : Char} (h : Uri.isUriChar c = true) :
    0x21 ≤ c.toNat ∧ c.toNat ≤ 0x7e := by
  obtain ⟨hlower, hupper⟩ := Uri.toNat_of_isUriChar h
  have hdelete : c.toNat ≠ 0x7f := by
    intro heq
    have hc : c = Char.ofNat 0x7f := by rw [← heq, Char.ofNat_toNat]
    rw [hc] at h
    exact absurd h (by decide)
  omega

/-- What holds of the identifier of a resource. -/
structure IsIdentifier (uri : String) : Prop where
  derivable : uri.toList ∈ Uri.Rule.uri
  visible : ∀ c ∈ uri.toList, 0x21 ≤ c.toNat ∧ c.toNat ≤ 0x7e
  /-- The line of the statement that names the resource. -/
  line : (marker ++ uri).toList ∈ Uri.Rule.resource

theorem IsResource.isIdentifier {uri : String} (h : IsResource uri) : IsIdentifier uri where
  derivable := Uri.Rule.isUri_iff_mem_uri.mp h.isUri
  visible := by
    intro c hc
    apply visible_of_isUriChar
    exact List.all_eq_true.mp (Uri.all_of_isUri h.isUri) c hc
  line := by
    rw [String.toList_append]
    apply Language.append_mem_mul _ (Uri.Rule.isUri_iff_mem_uri.mp h.isUri)
    exact Uri.Rule.mem_literal.mpr rfl

/-- Every resource that is built is an identifier by the rules, and a part is let into one exactly
if it is a row of what the rules let stand in a path. -/
theorem identifiers_derivable :
    (∀ r uris, ofRequest r = .ok uris → ∀ uri ∈ uris, IsIdentifier uri) ∧
      ∀ s, Uri.isPathText s = true ↔ s.toList ∈ pathChar * pathChar∗ := by
  refine ⟨?_, ?_⟩
  · intro r uris hbuilt uri huri
    exact (isResource_of_ofRequest hbuilt uri huri).isIdentifier
  · intro s
    exact Uri.Rule.isPathText_iff_mem_pathChar

/-- A request whose parts hold slashes, colons and a triplet. -/
def webRequest : Request where
  provider := .text "web"
  traits := [("site", .text "in:a//b,%7Ec:d")]
  action := .text "/join@2"

/-- Slashes, colons and a triplet of a part stand in the identifier as they are; a space and a
percent sign on its own are no part of one. -/
theorem identifiers_derivable_web :
    ∃ uris, ofRequest webRequest = .ok uris ∧
      uris = ["urn:verify:provider:web", "urn:verify:provider:web:site:in:a//b,%7Ec:d",
        "urn:verify:action:/join@2"] ∧
      (∀ uri ∈ uris, IsIdentifier uri) ∧ "a//b,%7Ec:d".toList ∈ pathChar * pathChar∗ ∧
      "a b".toList ∉ pathChar * pathChar∗ ∧ "50%".toList ∉ pathChar * pathChar∗ := by
  obtain ⟨hidentifiers, hparts⟩ := identifiers_derivable
  have hbuilt : ofRequest webRequest = .ok ["urn:verify:provider:web",
      "urn:verify:provider:web:site:in:a//b,%7Ec:d", "urn:verify:action:/join@2"] := by rfl
  refine ⟨_, hbuilt, rfl, hidentifiers _ _ hbuilt, ?_, ?_, ?_⟩
  · apply (hparts _).mp
    decide
  · rw [← hparts]
    decide
  · rw [← hparts]
    decide

end Eligibility.Resource
