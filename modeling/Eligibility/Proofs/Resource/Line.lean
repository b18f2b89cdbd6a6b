import Eligibility.Proofs.Outcome
import Eligibility.Proofs.Text.Cut
import Eligibility.Resource.Line
set_option autoImplicit false

/-!
# Resources: what a line is made of

A part of a line is a text of path characters, and a token is one without a
colon.  Colons separate the parts, so a line that is written from a provider and
a name that are tokens is cut where it was put together, and the trait that is
read back is the one that was written.
-/

namespace Eligibility.Trait

/-- A text that may stand between the colons of a line. -/
structure IsToken (s : String) : Prop where
  isPathText : Uri.isPathText s = true
  noColon : ':' ∉ s.toList

theorem IsToken.ne_empty {s : String} (h : IsToken s) : s ≠ "" := by
  rintro rfl
  exact absurd h.isPathText (by simp [Uri.isPathText_empty])

theorem ne_empty_of_isPathText {s : String} (h : Uri.isPathText s = true) : s.isEmpty = false := by
  simp only [Uri.isPathText, Bool.and_eq_true, Bool.not_eq_true'] at h
  exact h.1

theorem uriText_eq_ok {label : String} {given : Json} {s : String} :
    uriText label given = .ok s ↔ given = .text s ∧ Uri.isPathText s = true := by
  cases given with
  | text t =>
    simp only [uriText, Json.text.injEq]
    constructor
    · intro h
      split at h
      · simp at h
      · split at h
        · next hp =>
          obtain rfl := Except.ok.inj h
          exact ⟨rfl, hp⟩
        · simp at h
    · rintro ⟨rfl, h⟩
      simp [ne_empty_of_isPathText h, h]
  | null | boolean _ | whole _ | real _ | array _ | object _ => simp [uriText]

theorem token_eq_ok {label : String} {given : Json} {s : String} :
    token label given = .ok s ↔ given = .text s ∧ IsToken s := by
  unfold token
  simp only [Outcome.bind_eq_ok, uriText_eq_ok]
  constructor
  · rintro ⟨t, ⟨rfl, hp⟩, h⟩
    split at h
    · simp at h
    · next hc =>
      obtain rfl := Outcome.pure_eq_ok.mp h
      exact ⟨rfl, hp, by simpa using hc⟩
  · rintro ⟨rfl, h⟩
    exact ⟨s, ⟨rfl, h.isPathText⟩, by simp [h.noColon]⟩

theorem encode_eq_ok {name : Json} {raw : Raw} {s : String} :
    encode name raw = .ok s ↔ ∃ n operator text, name = .text n ∧ IsToken n ∧
      raw.isLong = false ∧ comparison raw.written = (operator, text) ∧
      Uri.isPathText text = true ∧ s = n ++ ":" ++ operator.text ++ ":" ++ text := by
  unfold encode
  simp only [Outcome.bind_eq_ok, token_eq_ok, Raw.render_eq_ok, uriText_eq_ok,
    Outcome.pure_eq_ok, Json.text.injEq]
  constructor
  · rintro ⟨n, ⟨rfl, hn⟩, _, ⟨hlong, rfl⟩, t, ⟨rfl, ht⟩, rfl⟩
    exact ⟨n, _, _, rfl, hn, hlong, rfl, ht, rfl⟩
  · rintro ⟨n, operator, text, rfl, hn, hlong, hc, ht, rfl⟩
    exact ⟨n, ⟨rfl, hn⟩, _, ⟨hlong, rfl⟩, text, ⟨by rw [hc], ht⟩, by rw [hc]⟩

theorem Requirement.parse_eq_ok {name : String} {raw : Raw} {r : Requirement} :
    Requirement.parse name raw = .ok r ↔
      r.name = name ∧ raw.isLong = false ∧ comparison raw.written = (r.operator, r.text) := by
  unfold Requirement.parse
  simp only [Outcome.bind_eq_ok, Raw.render_eq_ok, Requirement.read_eq_ok]
  constructor
  · rintro ⟨_, ⟨hlong, rfl⟩, hn, ho, ht⟩
    exact ⟨hn, hlong, by rw [ho, ht]⟩
  · rintro ⟨hn, hlong, hc⟩
    exact ⟨_, ⟨hlong, rfl⟩, hn, by rw [hc], by rw [hc]⟩

theorem Operator.noColon (operator : Operator) : ':' ∉ operator.text.toList := by
  cases operator <;> decide

end Eligibility.Trait

namespace Eligibility.Resource

open Trait (Fault Raw Requirement Operator IsToken)

/-! ## Writing -/

theorem provider_eq_ok {given : Json} {line : String} :
    provider given = .ok line ↔
      ∃ p, given = .text p ∧ IsToken p ∧ line = providerLead ++ p := by
  unfold provider
  simp only [Outcome.bind_eq_ok, Trait.token_eq_ok, Outcome.pure_eq_ok]
  constructor
  · rintro ⟨p, ⟨rfl, hp⟩, rfl⟩
    exact ⟨p, rfl, hp, rfl⟩
  · rintro ⟨p, rfl, hp, rfl⟩
    exact ⟨p, ⟨rfl, hp⟩, rfl⟩

theorem action_eq_ok {given : Json} {line : String} :
    action given = .ok line ↔
      ∃ a, given = .text a ∧ Uri.isPathText a = true ∧ line = actionLead ++ a := by
  unfold action
  simp only [Outcome.bind_eq_ok, Trait.uriText_eq_ok, Outcome.pure_eq_ok]
  constructor
  · rintro ⟨a, ⟨rfl, ha⟩, rfl⟩
    exact ⟨a, rfl, ha, rfl⟩
  · rintro ⟨a, rfl, ha, rfl⟩
    exact ⟨a, ⟨rfl, ha⟩, rfl⟩

theorem verification_eq_ok {given : Json} {line : String} :
    verification given = .ok line ↔
      ∃ v, given = .text v ∧ Uri.isPathText v = true ∧ line = verificationLead ++ v := by
  unfold verification
  simp only [Outcome.bind_eq_ok, Trait.uriText_eq_ok, Outcome.pure_eq_ok]
  constructor
  · rintro ⟨v, ⟨rfl, hv⟩, rfl⟩
    exact ⟨v, rfl, hv, rfl⟩
  · rintro ⟨v, rfl, hv, rfl⟩
    exact ⟨v, ⟨rfl, hv⟩, rfl⟩

/-- The line of a trait is its scope, its name, its operator and its text, with colons between. -/
theorem trait_eq_ok {given name : Json} {raw : Raw} {line : String} :
    trait given name raw = .ok line ↔ ∃ p n operator text,
      given = .text p ∧ IsToken p ∧ name = .text n ∧ IsToken n ∧ raw.isLong = false ∧
      Trait.comparison raw.written = (operator, text) ∧ Uri.isPathText text = true ∧
      line = providerLead ++ p ++ ":" ++ (n ++ ":" ++ operator.text ++ ":" ++ text) := by
  unfold trait
  simp only [Outcome.bind_eq_ok, provider_eq_ok, Trait.encode_eq_ok, Outcome.pure_eq_ok]
  constructor
  · rintro ⟨_, ⟨p, rfl, hp, rfl⟩, _, ⟨n, operator, text, rfl, hn, hlong, hc, ht, rfl⟩, rfl⟩
    exact ⟨p, n, operator, text, rfl, hp, rfl, hn, hlong, hc, ht, rfl⟩
  · rintro ⟨p, n, operator, text, rfl, hp, rfl, hn, hlong, hc, ht, rfl⟩
    exact ⟨_, ⟨p, rfl, hp, rfl⟩, _, ⟨n, operator, text, rfl, hn, hlong, hc, ht, rfl⟩, rfl⟩

/-! ## Reading -/

/-- The line that holds a requirement of a provider. -/
def traitLine (p : String) (r : Requirement) : String := providerLead ++ p ++ ":" ++ r.encode

theorem traitParts?_eq_some {s name word text : String} :
    traitParts? s = some (name, word, text) ↔
      ':' ∉ name.toList ∧ ':' ∉ word.toList ∧ s = name ++ ":" ++ (word ++ ":" ++ text) := by
  constructor
  · intro h
    unfold traitParts? at h
    split at h
    · next n rest hn =>
      split at h
      · next w t hw =>
        simp only [Option.some.injEq, Prod.mk.injEq] at h
        obtain ⟨rfl, rfl, rfl⟩ := h
        obtain ⟨hname, hs⟩ := Text.cutAt_eq_some.mp hn
        obtain ⟨hword, hrest⟩ := Text.cutAt_eq_some.mp hw
        refine ⟨hname, hword, String.toList_inj.mp ?_⟩
        simp [hs, hrest]
      · simp at h
    · simp at h
  · rintro ⟨hname, hword, rfl⟩
    have hn : Text.cutAt ':' (name ++ ":" ++ (word ++ ":" ++ text)) =
        (name, some (word ++ ":" ++ text)) := Text.cutAt_eq_some.mpr ⟨hname, by simp⟩
    have hw : Text.cutAt ':' (word ++ ":" ++ text) = (word, some text) :=
      Text.cutAt_eq_some.mpr ⟨hword, by simp⟩
    simp only [traitParts?, hn, hw]

/-- A body is read as exactly the requirement that it writes. -/
theorem readTrait_eq_ok {line body : String} {r : Requirement} :
    readTrait line body = .ok r ↔
      IsToken r.name ∧ Uri.isPathText r.text = true ∧ body = r.encode := by
  constructor
  · intro h
    unfold readTrait at h
    split at h
    · simp at h
    · next name word text hparts =>
      obtain ⟨hname, -, rfl⟩ := traitParts?_eq_some.mp hparts
      split at h
      · simp at h
      · split at h
        · simp at h
        · next operator hop =>
          split at h
          · simp at h
          · split at h
            · simp at h
            · next hpath =>
              split at h
              · simp at h
              · obtain ⟨rfl, rfl, rfl⟩ := Requirement.read_eq_ok.mp h
                obtain rfl := Operator.text_of_ofText? hop
                simp only [Bool.or_eq_true, Bool.not_eq_true', not_or, Bool.not_eq_false] at hpath
                exact ⟨⟨hpath.1, hname⟩, hpath.2, rfl⟩
  · rintro ⟨hname, htext, rfl⟩
    have hparts : traitParts? r.encode = some (r.name, r.operator.text, r.text) :=
      traitParts?_eq_some.mpr ⟨hname.noColon, r.operator.noColon, rfl⟩
    have hread : Requirement.read r.name r.operator r.text = .ok r :=
      Requirement.read_eq_ok.mpr ⟨rfl, rfl, rfl⟩
    simp only [readTrait, hparts, Trait.ne_empty_of_isPathText hname.isPathText,
      Operator.ofText?_text, Trait.ne_empty_of_isPathText htext, hname.isPathText, htext, hread]
    rfl

/-- A provider reads exactly the lines that write a requirement in its scope. -/
theorem traitOf?_eq_some {line p : String} {r : Requirement} :
    traitOf? line (.text p) = .ok (some r) ↔
      IsToken p ∧ IsToken r.name ∧ Uri.isPathText r.text = true ∧ line = traitLine p r := by
  unfold traitOf? traitLine
  simp only [Outcome.bind_eq_ok, provider_eq_ok, Json.text.injEq]
  constructor
  · rintro ⟨_, ⟨_, rfl, hp, rfl⟩, h⟩
    split at h
    · simp at h
    · next body hafter =>
      simp only [Outcome.bind_eq_ok, Outcome.pure_eq_ok, Option.some.injEq] at h
      obtain ⟨_, hbody, rfl⟩ := h
      obtain ⟨hname, htext, rfl⟩ := readTrait_eq_ok.mp hbody
      exact ⟨hp, hname, htext, Text.after?_eq_some.mp hafter⟩
  · rintro ⟨hp, hname, htext, rfl⟩
    refine ⟨_, ⟨p, rfl, hp, rfl⟩, ?_⟩
    rw [Text.after?_eq_some.mpr rfl]
    simp only [Outcome.bind_eq_ok, Outcome.pure_eq_ok, Option.some.injEq]
    exact ⟨r, readTrait_eq_ok.mpr ⟨hname, htext, rfl⟩, rfl⟩

/-- A trait that is written and can be read by itself is read back from its line. -/
theorem traitOf?_trait {p n line : String} {raw : Raw} {r : Requirement}
    (hline : trait (.text p) (.text n) raw = .ok line)
    (hr : Requirement.parse n raw = .ok r) :
    line = traitLine p r ∧ traitOf? line (.text p) = .ok (some r) := by
  obtain ⟨_, _, operator, text, ⟨⟩, hp, ⟨⟩, hn, -, hc, ht, rfl⟩ := trait_eq_ok.mp hline
  obtain ⟨rfl, -, hparse⟩ := Requirement.parse_eq_ok.mp hr
  obtain ⟨rfl, rfl⟩ := Prod.mk.inj (hc.symm.trans hparse)
  have hl : providerLead ++ p ++ ":" ++ (r.name ++ ":" ++ r.operator.text ++ ":" ++ r.text) =
      traitLine p r := by
    simp [traitLine, Requirement.encode, Requirement.raw, String.append_assoc]
  exact ⟨hl, traitOf?_eq_some.mpr ⟨hp, hn, ht, hl⟩⟩

end Eligibility.Resource
