import Eligibility.Proofs.Resource.Line
import Eligibility.Proofs.Trait.Faults
import Eligibility.Proofs.Uri.Grammar
set_option autoImplicit false

/-!
# Resources: trait lines and the traits that they hold

A trait is written as a line of its provider and read back from the line alone.
Whoever reads the line finds what the writer would find in the raw value, be it a
requirement or the reason why there is none; and a line that is read is exactly the
one that its requirement is written to.  No other provider finds anything in it.
-/

namespace Eligibility.Resource

open Trait (Fault Raw Requirement Operator IsToken comparison)

/-! ## Reading what was written -/

/-- What reading the parts of a trait finds, as it is told of the line that holds them. -/
def inLine (line : String) : Except Fault Requirement → Except Fault Requirement
  | .error (.emptyChoice _) => .error (.malformedLine line .emptyChoice)
  | found => found

theorem readTrait_encoded {line name text : String} {operator : Operator} (hname : IsToken name)
    (htext : Uri.isPathText text = true) :
    readTrait line (name ++ ":" ++ operator.text ++ ":" ++ text) =
      inLine line (Requirement.read name operator text) := by
  have hparts : traitParts? (name ++ ":" ++ operator.text ++ ":" ++ text) =
      some (name, operator.text, text) :=
    traitParts?_eq_some.mpr ⟨hname.noColon, operator.noColon, by simp [String.append_assoc]⟩
  simp only [readTrait, hparts, Trait.ne_empty_of_isPathText hname.isPathText,
    Operator.ofText?_text, Trait.ne_empty_of_isPathText htext, hname.isPathText, htext,
    Bool.not_true, Bool.or_self, Bool.false_eq_true, ↓reduceIte]
  unfold inLine
  rfl

/-- A provider reads what follows its own scope. -/
theorem traitOf?_scoped {p : String} (hp : IsToken p) (body : String) :
    traitOf? (providerLead ++ p ++ ":" ++ body) (.text p) =
      (readTrait (providerLead ++ p ++ ":" ++ body) body).map some := by
  have hscope : provider (.text p) = .ok (providerLead ++ p) :=
    provider_eq_ok.mpr ⟨p, rfl, hp, rfl⟩
  have hafter : Text.after? (providerLead ++ p ++ ":") (providerLead ++ p ++ ":" ++ body) =
      some body := Text.after?_eq_some.mpr rfl
  unfold traitOf?
  rw [hscope]
  simp only [bind, Except.bind, hafter]
  cases readTrait (providerLead ++ p ++ ":" ++ body) body <;> rfl

/-- The scope of a line ends at the first colon, so a line stands in one scope only. -/
theorem scope_injective {p q body rest : String} (hp : ':' ∉ p.toList) (hq : ':' ∉ q.toList)
    (h : providerLead ++ p ++ ":" ++ body = providerLead ++ q ++ ":" ++ rest) : p = q := by
  have heq := congrArg String.toList h
  simp only [String.toList_append, List.append_assoc, List.append_cancel_left_eq] at heq
  have hcutp : Text.cutAt ':' (p ++ ":" ++ body) = (p, some body) :=
    Text.cutAt_eq_some.mpr ⟨hp, by simp⟩
  have hcutq : Text.cutAt ':' (p ++ ":" ++ body) = (q, some rest) :=
    Text.cutAt_eq_some.mpr ⟨hq, by simpa using heq⟩
  exact congrArg Prod.fst (hcutp.symm.trans hcutq)

/-- A provider finds nothing in the scope of another one. -/
theorem traitOf?_of_ne {p q : String} (hp : IsToken p) (hq : IsToken q) (hne : q ≠ p)
    (body : String) : traitOf? (providerLead ++ p ++ ":" ++ body) (.text q) = .ok none := by
  have hscope : provider (.text q) = .ok (providerLead ++ q) :=
    provider_eq_ok.mpr ⟨q, rfl, hq, rfl⟩
  have hafter :
      Text.after? (providerLead ++ q ++ ":") (providerLead ++ p ++ ":" ++ body) = none := by
    rw [Option.eq_none_iff_forall_ne_some]
    intro rest hrest
    exact hne (scope_injective hp.noColon hq.noColon (Text.after?_eq_some.mp hrest)).symm
  unfold traitOf?
  rw [hscope]
  simp only [bind, Except.bind, hafter]
  rfl

/-! ## Writing what was read -/

/-- The raw form of a requirement is taken apart where it was put together. -/
theorem comparison_raw {r : Requirement} (h : Uri.isPathText r.text = true) :
    comparison r.raw = (r.operator, r.text) := by
  have hcut : Text.cutAt ':' r.raw = (r.operator.text, some r.text) :=
    Text.cutAt_eq_some.mpr ⟨r.operator.noColon, by simp [Requirement.raw]⟩
  have hline : r.text.toList.contains '\n' = false := by
    simpa using (Uri.oneLine_of_isPathText h).noFeed
  simp only [comparison, hcut, Operator.ofText?_text, Trait.ne_empty_of_isPathText h, hline]
  rfl

/-! ## The two ways together -/

/-- What is found in a line that was written is what stands in the raw value: the requirement, a
choice without a text, or a whole number with too many digits. -/
theorem traitOf?_of_trait {p n line : String} {raw : Raw}
    (h : trait (.text p) (.text n) raw = .ok line) :
    (∃ r, Requirement.parse n raw = .ok r ∧ traitOf? line (.text p) = .ok (some r)) ∨
    (∃ text, Requirement.parse n raw = .error (.emptyChoice text) ∧
      traitOf? line (.text p) = .error (.malformedLine line .emptyChoice)) ∨
    (∃ count, Requirement.parse n raw = .error (.tooManyDigits count) ∧
      traitOf? line (.text p) = .error (.tooManyDigits count)) := by
  obtain ⟨_, _, operator, text, ⟨⟩, hp, ⟨⟩, hn, hshort, hcomparison, htext, rfl⟩ :=
    trait_eq_ok.mp h
  have hparse : Requirement.parse n raw = Requirement.read n operator text := by
    rw [Requirement.parse, Raw.render_eq_ok.mpr ⟨hshort, rfl⟩]
    simp [bind, Except.bind, hcomparison]
  rw [traitOf?_scoped hp, readTrait_encoded hn htext, hparse]
  cases hread : Requirement.read n operator text with
  | ok r => exact .inl ⟨r, rfl, rfl⟩
  | error fault =>
    rcases Trait.Value.read_eq_error.mp (Requirement.read_eq_error.mp hread) with
      ⟨-, -, rfl⟩ | ⟨-, count, rfl, -⟩
    · exact .inr (.inl ⟨text, rfl, rfl⟩)
    · exact .inr (.inr ⟨count, rfl, rfl⟩)

/-- A requirement that is read from a line is written back to that line, and its raw form stands for
it. -/
theorem trait_of_traitOf? {line p : String} {r : Requirement}
    (h : traitOf? line (.text p) = .ok (some r)) :
    trait (.text p) (.text r.name) (.text r.raw) = .ok line ∧
      Requirement.parse r.name (.text r.raw) = .ok r := by
  obtain ⟨hp, hn, htext, rfl⟩ := traitOf?_eq_some.mp h
  have hcomparison : comparison (Raw.text r.raw).written = (r.operator, r.text) :=
    comparison_raw htext
  refine ⟨?_, Requirement.parse_eq_ok.mpr ⟨rfl, rfl, hcomparison⟩⟩
  refine trait_eq_ok.mpr
    ⟨p, r.name, r.operator, r.text, rfl, hp, rfl, hn, rfl, hcomparison, htext, ?_⟩
  simp [traitLine, Requirement.encode, Requirement.raw, String.append_assoc]

/-- Writing and reading a trait are a pair.  A line that is written says to its provider what the
raw value says by itself, the requirement or the fault, and nothing to any other provider; and a
line that holds a requirement is the one that the requirement is written to. -/
theorem trait_traitOf?_pair (given : Json) :
    (∀ name raw line, trait given name raw = .ok line →
      ∃ n, name = .text n ∧
        ((∃ r, Requirement.parse n raw = .ok r ∧ traitOf? line given = .ok (some r)) ∨
          (∃ text, Requirement.parse n raw = .error (.emptyChoice text) ∧
            traitOf? line given = .error (.malformedLine line .emptyChoice)) ∨
          (∃ count, Requirement.parse n raw = .error (.tooManyDigits count) ∧
            traitOf? line given = .error (.tooManyDigits count))) ∧
        ∀ other scope, provider other = .ok scope → other ≠ given →
          traitOf? line other = .ok none) ∧
    ∀ line r, traitOf? line given = .ok (some r) →
      trait given (.text r.name) (.text r.raw) = .ok line ∧
        Requirement.parse r.name (.text r.raw) = .ok r := by
  constructor
  · intro name raw line hline
    obtain ⟨p, n, operator, text, rfl, hp, rfl, -, -, -, -, heq⟩ := trait_eq_ok.mp hline
    refine ⟨n, rfl, traitOf?_of_trait hline, ?_⟩
    intro other scope hother hne
    obtain ⟨q, rfl, hq, -⟩ := provider_eq_ok.mp hother
    rw [heq]
    exact traitOf?_of_ne hp hq (fun hqp => hne (congrArg Json.text hqp)) _
  · intro line r hread
    obtain ⟨p, rfl⟩ : ∃ p, given = .text p := by
      cases given with
      | text p => exact ⟨p, rfl⟩
      | null | boolean _ | whole _ | real _ | array _ | object _ =>
        simp [traitOf?, provider, Trait.token, Trait.uriText, bind, Except.bind] at hread
    exact trait_of_traitOf? hread

/-- A value that looks like an operator with a value, and holds colons, is kept as it is. -/
theorem trait_traitOf?_pair_nested :
    ∃ line r, trait (.text "x") (.text "ratio") (.text "eq:gt:5:7") = .ok line ∧
      line = "urn:verify:provider:x:ratio:eq:gt:5:7" ∧
      traitOf? line (.text "x") = .ok (some r) ∧ r.text = "gt:5:7" ∧
      traitOf? line (.text "y") = .ok none ∧
      trait (.text "x") (.text r.name) (.text r.raw) = .ok line := by
  have hline : trait (.text "x") (.text "ratio") (.text "eq:gt:5:7") =
      .ok "urn:verify:provider:x:ratio:eq:gt:5:7" := by rfl
  obtain ⟨hwritten, hread⟩ := trait_traitOf?_pair (.text "x")
  obtain ⟨n, hn, hoften, hothers⟩ := hwritten _ _ _ hline
  have hparse : Requirement.parse "ratio" (.text "eq:gt:5:7") =
      .ok ⟨"ratio", .eq, "gt:5:7", .text "gt:5:7", by rfl⟩ := by rfl
  obtain rfl := Json.text.inj hn
  rcases hoften with ⟨r, hr, hfound⟩ | ⟨_, hr, -⟩ | ⟨_, hr, -⟩
  · obtain rfl := Except.ok.inj (hparse.symm.trans hr)
    refine ⟨_, _, hline, rfl, hfound, rfl, ?_, (hread _ _ hfound).1⟩
    exact hothers (.text "y") "urn:verify:provider:y" (by rfl) (by simp)
  · simp [hparse] at hr
  · simp [hparse] at hr

end Eligibility.Resource
