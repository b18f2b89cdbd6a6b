import Eligibility.Text.Blank
import Eligibility.Text.Lines
set_option autoImplicit false

/-!
# Resources: the section of a statement

The resources of a statement stand after a line that says so, each on a line of
its own behind a marker.  Lines of the section without the marker are no
resources, and nothing before the section is.
-/

namespace Eligibility.Resource

/-- The line that opens the section. -/
def sectionHeader : String := "Resources:"

/-- What stands in front of each resource. -/
def marker : String := "- "

/-- The resources among the lines of a statement. -/
def ofSection (lines : List String) : List String :=
  (lines.dropWhile (· != sectionHeader)).filterMap (Text.after? marker)

/-- The resources of a statement, in order. -/
def linesOf (message : String) : List String := ofSection (Text.lines message)

theorem ofSection_eq_nil {lines : List String} (h : sectionHeader ∉ lines) :
    ofSection lines = [] := by
  have : lines.dropWhile (· != sectionHeader) = [] := by
    induction lines with
    | nil => rfl
    | cons line rest ih =>
      simp only [List.mem_cons, not_or] at h
      simp [Ne.symm h.1, ih h.2]
  simp [ofSection, this]

end Eligibility.Resource
