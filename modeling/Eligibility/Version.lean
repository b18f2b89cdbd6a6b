set_option autoImplicit false

/-!
# The version
-/

namespace Eligibility

/-- The version of the program. -/
def version : String := "0.1.0"

end Eligibility
