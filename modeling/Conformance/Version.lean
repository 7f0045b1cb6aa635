/-! # Version -/

namespace Conformance

/-- The name of the program. -/
def programName : String := "fixture-harness"

/-- The version of the program. -/
def version : String := "0.1.0"

end Conformance
