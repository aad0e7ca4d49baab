/-!
# The version of the program
-/

namespace GoldenRun

/-- The version that the program reports. -/
def version : String := "0.1.0"

end GoldenRun
