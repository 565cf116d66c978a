/-!
# The program's name and version
-/

set_option autoImplicit false

namespace ScriptLiterals.Program

/-- The name the program goes by. -/
def name : String := "verbatim"

/-- The version of the program. -/
def version : String := "0.1.0"

end ScriptLiterals.Program
