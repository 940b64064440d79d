/-
# Version

The version of the rules that this library follows: ranges, byte layouts and published contracts.
-/
namespace Holdings

/-- The version in force. -/
def version : String := "0.1.0"

end Holdings
