/-!
# Refused patterns
-/

namespace Loom

/-- Why a pattern is refused. -/
inductive PatternFault where
  | malformed
  | tooLarge
  deriving DecidableEq, Repr

/-- The first line of the explanation. -/
def PatternFault.headline : PatternFault → String
  | malformed => "regex parse error:"
  | tooLarge => "Compiled regex exceeds size limit of 10485760 bytes."

end Loom
