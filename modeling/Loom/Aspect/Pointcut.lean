import Loom.Error
import Loom.Pattern.Compile
import Loom.Tree.Address

/-!
# Pointcuts

A pattern over addresses. Its text is put after a start anchor and into a group, so that a match
begins at the start of the address, unless the text itself closes that group.
-/

namespace Loom

structure Pointcut where
  pattern : String
  regex : Regex

namespace Pointcut

/-- The text that is compiled for a pattern. -/
def anchored (pattern : String) : List Char := "^(?:".toList ++ pattern.toList ++ ")".toList

def ofPattern (pattern : String) : Except WeaveError Pointcut :=
  match Regex.parse (anchored pattern) with
  | .ok regex => .ok ⟨pattern, regex⟩
  | .error fault => .error (.badPattern pattern fault)

def isMatch (p : Pointcut) (address : String) : Bool := p.regex.isMatch address.toList

end Pointcut

end Loom
