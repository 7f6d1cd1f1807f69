import Loom.Error
import Loom.Tree.Codec

/-!
# Loading trees

Reading a tree that is about to be woven: the text must be the document form of a tree, and the tree
must be well formed.
-/

namespace Loom

def Module.load (text : String) : Except WeaveError Module :=
  match Module.ofJson? text with
  | none => .error .badDocument
  | some m => do
    m.validate
    .ok m

end Loom
