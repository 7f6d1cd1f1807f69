import Loom.Error
import Loom.Text.Segments

/-!
# Declaration handles

The handle `pkg.module.name` of a declaration: a dotted module and a name in it.
-/

namespace Loom

structure Declaration where
  module : String
  name : String
  deriving DecidableEq, Repr

namespace Declaration

def text (d : Declaration) : String := d.module ++ "." ++ d.name

/-- Reads a handle: at least two segments, none of them empty. -/
def parse (s : String) : Except WeaveError Declaration :=
  match (Text.splitChars '.' s.toList).reverse with
  | name :: first :: rest =>
    if (name :: first :: rest).any List.isEmpty then .error (.badDeclaration s)
    else .ok ⟨String.ofList (Text.joinChars '.' (first :: rest).reverse), String.ofList name⟩
  | _ => .error (.badDeclaration s)

end Declaration

end Loom
