/-!
# Addresses

The address of a declaration inside its module: the module's local name, a colon, and the names of
the enclosing declarations and its own with slashes between them.
-/

namespace Loom

/-- An address, and how many names it has. -/
structure Address where
  text : String
  depth : Nat
  deriving DecidableEq, Repr

namespace Address

/-- The address of the module itself. -/
def root (localName : String) : Address := ⟨localName ++ ":", 0⟩

/-- The address of `name` inside. -/
def child (a : Address) (name : String) : Address :=
  if a.depth = 0 then ⟨a.text ++ name, 1⟩ else ⟨a.text ++ "/" ++ name, a.depth + 1⟩

end Address

end Loom
