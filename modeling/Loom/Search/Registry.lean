import Loom.Path

/-!
# Registered search paths

The directories that woven modules need on their search path, in the order in which they were
registered. Of paths with the same components the first spelling is kept.
-/

namespace Loom

/-- Adds a path at the end unless one with its components is there. -/
def addPath (paths : List FilePath) (p : FilePath) : List FilePath :=
  if paths.any (·.same p) then paths else paths ++ [p]

structure Registry where
  entries : List FilePath
  deriving Repr

namespace Registry

def empty : Registry := ⟨[]⟩

def size (r : Registry) : Nat := r.entries.length

def isEmpty (r : Registry) : Bool := r.entries.isEmpty

def contains (r : Registry) (p : FilePath) : Bool := r.entries.any (·.same p)

def register (r : Registry) (p : FilePath) : Registry := ⟨addPath r.entries p⟩

def registerAll (r : Registry) (paths : List FilePath) : Registry := paths.foldl register r

end Registry

end Loom
