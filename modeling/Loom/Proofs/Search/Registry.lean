import Loom.Proofs.Aspect.Worklist
import Loom.Proofs.Distinct
import Loom.Search.Registry

/-!
# Paths kept once

Adding paths one after the other to a list of known ones leaves the known ones in place and appends
what is new (`newPaths`): of paths with the same components the first spelling, and none that is
known.
-/

namespace Loom

/-- The first spelling of each path that is the same as none of `known`. -/
def newPaths (known paths : List FilePath) : List FilePath :=
  (paths.filter fun p => !known.any (·.same p)).eraseDupsBy FilePath.same

/-! Adding a path is adding an element unless one with its components is there. -/

@[simp] theorem newPaths_nil (known : List FilePath) : newPaths known [] = [] := rfl

theorem newPaths_cons (known : List FilePath) (p : FilePath) (paths : List FilePath) :
    newPaths known (p :: paths) =
      if known.any (·.same p) then newPaths known paths
      else p :: newPaths (known ++ [p]) paths :=
  newOnes_cons FilePath.identifies known p paths

theorem newPaths_append (known as bs : List FilePath) :
    newPaths known (as ++ bs) = newPaths known as ++ newPaths (known ++ newPaths known as) bs :=
  newOnes_append FilePath.identifies known as bs

/-- A path is known or new, in some spelling. -/
theorem any_same_append_newPaths (known paths : List FilePath) (q : FilePath) :
    (known ++ newPaths known paths).any (·.same q) = (known ++ paths).any (·.same q) :=
  any_same_append_newOnes FilePath.identifies known paths q

theorem mem_newPaths {known paths : List FilePath} {p : FilePath} (h : p ∈ newPaths known paths) :
    p ∈ paths ∧ known.any (·.same p) = false :=
  mem_newOnes FilePath.identifies h

theorem newPaths_pairwise (known paths : List FilePath) :
    (newPaths known paths).Pairwise fun p q => p.same q = false :=
  newOnes_pairwise FilePath.identifies known paths

theorem newPaths_eraseDupsBy (known paths : List FilePath) :
    newPaths known (paths.eraseDupsBy FilePath.same) = newPaths known paths := by
  have all : paths.eraseDupsBy FilePath.same = newPaths [] paths :=
    (newOnes_of_none_known paths).symm
  rw [all]
  exact newOnes_newOnes FilePath.identifies paths (by simp)

namespace Registry

theorem entries_registerAll (r : Registry) (paths : List FilePath) :
    (r.registerAll paths).entries = r.entries ++ newPaths r.entries paths := by
  have added : (r.registerAll paths).entries = paths.foldl addPath r.entries := by
    induction paths generalizing r with
    | nil => rfl
    | cons p paths ih => exact ih (r.register p)
  exact added.trans (foldl_addNew FilePath.identifies r.entries paths)

end Registry

end Loom
