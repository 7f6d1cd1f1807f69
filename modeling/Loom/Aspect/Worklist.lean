import Loom.Aspect.Advice
import Loom.Tree.Names

/-!
# Worklists

Advices in order, no two of them the same: of repeated ones the first keeps its place.
-/

namespace Loom

structure Worklist where
  advices : List Advice
  noRepeats : advices.Pairwise fun a b => a.same b = false

namespace Worklist

def empty : Worklist := ⟨[], .nil⟩

def isEmpty (w : Worklist) : Bool := w.advices.isEmpty

def size (w : Worklist) : Nat := w.advices.length

def contains (w : Worklist) (a : Advice) : Bool := w.advices.any (·.same a)

/-- Adds an advice at the end unless it is there already. -/
def append (w : Worklist) (a : Advice) : Worklist :=
  if h : w.contains a then w
  else
    ⟨w.advices ++ [a], List.pairwise_append.2 ⟨w.noRepeats, List.pairwise_singleton .., by
      simpa [contains] using h⟩⟩

def ofAdvices (advices : List Advice) : Worklist := advices.foldl append empty

def ofKind (w : Worklist) (kind : AdviceKind) : List Advice :=
  w.advices.filter fun a => a.kind == kind

def functionWrappers (w : Worklist) : List Advice := w.ofKind .functionWrapper

def classHooks (w : Worklist) : List Advice := w.ofKind .classHook

def accessorTriples (w : Worklist) : List Advice := w.ofKind .accessorTriple

/-- All references, in order. -/
def references (w : Worklist) : List Reference := w.advices.flatMap Advice.references

/-- The distinct pairs of a module and its alias. -/
def modules (w : Worklist) : List (String × String) :=
  distinct (w.references.map fun r => (r.originModule, r.shortName))

/-- The distinct files that define the references. -/
def sourceFiles (w : Worklist) : List FilePath :=
  (w.references.map (·.sourceFile)).eraseDupsBy FilePath.same

/-- The distinct directories that must be importable. -/
def searchPaths (w : Worklist) : List FilePath :=
  (w.references.map (·.searchRoot)).eraseDupsBy FilePath.same

/-- The alias of a module: that of its first reference. -/
def aliasFor? (w : Worklist) (key : ModuleKey) : Option String :=
  (w.references.find? fun r => r.moduleKey.same key).map (·.shortName)

/-- Puts other references in place of those there are, which must not make two advices the
same. -/
def mapReferences (w : Worklist) (f : Reference → Reference)
    (hf : ∀ r s, (f r).same (f s) = r.same s) : Worklist :=
  ⟨w.advices.map (Advice.mapReferences f),
    w.noRepeats.map _ fun a b h => (Advice.same_mapReferences hf a b).trans h⟩

end Worklist

end Loom
