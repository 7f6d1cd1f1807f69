import Loom.Search.Resolver
import Loom.Weave.ModuleFile

/-!
# Modules reached through imports

The modules that a module imports, those that these import, and so on, breadth first. An import that
cannot be located and a module that cannot be written are passed over, with what they import. The
search goes round by round; every round but the last finds a file that no earlier one had, and files
are found under names that some tree imports, so there are no more rounds than such names.
-/

namespace Loom

/-- What a round of the search has found, and the files it has come across. -/
structure Frontier where
  seen : List FilePath
  found : List ModuleFile

namespace ModuleFile

/-- Looks at the imports of one round in order. -/
def reachRound (fs : FileSystem) (locate : Locator) (base : Option FilePath) :
    List String → Frontier → Except WeaveError Frontier
  | [], frontier => .ok frontier
  | module :: rest, ⟨seen, found⟩ =>
    match locate module with
    | .error _ => reachRound fs locate base rest ⟨seen, found⟩
    | .ok file =>
      if seen.any (·.same file) then reachRound fs locate base rest ⟨seen, found⟩
      else if !fs.isWritable file then reachRound fs locate base rest ⟨seen ++ [file], found⟩
      else do
        let m ← (ofFile fs.workingDir file base).load fs
        reachRound fs locate base rest ⟨seen ++ [file], found ++ [m]⟩

/-- The modules that a loaded module imports. -/
def importsOrNone (m : ModuleFile) : List String := (m.tree.map (·.imports)).getD []

/-- Goes through at most `rounds` rounds, starting with `modules`. -/
def reachWithin (fs : FileSystem) (locate : Locator) (base : Option FilePath) :
    (rounds : Nat) → (modules : List String) → (seen : List FilePath) →
    Except WeaveError (List ModuleFile)
  | 0, _, _ => .ok []
  | rounds + 1, modules, seen => do
    let frontier ← reachRound fs locate base modules ⟨seen, []⟩
    if frontier.found.isEmpty then .ok []
    else
      let further ← reachWithin fs locate base rounds (frontier.found.flatMap importsOrNone)
        frontier.seen
      .ok (frontier.found ++ further)

/-- The modules that the tree in a file imports. -/
def importsAt (e : Entry) : List String :=
  match e.node with
  | .file (some text) =>
    match Module.load text with
    | .ok tree => tree.imports
    | .error _ => []
  | _ => []

/-- The loaded modules that can be reached from a module. -/
def reachable (m : ModuleFile) (fs : FileSystem) (locate : Locator) :
    Except WeaveError (List ModuleFile) := do
  let imports ← m.imports
  let importable := distinct (imports ++ fs.entries.flatMap importsAt)
  reachWithin fs locate m.base (importable.length + 1) imports [m.file]

end ModuleFile

end Loom
