import Loom.Aspect.Alias
import Loom.Aspect.Spec

/-!
# Configurations

The settings of a weaving run, each with a default.
-/

namespace Loom

structure Config where
  /-- Extra roots for resolving advice modules. -/
  searchPaths : List FilePath := []
  /-- The directory from which modules take their local names. -/
  basePath : Option FilePath := none
  /-- The extension of tree files. -/
  treeExtension : String := "json"
  /-- How many underscores are tried for an alias. -/
  aliasAttempts : Nat := defaultAliasAttempts
  /-- Weave but write nothing. -/
  dryRun : Bool := false
  /-- Print the source of woven modules. -/
  display : Bool := false
  deriving Repr

namespace Config

open Document

def decode : Decoder Config
  | 0, _ => none
  | n + 1, d => do
    let r ← fields
      ["search_paths", "base_path", "tree_extension", "max_mangle_attempts", "dry_run", "display"] d
    let missing : Config := {}
    let searchPaths ← r.getD "search_paths" (Decoder.list Decoder.path n) missing.searchPaths
    let basePath ← r.getD "base_path" (Decoder.optional Decoder.path n) missing.basePath
    let treeExtension ← r.getD "tree_extension" (Decoder.string n) missing.treeExtension
    let aliasAttempts ← r.getD "max_mangle_attempts" (Decoder.size n) missing.aliasAttempts
    let dryRun ← r.getD "dry_run" (Decoder.bool n) missing.dryRun
    let display ← r.getD "display" (Decoder.bool n) missing.display
    some { searchPaths, basePath, treeExtension, aliasAttempts, dryRun, display }

def ofDocument? (d : Document) : Option Config := decode nestingLimit d

def ofJson (text : String) : Except WeaveError Config :=
  match (Document.parse text).bind ofDocument? with
  | some c => .ok c
  | none => .error .badDocument

def load (fs : FileSystem) (path : FilePath) : Except WeaveError Config := do
  let text ← (fs.readText path).mapError .file
  ofJson text

end Config

end Loom
