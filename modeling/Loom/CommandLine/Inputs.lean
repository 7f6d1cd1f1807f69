import Loom.CommandLine.Run

/-!
# Inputs of a run

Which paths a run may look at, so that no more of the surroundings has to be read than these: first
the configuration and the spec, then, once these are known, the files that may define the modules of
the advices. The target and the output directory are looked at whole.
-/

namespace Loom.CommandLine

/-- The names that lead to a path from the root, when `..` takes back the name before it. -/
def stepName (names : List String) : Component → List String
  | .normal name => names ++ [name]
  | .parent => names.dropLast
  | _ => names

def namesOf (cwd p : FilePath) : List String :=
  ((p.absolute? cwd).getD cwd).components.foldl stepName []

/-- The path that the names spell. -/
def pathOf (names : List String) : FilePath := names.foldl FilePath.join ⟨"/"⟩

/-- What is read before anything else. -/
def Request.documents : Request → List FilePath
  | .run spec _ o => ⟨spec⟩ :: (o.config.map FilePath.mk).toList
  | _ => []

/-- What is read with everything below it. -/
def Request.trees : Request → List FilePath
  | .run _ target o => [⟨target⟩, ⟨o.out.getD defaultOut⟩]
  | _ => []

def handles : AdviceSpec → List String
  | .functionWrapper _ wrapper => [wrapper]
  | .classHook _ hook => [hook]
  | .accessorTriple _ getter setter deleter => [getter, setter, deleter].filterMap id

/-- The modules that the entries of a spec name. -/
def modulesOf (spec : AspectSpec) : List String :=
  ((spec.aspects.flatMap (·.2)).flatMap handles).filterMap fun handle =>
    (Declaration.parse handle).toOption.map (·.module)

/-- The files that may define the modules of the advices. -/
def Request.candidates (fs : FileSystem) : Request → List FilePath
  | .run specPath _ o =>
    match loadConfig fs o, AspectSpec.load fs ⟨specPath⟩ with
    | .ok config, .ok spec =>
      let paths := (spec.resolver config.searchPaths).withWorkingDir fs
      (modulesOf spec).flatMap fun module =>
        paths.searched.flatMap fun root => paths.candidates root module
    | _, _ => []
  | _ => []

/-- The entries that a run made or changed, in the order in which it did. -/
def Report.changes (r : Report) (before : FileSystem) : List Entry :=
  (r.files.entries.filter fun e => !before.entries.contains e).reverse

end Loom.CommandLine
