import Loom.CommandLine.Options
import Loom.Config
import Loom.Weave.Output
import Loom.Weave.Summary

/-!
# Runs of the command line

A run weaves the aspects of a spec into one module, or into all modules of a directory, and reports
what it did. It ends early when the configuration or the spec cannot be used; a module that fails
does not keep the others from being woven.
-/

namespace Loom.CommandLine

/-- What a run leaves behind. -/
structure Report where
  exitCode : Nat
  stdout : String
  stderr : String
  files : FileSystem

/-- Why a run ends before any module is woven. -/
inductive Fatal where
  | config (path : String) (error : WeaveError)
  | spec (path : String) (error : WeaveError)
  | aspects (error : WeaveError)
  | notDirectory (dir : FilePath)

/-- The message, and for a pattern the first line of what is wrong with it. -/
def Fatal.message : Fatal → String
  | config path _ => "loading " ++ path
  | spec path _ => "loading spec " ++ path
  | aspects (.badPattern pattern fault) =>
    (WeaveError.badPattern pattern fault).message ++ ": " ++ fault.headline
  | aspects error => error.message
  | notDirectory dir => "Not a directory: " ++ dir.text

/-- The configuration: that of the file, with what the options add or replace. -/
def loadConfig (fs : FileSystem) (o : Options) : Except Fatal Config := do
  let config ← match o.config with
    | some path => (Config.load fs ⟨path⟩).mapError (.config path)
    | none => .ok {}
  .ok { config with
    searchPaths := config.searchPaths ++ o.includes.map FilePath.mk
    basePath := (o.base.map FilePath.mk).or config.basePath
    dryRun := config.dryRun || o.dryRun
    display := config.display || o.display }

def loadWorklist (fs : FileSystem) (spec : String) (config : Config) : Except Fatal Worklist := do
  let aspects ← (AspectSpec.load fs ⟨spec⟩).mapError (.spec spec)
  let paths := (aspects.resolver config.searchPaths).withWorkingDir fs
  (aspects.worklist (paths.locate fs)).mapError .aspects

/-- The modules to weave, with the base that names them. -/
def targets (fs : FileSystem) (target : FilePath) (config : Config) :
    Except Fatal (List FilePath × Option FilePath) :=
  if fs.isDir target then
    match fs.modulesBelow? target config.treeExtension with
    | some files => .ok (files, config.basePath.or (some target))
    | none => .error (.notDirectory target)
  else .ok ([target], config.basePath)

/-- How far a run has come. -/
structure Progress where
  files : FileSystem
  registry : Registry
  summary : Summary
  stdout : String

/-- Prints and writes a woven module as the configuration says. -/
def emit (config : Config) (out : FilePath) (m : ModuleFile) (p : Progress) : Progress :=
  let shown := match m.tree with
    | some tree => if config.display then "# " ++ m.localName ++ "\n" ++ tree.source ++ "\n" else ""
    | none => ""
  let p := { p with stdout := p.stdout ++ shown }
  if config.dryRun then p
  else
    match m.write p.files out with
    | (.ok _, files) => { p with files }
    | (.error e, files) =>
      { p with
        files
        summary := p.summary.addError ("Error writing " ++ m.localName ++ ": " ++ e.message) }

/-- Weaves one file. -/
def weaveFile (w : Worklist) (config : Config) (base : Option FilePath) (out : FilePath)
    (p : Progress) (file : FilePath) : Progress :=
  let outcome := do
    let m ← (ModuleFile.ofFile p.files.workingDir file base).load p.files
    m.weave w p.registry config.aliasAttempts
  let p := { p with summary := p.summary.record file outcome }
  match outcome with
  | .ok o =>
    if o.woven then emit config out o.module { p with registry := o.registry } else p
  | .error _ => p

/-- The directory that outputs go to unless one is given. -/
def defaultOut : String := "woven"

def weaveAll (fs : FileSystem) (spec target : String) (o : Options) : Except Fatal Progress := do
  let config ← loadConfig fs o
  let w ← loadWorklist fs spec config
  let (files, base) ← targets fs ⟨target⟩ config
  let out : FilePath := ⟨o.out.getD defaultOut⟩
  .ok (files.foldl (weaveFile w config base out) ⟨fs, .empty, .empty, ""⟩)

def usage : String :=
  "Usage: weave [OPTIONS] --spec <FILE> <TARGET>\n"

def lines (texts : List String) : String := String.join (texts.map fun t => t ++ "\n")

/-- Answers a request. -/
def answer (fs : FileSystem) : Request → Report
  | .version => ⟨0, "weave 0.1.0\n", "", fs⟩
  | .help => ⟨0, usage, "", fs⟩
  | .misuse => ⟨2, "", usage, fs⟩
  | .run spec target o =>
    match weaveAll fs spec target o with
    | .error fatal => ⟨1, "", "Error: " ++ fatal.message ++ "\n", fs⟩
    | .ok p =>
      ⟨if p.summary.success then 0 else 1, p.stdout ++ p.summary.line ++ "\n",
        lines p.summary.errors, p.files⟩

def run (fs : FileSystem) (args : List String) : Report := answer fs (.ofArgs args)

end Loom.CommandLine
