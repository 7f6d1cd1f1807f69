import Loom.Text.Segments

/-!
# Command-line options

What the arguments ask for. An option takes its value from the same argument after `=`, or from the
next one if that does not itself look like an option; `-I` may be repeated, every other option and
flag may not. After `--` every argument is a target. Asking for the version or for help ends the
reading where it stands.
-/

namespace Loom.CommandLine

structure Options where
  spec : Option String := none
  target : Option String := none
  base : Option String := none
  includes : List String := []
  out : Option String := none
  config : Option String := none
  dryRun : Bool := false
  display : Bool := false
  debug : Bool := false
  deriving DecidableEq, Repr

/-- Options that take a value. -/
inductive Valued where
  | spec
  | base
  | path
  | out
  | config
  deriving DecidableEq, Repr

/-- Options that take none. -/
inductive Flag where
  | dryRun
  | display
  | debug
  | help
  | version
  deriving DecidableEq, Repr

/-- What the arguments ask for. -/
inductive Request where
  | version
  | help
  /-- The arguments make no sense. -/
  | misuse
  | run (spec target : String) (options : Options)
  deriving Repr

namespace Options

def longValued? (name : String) : Option Valued :=
  [("spec", Valued.spec), ("base", .base), ("out", .out), ("config", .config)].lookup name

def longFlag? (name : String) : Option Flag :=
  [("dry-run", Flag.dryRun), ("display", .display), ("debug", .debug), ("help", .help),
    ("version", .version)].lookup name

/-- Gives an option its value; none if it has one and takes no second. -/
def setValue (o : Options) (value : String) : Valued → Option Options
  | .spec => if o.spec.isSome then none else some { o with spec := value }
  | .base => if o.base.isSome then none else some { o with base := value }
  | .path => some { o with includes := o.includes ++ [value] }
  | .out => if o.out.isSome then none else some { o with out := value }
  | .config => if o.config.isSome then none else some { o with config := value }

/-- An argument after the options were read so far: another state, or the end. -/
inductive Step where
  | next (options : Options) (pending : Option Valued)
  | done (request : Request)

def finishValue (o : Options) (option : Valued) (value : String) : Step :=
  match o.setValue value option with
  | some o => .next o none
  | none => .done .misuse

/-- Raises a flag, once. -/
def raise (o : Options) : Flag → Step
  | .dryRun => if o.dryRun then .done .misuse else .next { o with dryRun := true } none
  | .display => if o.display then .done .misuse else .next { o with display := true } none
  | .debug => if o.debug then .done .misuse else .next { o with debug := true } none
  | .help => .done .help
  | .version => .done .version

/-- Cuts at the first `=`. -/
def cutValue (cs : List Char) : String × Option String :=
  match cs.dropWhile (· != '=') with
  | [] => (String.ofList cs, none)
  | _ :: value => (String.ofList (cs.takeWhile (· != '=')), some (String.ofList value))

/-- Reads `--name` or `--name=value`. -/
def readLong (o : Options) (cs : List Char) : Step :=
  let (name, value) := cutValue cs
  match longValued? name, longFlag? name, value with
  | some option, _, some value => o.finishValue option value
  | some option, _, none => .next o (some option)
  | none, some flag, none => o.raise flag
  | _, _, _ => .done .misuse

/-- Reads what follows a single dash. -/
def readShort (o : Options) : List Char → Step
  | ['I'] => .next o (some .path)
  | 'I' :: '=' :: value => o.finishValue .path (String.ofList value)
  | 'I' :: value => o.finishValue .path (String.ofList value)
  | 'V' :: _ => .done .version
  | 'h' :: _ => .done .help
  | _ => .done .misuse

def readTarget (o : Options) (arg : String) : Step :=
  if o.target.isSome then .done .misuse else .next { o with target := arg } none

/-- Whether an argument is an option by its look. -/
def isOption : List Char → Bool
  | '-' :: _ :: _ => true
  | _ => false

def readArg (o : Options) (pending : Option Valued) (arg : String) : Step :=
  match pending, arg.toList with
  | some option, cs => if isOption cs then .done .misuse else o.finishValue option arg
  | none, '-' :: '-' :: cs => o.readLong cs
  | none, '-' :: c :: cs => o.readShort (c :: cs)
  | none, _ => o.readTarget arg

/-- The options are complete when a spec and a target are given. -/
def finish (o : Options) : Request :=
  match o.spec, o.target with
  | some spec, some target => .run spec target o
  | _, _ => .misuse

def readTargets (o : Options) : List String → Request
  | [] => o.finish
  | arg :: rest =>
    match o.readTarget arg with
    | .next o _ => o.readTargets rest
    | .done request => request

def readArgs (o : Options) : (pending : Option Valued) → List String → Request
  | none, [] => o.finish
  | some _, [] => .misuse
  | pending, arg :: rest =>
    if arg = "--" then
      match pending with
      | none => o.readTargets rest
      | some _ => .misuse
    else
      match o.readArg pending arg with
      | .next o pending => readArgs o pending rest
      | .done request => request

end Options

/-- What a list of arguments asks for. -/
def Request.ofArgs (args : List String) : Request := ({} : Options).readArgs none args

end Loom.CommandLine
