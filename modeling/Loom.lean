import Loom.Unicode.CharClass
import Loom.Unicode.CaseFolding
import Loom.Unicode.Script
import Loom.Number.Numeral
import Loom.Document.Reader
import Loom.Document.Printer
import Loom.Document.Decode
import Loom.Text.Identifier
import Loom.Text.Quoted
import Loom.Path
import Loom.Tree.Codec
import Loom.Tree.Check
import Loom.Tree.Names
import Loom.Tree.Walk
import Loom.Weave.Method
import Loom.Error
import Loom.Tree.Load
import Loom.Aspect.Pointcut
import Loom.Aspect.Alias
import Loom.Weave.Transform
import Loom.Config
import Loom.Weave.Reachable
import Loom.CommandLine.Run
import Loom.Main
import Loom.Proofs.Weave.Rewriting
import Loom.Proofs.Weave.Bound
import Loom.Proofs.Weave.WellFormed
import Loom.Proofs.Document.Reading
import Loom.Proofs.Document.Nesting
import Loom.Proofs.Tree.Constants
import Loom.Proofs.Tree.Codec
import Loom.Proofs.Tree.Json
import Loom.Proofs.Weave.ReadBack
import Loom.Proofs.Source.ModuleReader
import Loom.Proofs.Weave.SharedRegistry
import Loom.Proofs.Aspect.Pointcut
import Loom.Proofs.Weave.Output
import Loom.Proofs.Weave.Reachable
import Loom.Proofs.Search.Root
import Loom.Proofs.Aspect.Spec
import Loom.Proofs.Aspect.Mangling
import Loom.Proofs.Weave.Binding
import Loom.Proofs.Weave.Respelling
import Loom.Proofs.Weave.Cycle
import Loom.Proofs.Aspect.SpecFile
import Loom.Proofs.Source.TokenReader
import Loom.Proofs.Aspect.Declaration
import Loom.Proofs.Search.Stability
import Loom.Proofs.Weave.Attributes
import Loom.Proofs.Source.Indentation
