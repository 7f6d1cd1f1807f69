import Loom.Aspect.Worklist
import Loom.Search.Resolver

/-!
# Aspects

Advices are authored with handles for the declarations they use. An aspect is a named group of
advices whose handles are resolved as they are added, so that it never refers to a module that cannot
be found. A handle fails before the pattern does, and of several handles the first.
-/

namespace Loom

/-- An advice as it is authored. -/
inductive AdviceSpec where
  | functionWrapper (pattern wrapper : String)
  | classHook (pattern hook : String)
  | accessorTriple (pattern : String) (getter setter deleter : Option String)
  deriving DecidableEq, Repr

namespace Reference

/-- The declaration of a handle, as the locator finds it. -/
def resolve (locate : Locator) (handle : String) : Except WeaveError Reference := do
  let d ← Declaration.parse handle
  let file ← locate d.module
  .ok (.ofParts d.module d.name file)

def resolveOptional (locate : Locator) : Option String → Except WeaveError (Option Reference)
  | none => .ok none
  | some handle => (resolve locate handle).map some

end Reference

namespace AdviceSpec

def resolve (locate : Locator) : AdviceSpec → Except WeaveError Advice
  | .functionWrapper pattern wrapper => do
    let wrapper ← Reference.resolve locate wrapper
    .ok (.functionWrapper (← Pointcut.ofPattern pattern) wrapper)
  | .classHook pattern hook => do
    let hook ← Reference.resolve locate hook
    .ok (.classHook (← Pointcut.ofPattern pattern) hook)
  | .accessorTriple pattern getter setter deleter => do
    let getter ← Reference.resolveOptional locate getter
    let setter ← Reference.resolveOptional locate setter
    let deleter ← Reference.resolveOptional locate deleter
    .ok (.accessorTriple (← Pointcut.ofPattern pattern) getter setter deleter)

end AdviceSpec

/-- A named group of advices. -/
structure Aspect where
  name : String
  advices : List Advice

namespace Aspect

def empty (name : String) : Aspect := ⟨name, []⟩

def push (a : Aspect) (advice : Advice) : Aspect := { a with advices := a.advices ++ [advice] }

/-- Resolves an authored advice and adds it. -/
def add (a : Aspect) (locate : Locator) (spec : AdviceSpec) : Except WeaveError Aspect := do
  .ok (a.push (← spec.resolve locate))

end Aspect

/-- The advices of all aspects in order. -/
def Worklist.ofAspects (aspects : List Aspect) : Worklist := .ofAdvices (aspects.flatMap (·.advices))

end Loom
