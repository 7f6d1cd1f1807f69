import Loom.Aspect.Pointcut
import Loom.Aspect.Reference

/-!
# Advices

One weaving instruction: what to do with the declarations that a pointcut matches.
-/

namespace Loom

inductive AdviceKind where
  | functionWrapper
  | classHook
  | accessorTriple
  deriving DecidableEq, Repr

def AdviceKind.text : AdviceKind → String
  | functionWrapper => "function wrapper"
  | classHook => "class hook"
  | accessorTriple => "accessor triple"

inductive Advice where
  /-- Decorate functions with `wrapper`. -/
  | functionWrapper (pointcut : Pointcut) (wrapper : Reference)
  /-- Make `hook` the metaclass of classes. -/
  | classHook (pointcut : Pointcut) (hook : Reference)
  /-- Route instance attributes through a property. -/
  | accessorTriple (pointcut : Pointcut) (getter setter deleter : Option Reference)

namespace Advice

def kind : Advice → AdviceKind
  | .functionWrapper .. => .functionWrapper
  | .classHook .. => .classHook
  | .accessorTriple .. => .accessorTriple

def pointcut : Advice → Pointcut
  | .functionWrapper p _ => p
  | .classHook p _ => p
  | .accessorTriple p _ _ _ => p

def pattern (a : Advice) : String := a.pointcut.pattern

/-- The references in order, with the absent ones. -/
def slots : Advice → List (Option Reference)
  | .functionWrapper _ wrapper => [some wrapper]
  | .classHook _ hook => [some hook]
  | .accessorTriple _ getter setter deleter => [getter, setter, deleter]

def references (a : Advice) : List Reference := a.slots.filterMap id

def mapReferences (f : Reference → Reference) : Advice → Advice
  | .functionWrapper p wrapper => .functionWrapper p (f wrapper)
  | .classHook p hook => .classHook p (f hook)
  | .accessorTriple p getter setter deleter =>
    .accessorTriple p (getter.map f) (setter.map f) (deleter.map f)

def sameSlot : Option Reference → Option Reference → Bool
  | none, none => true
  | some a, some b => a.same b
  | _, _ => false

def sameSlots : List (Option Reference) → List (Option Reference) → Bool
  | [], [] => true
  | a :: as, b :: bs => sameSlot a b && sameSlots as bs
  | _, _ => false

/-- Whether two advices have the same kind, pattern and references. -/
def same (a b : Advice) : Bool :=
  a.kind == b.kind && a.pattern == b.pattern && sameSlots a.slots b.slots

def slotText : Option Reference → String
  | none => "-"
  | some r => r.text

def text (a : Advice) : String :=
  a.kind.text ++ " '" ++ a.pattern ++ "' -> (" ++ ", ".intercalate (a.slots.map slotText) ++ ")"

def isMatch (a : Advice) (address : Address) : Bool := a.pointcut.isMatch address.text

/-! ## Mapped references -/

section

variable (f : Reference → Reference)

@[simp] theorem kind_mapReferences (a : Advice) : (a.mapReferences f).kind = a.kind := by
  cases a <;> rfl

@[simp] theorem pointcut_mapReferences (a : Advice) :
    (a.mapReferences f).pointcut = a.pointcut := by
  cases a <;> rfl

@[simp] theorem slots_mapReferences (a : Advice) :
    (a.mapReferences f).slots = a.slots.map (Option.map f) := by
  cases a <;> rfl

@[simp] theorem references_mapReferences (a : Advice) :
    (a.mapReferences f).references = a.references.map f := by
  simp only [references, slots_mapReferences, List.filterMap_map, List.map_filterMap]
  rfl

variable {f}

theorem sameSlots_map (hf : ∀ r s, (f r).same (f s) = r.same s) :
    ∀ as bs : List (Option Reference),
      sameSlots (as.map (Option.map f)) (bs.map (Option.map f)) = sameSlots as bs
  | [], [] => rfl
  | [], _ :: _ => rfl
  | _ :: _, [] => rfl
  | a :: as, b :: bs => by
    simp only [List.map_cons, sameSlots, sameSlots_map hf as bs]
    cases a <;> cases b <;> simp [sameSlot, hf]

/-- A map of references under which two are the same just when they were keeps apart the advices
that were apart. -/
theorem same_mapReferences (hf : ∀ r s, (f r).same (f s) = r.same s) (a b : Advice) :
    (a.mapReferences f).same (b.mapReferences f) = a.same b := by
  simp only [same, pattern, kind_mapReferences, pointcut_mapReferences, slots_mapReferences,
    sameSlots_map hf]

end

end Advice

end Loom
