import Loom.Weave.Edit
import Loom.Weave.Method
import Loom.Weave.Rebind

/-!
# Weaving advices into a tree

A walk meets the declarations of a tree, outer before inner. On a class it tries every hook at the
class's address, and then every accessor triple at the address of each instance attribute that the
hooks leave; on a function it tries every wrapper. What matches is edited at once, and the walk goes
on into the body that the edits leave. Every try is noted, whether it matched or not.
-/

namespace Loom

/-- One advice tried on one address. -/
structure Test where
  advice : Advice
  address : Address

namespace Test

def matched (t : Test) : Bool := t.advice.isMatch t.address

end Test

/-- A part of a tree as edited so far, and the tests made on the way. -/
structure Tried (α : Type) where
  node : α
  tests : List Test

namespace Tried

/-- Tries an advice on an address, and edits the node if it matches. -/
def attempt {α : Type} (t : Tried α) (advice : Advice) (address : Address) (edit : α → α) :
    Tried α :=
  let test : Test := ⟨advice, address⟩
  ⟨if test.matched then edit t.node else t.node, t.tests ++ [test]⟩

/-- What an edit keeps, a try keeps. -/
theorem node_attempt {α : Type} {P : α → Prop} {t : Tried α} {advice : Advice} {address : Address}
    {edit : α → α} (ht : P t.node) (hedit : ∀ n, P n → P (edit n)) :
    P (t.attempt advice address edit).node := by
  simp only [attempt]
  split
  · exact hedit _ ht
  · exact ht

end Tried

/-! ## Functions -/

namespace FunctionDef

/-- What a function wrapper makes of a function. -/
def wrapWith (a : Advice) (f : Function) : Function :=
  match a with
  | .functionWrapper _ wrapper => f.addWrapper wrapper
  | _ => f

/-- Tries the wrappers in worklist order; a later one goes outside the earlier. -/
def weave (f : Function) (w : Worklist) (address : Address) : Tried Function :=
  w.functionWrappers.foldl (fun t a => t.attempt a address (wrapWith a)) ⟨f, []⟩

end FunctionDef

/-! ## Classes -/

namespace ClassDef

/-- What a class hook makes of a class. -/
def hookWith (a : Advice) (c : Class) : Class :=
  match a with
  | .classHook _ hook => c.setHook hook
  | _ => c

/-- What an accessor triple makes of a class and one of its attributes. -/
def accessWith (a : Advice) (attr : String) (c : Class) : Class :=
  match a with
  | .accessorTriple _ getter setter deleter => c.setAccessor attr getter setter deleter
  | _ => c

/-- Tries the hooks in worklist order. -/
def weaveHooks (c : Class) (w : Worklist) (address : Address) : Tried Class :=
  w.classHooks.foldl (fun t a => t.attempt a address (hookWith a)) ⟨c, []⟩

/-- Tries the hooks, then each accessor triple on every instance attribute. The attributes are those
of the class after its hooks; accessors do not change what is tried. -/
def weave (c : Class) (w : Worklist) (address : Address) : Tried Class :=
  let hooked := c.weaveHooks w address
  let attributes := hooked.node.instanceAttributes
  w.accessorTriples.foldl
    (fun t a => attributes.foldl
      (fun t attr => t.attempt a (address.child attr) (accessWith a attr)) t) hooked

end ClassDef

/-! ## Weights

Edits leave the blocks inside a declaration as they are, so a walk that goes on into an edited body
comes to an end. -/

namespace Stmt

mutual
/-- How many statements with blocks there are in a statement. -/
def weight : Stmt → Nat
  | .functionDef ⟨_, _, _, body⟩ => blockWeight body + 1
  | .classDef ⟨_, _, _, _, body⟩ => blockWeight body + 1
  | .ifElse _ body orelse => blockWeight body + blockWeight orelse + 1
  | .forLoop _ _ body => blockWeight body + 1
  | .whileLoop _ body => blockWeight body + 1
  | _ => 0

def blockWeight : List Stmt → Nat
  | [] => 0
  | s :: rest => weight s + blockWeight rest
end

theorem blockWeight_append (body more : List Stmt) :
    blockWeight (body ++ more) = blockWeight body + blockWeight more := by
  induction body with
  | nil => simp [blockWeight]
  | cons s rest ih => simp [blockWeight, ih, Nat.add_assoc]

theorem weight_unbind? (name : String) (s : Stmt) :
    ((unbind? name s).map weight).getD 0 = weight s := by
  cases s with
  | assign targets value =>
    simp only [unbind?]
    split <;> simp [weight]
  | _ => rfl

theorem blockWeight_unbind (name : String) (body : List Stmt) :
    blockWeight (body.filterMap (unbind? name)) = blockWeight body := by
  induction body with
  | nil => rfl
  | cons s rest ih =>
    have hs := weight_unbind? name s
    cases h : unbind? name s with
    | none =>
      rw [h] at hs
      simp [List.filterMap_cons_none h, blockWeight, ih, ← hs]
    | some kept =>
      rw [h] at hs
      simp [List.filterMap_cons_some h, blockWeight, ih, ← hs]

end Stmt

namespace ClassDef

open Stmt (blockWeight blockWeight_append blockWeight_unbind)

theorem blockWeight_fillBody (body : List Stmt) :
    blockWeight (fillBody body) = blockWeight body := by
  cases body <;> simp [fillBody, blockWeight, Stmt.weight]

theorem blockWeight_setHook (c : Class) (hook : Reference) :
    blockWeight (c.setHook hook).body = blockWeight c.body := by
  simp only [setHook, unbind]
  rw [blockWeight_fillBody, blockWeight_unbind]

theorem blockWeight_setAccessor (c : Class) (attr : String)
    (getter setter deleter : Option Reference) :
    blockWeight (c.setAccessor attr getter setter deleter).body = blockWeight c.body := by
  simp [setAccessor, unbind, blockWeight_append, blockWeight_unbind, accessorBinding,
    Stmt.assignName, blockWeight, Stmt.weight]

end ClassDef

/-! ## Loops

What every single try keeps, a whole declaration keeps. -/

namespace FunctionDef

theorem weave_keeps {w : Worklist} {address : Address} {P : Tried Function → Prop} {f : Function}
    (start : P ⟨f, []⟩)
    (wrapper : ∀ t p r, .functionWrapper p r ∈ w.advices → P t →
      P (t.attempt (.functionWrapper p r) address (·.addWrapper r))) :
    P (f.weave w address) := by
  refine List.foldlRecOn _ _ start fun t ht a ha => ?_
  obtain ⟨ha, kind⟩ := List.mem_filter.1 ha
  cases a with
  | functionWrapper p r => exact wrapper t p r ha ht
  | _ => cases kind

theorem body_weave (f : Function) (w : Worklist) (address : Address) :
    (f.weave w address).node.body = f.body := by
  refine weave_keeps (P := fun t => t.node.body = f.body) rfl fun t p r _ ht => ?_
  exact Tried.node_attempt (P := fun g : Function => g.body = f.body) ht fun _ h => h

end FunctionDef

namespace ClassDef

theorem weave_keeps {w : Worklist} {address : Address} {P : Tried Class → Prop} {c : Class}
    (start : P ⟨c, []⟩)
    (hook : ∀ t p r, .classHook p r ∈ w.advices → P t →
      P (t.attempt (.classHook p r) address (·.setHook r)))
    (accessors : ∀ t p g s d attr, .accessorTriple p g s d ∈ w.advices → P t →
      P (t.attempt (.accessorTriple p g s d) (address.child attr) (·.setAccessor attr g s d))) :
    P (c.weave w address) := by
  refine List.foldlRecOn _ _ (List.foldlRecOn _ _ start fun t ht a ha => ?_) fun t ht a ha => ?_
  · obtain ⟨ha, kind⟩ := List.mem_filter.1 ha
    cases a with
    | classHook p r => exact hook t p r ha ht
    | _ => cases kind
  · obtain ⟨ha, kind⟩ := List.mem_filter.1 ha
    refine List.foldlRecOn _ _ ht fun t ht attr _ => ?_
    cases a with
    | accessorTriple p g s d => exact accessors t p g s d attr ha ht
    | _ => cases kind

theorem blockWeight_weave (c : Class) (w : Worklist) (address : Address) :
    Stmt.blockWeight (c.weave w address).node.body = Stmt.blockWeight c.body := by
  let P (d : Class) : Prop := Stmt.blockWeight d.body = Stmt.blockWeight c.body
  refine weave_keeps (P := fun t => P t.node) rfl (fun t p r _ ht => ?_)
    fun t p g s d attr _ ht => ?_
  · exact Tried.node_attempt (P := P) ht fun _ h => (blockWeight_setHook ..).trans h
  · exact Tried.node_attempt (P := P) ht fun _ h => (blockWeight_setAccessor ..).trans h

end ClassDef

/-! ## Statements -/

namespace Stmt

mutual
/-- Walks a statement that stands inside the declaration at `address`. -/
def weave (w : Worklist) (address : Address) : Stmt → Tried Stmt
  | .functionDef f =>
    let func := f.weave w (address.child f.name)
    let body := weaveBlock w (address.child f.name) func.node.body
    ⟨.functionDef { func.node with body := body.node }, func.tests ++ body.tests⟩
  | .classDef c =>
    let cls := c.weave w (address.child c.name)
    let body := weaveBlock w (address.child c.name) cls.node.body
    ⟨.classDef { cls.node with body := body.node }, cls.tests ++ body.tests⟩
  | .ifElse test body orelse =>
    let body := weaveBlock w address body
    let orelse := weaveBlock w address orelse
    ⟨.ifElse test body.node orelse.node, body.tests ++ orelse.tests⟩
  | .forLoop target iter body =>
    let body := weaveBlock w address body
    ⟨.forLoop target iter body.node, body.tests⟩
  | .whileLoop test body =>
    let body := weaveBlock w address body
    ⟨.whileLoop test body.node, body.tests⟩
  | s => ⟨s, []⟩
termination_by s => (weight s, 0)
decreasing_by
  all_goals refine Prod.Lex.left _ _ ?_
  · rw [FunctionDef.body_weave]; simp only [weight]; omega
  · rw [ClassDef.blockWeight_weave]; simp only [weight]; omega
  all_goals simp only [weight]; omega

def weaveBlock (w : Worklist) (address : Address) : List Stmt → Tried (List Stmt)
  | [] => ⟨[], []⟩
  | s :: rest =>
    let first := weave w address s
    let others := weaveBlock w address rest
    ⟨first.node :: others.node, first.tests ++ others.tests⟩
termination_by body => (blockWeight body, body.length + 1)
decreasing_by
  all_goals simp_wf
  all_goals simp [Prod.lex_def, blockWeight]; omega
end

end Stmt

/-! ## Modules -/

namespace Module

/-- Walks a module known as `localName`. -/
def walk (m : Module) (w : Worklist) (localName : String) : Tried Module :=
  let body := Stmt.weaveBlock w (.root localName) m.body
  ⟨⟨body.node⟩, body.tests⟩

/-- Every try of the walk, in order. -/
def tests (m : Module) (w : Worklist) (localName : String) : List Test := (m.walk w localName).tests

/-- The module with its matching declarations edited. -/
def transform (m : Module) (w : Worklist) (localName : String) : Module := (m.walk w localName).node

/-- The advices that match somewhere, in the order in which the walk finds them. -/
def matchedInWalk (m : Module) (w : Worklist) (localName : String) : Worklist :=
  .ofAdvices (((m.tests w localName).filter (·.matched)).map (·.advice))

/-- The advices that match somewhere, in worklist order. -/
def matched (m : Module) (w : Worklist) (localName : String) : Worklist :=
  .ofAdvices (w.advices.filter (m.matchedInWalk w localName).contains)

/-- Edits the matching declarations and imports what they now use, under the aliases the worklist
has. Nothing keeps these apart from the names of the module. -/
def weaveUnmangled (m : Module) (w : Worklist) (localName : String) : Module × Worklist :=
  let matched := m.matched w localName
  ((m.transform w localName).bindModules matched, matched)

end Module

end Loom
